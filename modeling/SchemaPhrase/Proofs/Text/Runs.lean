import SchemaPhrase.Proofs.Text.Spacing

/-!
# Runs of blanks and of other characters

* `words_append_run`: a run of characters that are not blank goes into one word as a whole. So a key
  without blanks is found in a collapsed text if it stands in the text (`infix_collapse`).
* `words_flatMap`: a map on characters that keeps blanks maps the words one by one, so it may be
  taken before a collapse or after (`collapse_flatMap`).
* `eq_append_trim`: a trim takes away blanks only. Where no two blanks stand side by side, a
  collapse does no more than that and writes each blank as a space
  (`SinglySpaced.collapse_eq`).
-/

set_option autoImplicit false

namespace SchemaPhrase.Text

/-! ## Runs that are not blank -/

/-- Puts a run of characters that are not blank in front of the words of the text after it. -/
def growRun (run : List Char) : List Char → List (List Char) → List (List Char)
  | d :: _, word :: others => if isBlank d then run :: word :: others else (run ++ word) :: others
  | _, others => run :: others

theorem growWord_eq_growRun (c : Char) (rest : List Char) (others : List (List Char)) :
    growWord c rest others = growRun [c] rest others := by
  cases rest <;> cases others <;> rfl

/-- A run that goes on with another one. -/
theorem growRun_append {run more : List Char} (hne : more ≠ [])
    (h : ∀ c ∈ more, isBlank c = false) (rest : List Char) (others : List (List Char)) :
    growRun run (more ++ rest) (growRun more rest others) = growRun (run ++ more) rest others := by
  obtain ⟨d, tail, rfl⟩ := List.exists_cons_of_ne_nil hne
  have hd := h d List.mem_cons_self
  cases rest with
  | nil => simp [growRun, hd]
  | cons e rest =>
    cases others with
    | nil => simp [growRun, hd]
    | cons word others =>
      by_cases he : isBlank e = true
      · simp [growRun, hd, he]
      · simp [growRun, hd, he]

/-- **A run that is not blank goes into one word.** -/
theorem words_append_run {run : List Char} (rest : List Char) (hne : run ≠ [])
    (h : ∀ c ∈ run, isBlank c = false) :
    words (run ++ rest) = growRun run rest (words rest) := by
  induction run with
  | nil => exact absurd rfl hne
  | cons c run ih =>
    have hc := h c List.mem_cons_self
    have hrun := fun d hd => h d (List.mem_cons_of_mem _ hd)
    rw [List.cons_append, words, if_neg (by simp [hc]), growWord_eq_growRun]
    by_cases hnil : run = []
    · rw [hnil, List.nil_append]
    · rw [ih hnil hrun, growRun_append hnil hrun, List.singleton_append]

theorem mem_growRun_or {run rest word : List Char} {others : List (List Char)}
    (h : word ∈ others) :
    word ∈ growRun run rest others ∨ run ++ word ∈ growRun run rest others := by
  cases others with
  | nil => cases h
  | cons first others =>
    cases rest with
    | nil => exact .inl (List.mem_cons_of_mem _ h)
    | cons d rest =>
      by_cases hd : isBlank d = true
      · simp only [growRun, hd, if_true]
        exact .inl (List.mem_cons_of_mem _ h)
      · simp only [growRun, hd, Bool.false_eq_true, if_false]
        rcases List.mem_cons.1 h with rfl | h
        · exact .inr List.mem_cons_self
        · exact .inl (List.mem_cons_of_mem _ h)

theorem exists_append_mem_growRun (run rest : List Char) (others : List (List Char)) :
    ∃ more, run ++ more ∈ growRun run rest others := by
  cases rest with
  | nil => exact ⟨[], by simp [growRun]⟩
  | cons d rest =>
    cases others with
    | nil => exact ⟨[], by simp [growRun]⟩
    | cons word others =>
      by_cases hd : isBlank d = true
      · exact ⟨[], by simp [growRun, hd]⟩
      · exact ⟨word, by simp [growRun, hd]⟩

theorem exists_word_of_infix {key text : List Char} (hne : key ≠ [])
    (hk : ∀ c ∈ key, isBlank c = false) (h : key <:+: text) :
    ∃ word ∈ words text, key <:+: word := by
  obtain ⟨front, back, rfl⟩ := h
  induction front with
  | nil =>
    rw [List.nil_append, words_append_run back hne hk]
    obtain ⟨more, hmore⟩ := exists_append_mem_growRun key back (words back)
    exact ⟨key ++ more, hmore, (List.prefix_append _ _).isInfix⟩
  | cons c front ih =>
    obtain ⟨word, hword, hinfix⟩ := ih
    by_cases hc : isBlank c = true
    · rw [List.cons_append, List.cons_append, words_blank _ hc]
      exact ⟨word, hword, hinfix⟩
    · rw [List.cons_append, List.cons_append, words, if_neg hc, growWord_eq_growRun]
      rcases mem_growRun_or hword with hm | hm
      · exact ⟨word, hm, hinfix⟩
      · exact ⟨[c] ++ word, hm, hinfix.trans (List.suffix_append _ _).isInfix⟩

theorem infix_joinWords_of_mem {pieces : List (List Char)} {piece : List Char}
    (h : piece ∈ pieces) : piece <:+: joinWords pieces := by
  obtain ⟨before, after, rfl⟩ := List.append_of_mem h
  exact ⟨_, _, (joinWords_around before piece after).symm⟩

/-- **A key without blanks outlives a collapse.** -/
theorem infix_collapse {key text : List Char} (hne : key ≠ [])
    (hk : ∀ c ∈ key, isBlank c = false) (h : key <:+: text) : key <:+: collapse text := by
  obtain ⟨word, hword, hinfix⟩ := exists_word_of_infix hne hk h
  exact hinfix.trans (infix_joinWords_of_mem hword)

/-! ## Maps that keep blanks -/

/-- A map on characters that leaves blanks alone and makes none. -/
structure KeepsBlanks (f : Char → List Char) : Prop where
  blank : ∀ c, isBlank c = true → f c = [c]
  ne_nil : ∀ c, f c ≠ []
  solid : ∀ c, isBlank c = false → ∀ d ∈ f c, isBlank d = false

section
variable {f : Char → List Char} (hf : KeepsBlanks f)
include hf

theorem growRun_flatMap (c : Char) (text : List Char) :
    growRun (f c) (text.flatMap f) ((words text).map (·.flatMap f)) =
      (growRun [c] text (words text)).map (·.flatMap f) := by
  cases text with
  | nil => simp [growRun]
  | cons d text =>
    by_cases hd : isBlank d = true
    · rw [List.flatMap_cons, hf.blank d hd, List.singleton_append]
      cases words (d :: text) with
      | nil => simp [growRun]
      | cons word others => simp [growRun, hd]
    · have hd : isBlank d = false := by simpa using hd
      obtain ⟨e, tail, he⟩ := List.exists_cons_of_ne_nil (hf.ne_nil d)
      have hsolid : isBlank e = false := hf.solid d hd e (he ▸ List.mem_cons_self)
      rw [List.flatMap_cons, he, List.cons_append]
      cases words (d :: text) with
      | nil => simp [growRun]
      | cons word others => simp [growRun, hd, hsolid]

/-- **Words are mapped one by one.** -/
theorem words_flatMap (text : List Char) :
    words (text.flatMap f) = (words text).map (·.flatMap f) := by
  induction text with
  | nil => rfl
  | cons c text ih =>
    rw [List.flatMap_cons]
    by_cases hc : isBlank c = true
    · rw [hf.blank c hc, List.singleton_append, words_blank _ hc, words_blank _ hc, ih]
    · rw [words, if_neg hc, growWord_eq_growRun]
      have hc : isBlank c = false := by simpa using hc
      rw [words_append_run _ (hf.ne_nil c) (hf.solid c hc), ih, growRun_flatMap hf c]

theorem joinWords_flatMap (pieces : List (List Char)) :
    joinWords (pieces.map (·.flatMap f)) = (joinWords pieces).flatMap f := by
  induction pieces with
  | nil => rfl
  | cons piece pieces ih =>
    cases pieces with
    | nil => rfl
    | cons next pieces =>
      rw [joinWords_cons_cons, List.flatMap_append, List.flatMap_cons,
        hf.blank ' ' isBlank_space, ← ih]
      rfl

theorem collapse_flatMap (text : List Char) :
    collapse (text.flatMap f) = (collapse text).flatMap f := by
  rw [collapse, words_flatMap hf, joinWords_flatMap hf]
  rfl

end

/-! ## Single blanks -/

/-- What a trim takes away is blank. -/
theorem eq_append_trim (text : List Char) :
    ∃ before after, (∀ c ∈ before, isBlank c = true) ∧ (∀ c ∈ after, isBlank c = true) ∧
      text = before ++ (trim text ++ after) := by
  have hrun : ∀ text : List Char, ∀ c ∈ text.takeWhile isBlank, isBlank c = true := fun _ =>
    List.all_eq_true.1 List.all_takeWhile
  obtain ⟨back, hback⟩ : ∃ back, back = (text.dropWhile isBlank).reverse := ⟨_, rfl⟩
  refine ⟨text.takeWhile isBlank, (back.takeWhile isBlank).reverse, hrun text, fun c hc => ?_, ?_⟩
  · exact hrun back c (List.mem_reverse.1 hc)
  · rw [trim, ← hback, ← List.reverse_append, List.takeWhile_append_dropWhile, hback,
      List.reverse_reverse, List.takeWhile_append_dropWhile]

theorem count_trim {c : Char} (hc : isBlank c = false) (text : List Char) :
    (trim text).count c = text.count c := by
  have hnone : ∀ {blanks : List Char}, (∀ d ∈ blanks, isBlank d = true) → blanks.count c = 0 :=
    fun hblanks => List.count_eq_zero_of_not_mem fun hm => by simp [hblanks c hm] at hc
  obtain ⟨before, after, hbefore, hafter, htext⟩ := eq_append_trim text
  have hcount := congrArg (List.count c) htext
  rw [List.count_append, List.count_append, hnone hbefore, hnone hafter] at hcount
  omega

/-- A blank as a space. -/
def spaceBlank (c : Char) : Char :=
  if isBlank c then ' ' else c

/-- Between its ends the text has no two blanks side by side. -/
def SinglySpaced (text : List Char) : Prop :=
  (trim text).IsChain fun c d => ¬ (isBlank c = true ∧ isBlank d = true)

instance (text : List Char) : Decidable (SinglySpaced text) := by
  unfold SinglySpaced
  infer_instance

theorem head?_dropWhile_eq_false {p : Char → Bool} {text : List Char} {c : Char}
    (h : (text.dropWhile p).head? = some c) : p c = false := by
  have hhead := List.head?_dropWhile_not p text
  rw [h] at hhead
  simpa using hhead

theorem not_blank_ends_trim (text : List Char) :
    (∀ c, (trim text).head? = some c → isBlank c = false) ∧
      ∀ c, (trim text).getLast? = some c → isBlank c = false := by
  constructor
  · intro c hc
    have hprefix : trim text <+: text.dropWhile isBlank := by
      rw [trim, ← List.reverse_suffix, List.reverse_reverse]
      exact List.dropWhile_suffix _
    obtain ⟨rest, hrest⟩ := hprefix
    have hhead : (text.dropWhile isBlank).head? = some c := by
      rw [← hrest, List.head?_append, hc]
      rfl
    exact head?_dropWhile_eq_false hhead
  · intro c hc
    rw [trim, List.getLast?_reverse] at hc
    exact head?_dropWhile_eq_false hc

/-- The recursion passes over a character, or over a character and the blank behind it. -/
theorem collapse_of_isChain : ∀ {text : List Char},
    text.IsChain (fun c d => ¬ (isBlank c = true ∧ isBlank d = true)) →
    (∀ c, text.head? = some c → isBlank c = false) →
    (∀ c, text.getLast? = some c → isBlank c = false) → collapse text = text.map spaceBlank
  | [], _, _, _ => rfl
  | [c], _, hhead, _ => by
    have hc := hhead c rfl
    simp [collapse, words, hc, growWord, spaceBlank]
  | c :: d :: rest, hchain, hhead, hlast => by
    have hc := hhead c rfl
    have hcspace : spaceBlank c = c := by simp [spaceBlank, hc]
    have htail := (List.isChain_cons_cons.1 hchain).2
    rw [collapse, words, if_neg (by simp [hc])]
    by_cases hd : isBlank d = true
    · cases rest with
      | nil =>
        have := hlast d rfl
        simp [hd] at this
      | cons e rest =>
        have he : isBlank e = false := by
          simpa [hd] using (List.isChain_cons_cons.1 htail).1
        have hdspace : spaceBlank d = ' ' := by simp [spaceBlank, hd]
        have ih := collapse_of_isChain (List.isChain_cons_cons.1 htail).2
          (fun a ha => by cases ha; exact he) (fun a ha => hlast a (by simpa using ha))
        rw [growWord_blank _ _ hd, words_blank _ hd, joinWords_cons _ (words_ne_nil rest he),
          ← collapse, ih, List.map_cons (a := c), List.map_cons (a := d), hcspace, hdspace]
        rfl
    · have hd : isBlank d = false := by simpa using hd
      have ih := collapse_of_isChain htail (fun a ha => by cases ha; exact hd)
        (fun a ha => hlast a (by simpa using ha))
      obtain ⟨word, others, hw⟩ := List.exists_cons_of_ne_nil (words_ne_nil rest hd)
      rw [collapse, hw] at ih
      rw [hw, growWord, if_neg (by simp [hd]), List.map_cons, hcspace, ← ih]
      cases others <;> rfl

theorem words_blanks_append {blanks : List Char} (rest : List Char)
    (h : ∀ c ∈ blanks, isBlank c = true) : words (blanks ++ rest) = words rest := by
  induction blanks with
  | nil => rfl
  | cons c blanks ih =>
    rw [List.cons_append, words_blank _ (h c List.mem_cons_self),
      ih fun d hd => h d (List.mem_cons_of_mem _ hd)]

theorem words_append_blanks {blanks : List Char} (text : List Char)
    (h : ∀ c ∈ blanks, isBlank c = true) : words (text ++ blanks) = words text := by
  cases blanks with
  | nil => rw [List.append_nil]
  | cons c blanks =>
    have hnil := words_blanks_append [] fun d hd => h d (List.mem_cons_of_mem _ hd)
    rw [List.append_nil, words_nil] at hnil
    rw [words_append _ _ (h c List.mem_cons_self), hnil, List.append_nil]

theorem collapse_trim (text : List Char) : collapse (trim text) = collapse text := by
  obtain ⟨before, after, hbefore, hafter, htext⟩ := eq_append_trim text
  rw [collapse, collapse, htext, words_blanks_append _ hbefore, words_append_blanks _ hafter,
    ← htext]

/-- **A collapse of single blanks** trims the text and writes each blank as a space. -/
theorem SinglySpaced.collapse_eq {text : List Char} (h : SinglySpaced text) :
    collapse text = (trim text).map spaceBlank := by
  obtain ⟨hhead, hlast⟩ := not_blank_ends_trim text
  rw [← collapse_trim, collapse_of_isChain h hhead hlast]

end SchemaPhrase.Text
