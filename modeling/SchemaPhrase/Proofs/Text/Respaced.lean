import Mathlib.Data.List.Chain
import SchemaPhrase.Proofs.Text.Folding
import SchemaPhrase.Proofs.Text.Occurrence

/-!
# Texts that differ in how long their blanks are

Two texts are `Respaced` if one can be read along the other: the same solid characters, which are
those that are not blank, and a run of blanks against a run of blanks. Before the first word a run
may also stand against nothing (`SameWords`). A text and its collapse are such texts
(`sameWords_collapse`), and such texts have the same collapse (`SameWords.collapse_eq`).

* `SameWords.lowercaseUnquoted`: lower case keeps the words.
* `SameWords.occurs_eq`, `SameWords.replaceAll`: a key is found and exchanged on both sides alike.
  A key with a blank in it has several spellings (`KeySpellings`), of which the two texts may have
  different ones at the same place (`Aligned`); then no other one than the key may occur.
* `eq_space_of_infix_collapse`: a collapsed text holds no run of blanks but a single space.
-/

set_option autoImplicit false

namespace SchemaPhrase.Text

/-- A run of blanks. -/
def Blanks (run : List Char) : Prop := ∀ c ∈ run, isBlank c = true

/-- At most one blank. -/
def Gap (gap : List Char) : Prop := gap.length ≤ 1 ∧ Blanks gap

/-- Texts that agree but for the blanks, and have them at the same places. -/
inductive Respaced : List Char → List Char → Prop
  | ends {run run' : List Char} (hr : Blanks run) (hr' : Blanks run') : Respaced run run'
  | cons {c : Char} {text other : List Char} (hc : isBlank c = false) (h : Respaced text other) :
      Respaced (c :: text) (c :: other)
  | gap {run run' text other : List Char} (hne : run ≠ []) (hr : Blanks run) (hne' : run' ≠ [])
      (hr' : Blanks run') (h : Respaced text other) : Respaced (run ++ text) (run' ++ other)

/-- Texts that are respaced behind the blanks they begin with. -/
inductive SameWords : List Char → List Char → Prop
  | intro {run run' text other : List Char} (hr : Blanks run) (hr' : Blanks run')
      (h : Respaced text other) : SameWords (run ++ text) (run' ++ other)

/-! ## Runs of blanks -/

theorem blanks_nil : Blanks [] := by simp [Blanks]

theorem blanks_cons {c : Char} {run : List Char} :
    Blanks (c :: run) ↔ isBlank c = true ∧ Blanks run := List.forall_mem_cons

theorem Gap.cases {gap : List Char} (h : Gap gap) :
    gap = [] ∨ ∃ c, isBlank c = true ∧ gap = [c] := by
  obtain ⟨hlength, hblanks⟩ := h
  match gap with
  | [] => exact .inl rfl
  | [c] => exact .inr ⟨c, hblanks c List.mem_cons_self, rfl⟩
  | _ :: _ :: _ => simp at hlength

theorem gap_nil : Gap [] := ⟨Nat.zero_le 1, blanks_nil⟩

theorem gap_singleton {c : Char} (h : isBlank c = true) : Gap [c] :=
  ⟨Nat.le_refl 1, blanks_cons.2 ⟨h, blanks_nil⟩⟩

theorem Blanks.append {run more : List Char} (h : Blanks run) (hm : Blanks more) :
    Blanks (run ++ more) := List.forall_mem_append.2 ⟨h, hm⟩

theorem Blanks.reverse {run : List Char} (h : Blanks run) : Blanks run.reverse :=
  fun c hc => h c (List.mem_reverse.1 hc)

theorem Blanks.notMem {run : List Char} {c : Char} (h : Blanks run) (hc : isBlank c = false) :
    c ∉ run := fun hm => by simp [h c hm] at hc

theorem Blanks.count_eq_zero {run : List Char} {c : Char} (h : Blanks run)
    (hc : isBlank c = false) : run.count c = 0 :=
  List.count_eq_zero_of_not_mem (h.notMem hc)

theorem Blanks.eq_append {run longer text rest : List Char} {c : Char} (hr : Blanks run)
    (hc : isBlank c = false) (h : run ++ text = longer ++ c :: rest) :
    ∃ more, longer = run ++ more ∧ text = more ++ c :: rest := by
  obtain ⟨more, hlonger, htext⟩ | ⟨more, hrun, htext⟩ := List.append_eq_append_iff.1 h
  · exact ⟨more, hlonger, htext⟩
  · cases more with
    | nil => exact ⟨[], by simpa using hrun.symm, by simpa using htext.symm⟩
    | cons d more =>
      obtain ⟨rfl, -⟩ := List.cons_eq_cons.1 htext
      exact absurd (hrun ▸ List.mem_append_right longer List.mem_cons_self) (hr.notMem hc)

namespace Respaced

variable {text other : List Char}

theorem symm (h : Respaced text other) : Respaced other text := by
  induction h with
  | ends hr hr' => exact .ends hr' hr
  | cons hc _ ih => exact .cons hc ih
  | gap hne hr hne' hr' _ ih => exact .gap hne' hr' hne hr ih

/-- The same solid characters in front. -/
theorem append {front : List Char} (hf : ∀ c ∈ front, isBlank c = false)
    (h : Respaced text other) : Respaced (front ++ text) (front ++ other) := by
  induction front with
  | nil => exact h
  | cons c front ih =>
    exact .cons (hf c List.mem_cons_self) (ih fun d hd => hf d (List.mem_cons_of_mem _ hd))

theorem of_cons {c : Char} (h : Respaced (c :: text) other) (hc : isBlank c = false) :
    ∃ rest, other = c :: rest ∧ Respaced text rest := by
  generalize hwhole : c :: text = whole at h
  cases h with
  | ends hr _ => exact absurd (hwhole ▸ List.mem_cons_self) (hr.notMem hc)
  | cons _ h =>
    obtain ⟨rfl, rfl⟩ := List.cons_eq_cons.1 hwhole
    exact ⟨_, rfl, h⟩
  | gap hne hr _ _ _ =>
    obtain ⟨d, run, rfl⟩ := List.exists_cons_of_ne_nil hne
    obtain ⟨rfl, -⟩ := List.cons_eq_cons.1 hwhole
    exact absurd List.mem_cons_self (hr.notMem hc)

theorem of_append {front : List Char} (h : Respaced (front ++ text) other)
    (hf : ∀ c ∈ front, isBlank c = false) : ∃ rest, other = front ++ rest ∧ Respaced text rest := by
  induction front generalizing other with
  | nil => exact ⟨other, rfl, h⟩
  | cons c front ih =>
    obtain ⟨behind, rfl, hbehind⟩ := h.of_cons (hf c List.mem_cons_self)
    obtain ⟨rest, rfl, hrest⟩ := ih hbehind fun d hd => hf d (List.mem_cons_of_mem _ hd)
    exact ⟨rest, rfl, hrest⟩

/-- **Against a gap stands a gap**, with the same character behind it. -/
theorem of_gap {run : List Char} {c : Char} (h : Respaced (run ++ c :: text) other)
    (hne : run ≠ []) (hr : Blanks run) (hc : isBlank c = false) :
    ∃ run' rest, other = run' ++ c :: rest ∧ run' ≠ [] ∧ Blanks run' ∧ Respaced text rest := by
  generalize hwhole : run ++ c :: text = whole at h
  induction h generalizing run with
  | ends hall _ => exact absurd (hwhole ▸ by simp) (hall.notMem hc)
  | cons hd _ _ =>
    obtain ⟨b, run, rfl⟩ := List.exists_cons_of_ne_nil hne
    obtain ⟨rfl, -⟩ := List.cons_eq_cons.1 hwhole
    exact absurd List.mem_cons_self (hr.notMem hd)
  | @gap first first' behind behind' _ hfirst hne' hfirst' hbehind ih =>
    obtain ⟨more, rfl, rfl⟩ := hfirst.eq_append hc hwhole.symm
    by_cases hmore : more = []
    · -- the gap ends here
      obtain ⟨rest, rfl, hrest⟩ := of_cons (hmore ▸ hbehind) hc
      exact ⟨first', rest, rfl, hne', hfirst', hrest⟩
    · obtain ⟨run', rest, rfl, -, hrun', hrest⟩ :=
        ih hmore (fun d hd => hr d (List.mem_append_right _ hd)) rfl
      exact ⟨first' ++ run', rest, by simp, by simp [hne'], hfirst'.append hrun', hrest⟩

/-! ## What respaced texts share -/

theorem count_eq {c : Char} (hc : isBlank c = false) (h : Respaced text other) :
    text.count c = other.count c := by
  induction h with
  | ends hr hr' => rw [hr.count_eq_zero hc, hr'.count_eq_zero hc]
  | cons _ _ ih => rw [List.count_cons, List.count_cons, ih]
  | gap _ hr _ hr' _ ih =>
    rw [List.count_append, List.count_append, hr.count_eq_zero hc, hr'.count_eq_zero hc, ih]

/-- Whether a word goes on behind a character is told by what is behind it. -/
theorem growWord_eq (c : Char) (others : List (List Char)) (h : Respaced text other) :
    growWord c text others = growWord c other others := by
  have hbreak : ∀ {run : List Char} (rest : List Char), run ≠ [] → Blanks run →
      growWord c (run ++ rest) others = [c] :: others := by
    intro run rest hne hr
    obtain ⟨b, run, rfl⟩ := List.exists_cons_of_ne_nil hne
    exact growWord_blank _ _ (hr b List.mem_cons_self)
  have hend : ∀ {run : List Char}, Blanks run → growWord c run others = [c] :: others := by
    intro run hr
    by_cases hne : run = []
    · rw [hne, growWord_nil]
    · simpa using hbreak [] hne hr
  cases h with
  | ends hr hr' => rw [hend hr, hend hr']
  | cons hd _ => cases others <;> simp [growWord, hd]
  | gap hne hr hne' hr' _ => rw [hbreak _ hne hr, hbreak _ hne' hr']

theorem words_eq (h : Respaced text other) : words text = words other := by
  have hnone : ∀ {run : List Char}, Blanks run → words run = [] := fun {run} hr => by
    have hwords := words_blanks_append [] hr
    rwa [List.append_nil] at hwords
  induction h with
  | ends hr hr' => rw [hnone hr, hnone hr']
  | cons hc h ih =>
    rw [words, words, if_neg (by simp [hc]), if_neg (by simp [hc]), ih, h.growWord_eq]
  | gap _ hr _ hr' _ ih => rw [words_blanks_append _ hr, words_blanks_append _ hr', ih]

end Respaced

namespace SameWords

variable {text other : List Char}

theorem symm (h : SameWords text other) : SameWords other text := by
  obtain ⟨hr, hr', h⟩ := h
  exact .intro hr' hr h.symm

theorem words_eq (h : SameWords text other) : words text = words other := by
  obtain ⟨hr, hr', h⟩ := h
  rw [words_blanks_append _ hr, words_blanks_append _ hr', h.words_eq]

/-- **Texts with the same words have the same collapse.** -/
theorem collapse_eq (h : SameWords text other) : collapse text = collapse other := by
  rw [collapse, collapse, h.words_eq]

theorem count_eq {c : Char} (hc : isBlank c = false) (h : SameWords text other) :
    text.count c = other.count c := by
  obtain ⟨hr, hr', h⟩ := h
  rw [List.count_append, List.count_append, hr.count_eq_zero hc, hr'.count_eq_zero hc,
    h.count_eq hc]

end SameWords

/-! ## Lower case -/

/-- A blank is neither a letter nor looked through. -/
theorem blankTable_context : ∀ range ∈ blankTable, ∀ other ∈ casedTable ++ caseIgnorableTable,
    range.2 < other.1 ∨ other.2 < range.1 := by
  decide +kernel

theorem inTable_of_blank {c : Char} (h : isBlank c = true) :
    isCased c = false ∧ isCaseIgnorable c = false := by
  obtain ⟨range, hrange, hlow, hhigh⟩ := inTable_iff.1 h
  have hout : ∀ other ∈ casedTable ++ caseIgnorableTable,
      c.toNat < other.1 ∨ other.2 < c.toNat := fun other ho => by
    have := blankTable_context range hrange other ho
    omega
  rw [isCased, isCaseIgnorable, inTable_eq_false_iff, inTable_eq_false_iff]
  exact List.forall_mem_append.1 hout

theorem meetsCased_blanks {run : List Char} (rest : List Char) (hne : run ≠ []) (hr : Blanks run) :
    meetsCased (run ++ rest) = false := by
  obtain ⟨b, run, rfl⟩ := List.exists_cons_of_ne_nil hne
  obtain ⟨hcased, hignorable⟩ := inTable_of_blank (blanks_cons.1 hr).1
  rw [List.cons_append, meetsCased, hignorable, if_neg (by simp), hcased]

theorem Blanks.meetsCased_eq_false {run : List Char} (hr : Blanks run) :
    meetsCased run = false := by
  by_cases hne : run = []
  · rw [hne, meetsCased]
  · simpa using meetsCased_blanks [] hne hr

theorem lowerAfter_blanks_append {run : List Char} (before rest : List Char) (hr : Blanks run) :
    lowerAfter before (run ++ rest) = run ++ lowerAfter (run.reverse ++ before) rest := by
  have hsigma : isBlank capitalSigma = false := by decide
  induction run generalizing before with
  | nil => rfl
  | cons b run ih =>
    obtain ⟨hb, hrun⟩ := blanks_cons.1 hr
    have hne : b ≠ capitalSigma := by
      rintro rfl
      simp [hsigma] at hb
    rw [List.cons_append, lowerAfter, if_neg hne, lowerChar_of_blank hb, ih _ hrun]
    simp

theorem lowerOutside_blanks_append {run : List Char} (quoted : Bool) (rest : List Char)
    (hr : Blanks run) : lowerOutside quoted (run ++ rest) = run ++ lowerOutside quoted rest := by
  have hnone : run.count quote = 0 := hr.count_eq_zero (by decide)
  rw [lowerOutside_append, lowerOutside_of_forall quoted fun c hc => lowerChar_of_blank (hr c hc),
    quotedAfter, if_pos (by rw [hnone])]

namespace Respaced

variable {text other : List Char}

theorem meetsCased_eq (h : Respaced text other) : meetsCased text = meetsCased other := by
  induction h with
  | ends hr hr' => rw [hr.meetsCased_eq_false, hr'.meetsCased_eq_false]
  | cons _ _ ih => rw [meetsCased, meetsCased, ih]
  | gap hne hr hne' hr' _ _ => rw [meetsCased_blanks _ hne hr, meetsCased_blanks _ hne' hr']

/-- The sigmas that end a word are the same on both sides. -/
theorem lowerAfter {before before' : List Char} (h : Respaced text other)
    (hb : meetsCased before = meetsCased before') :
    Respaced (lowerAfter before text) (lowerAfter before' other) := by
  have hgreek : isBlank '\u03C2' = false ∧ isBlank '\u03C3' = false := by decide
  induction h generalizing before before' with
  | ends hr hr' =>
    rw [lowerAfter_of_forall fun c hc => lowerChar_of_blank (hr c hc),
      lowerAfter_of_forall fun c hc => lowerChar_of_blank (hr' c hc)]
    exact .ends hr hr'
  | @cons c text other hc h ih =>
    have hword : endsWord before text = endsWord before' other := by
      rw [endsWord, endsWord, hb, h.meetsCased_eq]
    rw [Text.lowerAfter, Text.lowerAfter, hword]
    refine append (fun d hd => ?_) (ih (by rw [meetsCased, meetsCased, hb]))
    split at hd
    · split at hd
      · exact List.mem_singleton.1 hd ▸ hgreek.1
      · exact List.mem_singleton.1 hd ▸ hgreek.2
    · rw [isBlank_of_mem_lowerChar hd, hc]
  | gap hne hr hne' hr' _ ih =>
    rw [lowerAfter_blanks_append _ _ hr, lowerAfter_blanks_append _ _ hr']
    refine .gap hne hr hne' hr' (ih ?_)
    rw [meetsCased_blanks _ (by simpa using hne) hr.reverse,
      meetsCased_blanks _ (by simpa using hne') hr'.reverse]

theorem lowerOutside (quoted : Bool) (h : Respaced text other) :
    Respaced (lowerOutside quoted text) (lowerOutside quoted other) := by
  induction h generalizing quoted with
  | ends hr hr' =>
    rw [lowerOutside_of_forall quoted fun c hc => lowerChar_of_blank (hr c hc),
      lowerOutside_of_forall quoted fun c hc => lowerChar_of_blank (hr' c hc)]
    exact .ends hr hr'
  | cons hc _ ih =>
    rw [Text.lowerOutside, Text.lowerOutside]
    split
    · exact .cons hc (ih _)
    · split
      · exact .cons hc (ih _)
      · exact append (fun d hd => by rw [isBlank_of_mem_lowerChar hd, hc]) (ih _)
  | gap hne hr hne' hr' _ ih =>
    rw [lowerOutside_blanks_append _ _ hr, lowerOutside_blanks_append _ _ hr']
    exact .gap hne hr hne' hr' (ih _)

end Respaced

/-- **Lower case keeps the words**: which characters are quoted and which sigmas end a word is the
same on both sides. -/
theorem SameWords.lowercaseUnquoted {text other : List Char} (h : SameWords text other) :
    SameWords (lowercaseUnquoted text) (lowercaseUnquoted other) := by
  have hquotes : text.count quote = other.count quote := h.count_eq (by decide)
  obtain @⟨run, run', text, other, hr, hr', h⟩ := h
  rw [Text.lowercaseUnquoted, Text.lowercaseUnquoted, hquotes]
  split
  · rw [lowerOutside_blanks_append _ _ hr, lowerOutside_blanks_append _ _ hr']
    exact .intro hr hr' (h.lowerOutside false)
  · rw [lowerText, lowerText, lowerAfter_blanks_append _ _ hr, lowerAfter_blanks_append _ _ hr']
    refine .intro hr hr' (h.lowerAfter ?_)
    rw [List.append_nil, List.append_nil, hr.reverse.meetsCased_eq_false,
      hr'.reverse.meetsCased_eq_false]

/-! ## Keys -/

/-- A key may have several spellings. Each begins with a solid character, and against one of them a
respaced text has one, too. -/
structure KeySpellings (Spells : List Char → Prop) : Prop where
  head : ∀ {key}, Spells key → ∃ c tail, key = c :: tail ∧ isBlank c = false
  respaced : ∀ {key text other}, Spells key → Respaced (key ++ text) other →
    ∃ key' rest, Spells key' ∧ other = key' ++ rest ∧ Respaced text rest

/-- Respaced texts with the spellings of a key set apart. -/
inductive Aligned (Spells : List Char → Prop) : List Char → List Char → Prop
  | ends {run run' : List Char} (hr : Blanks run) (hr' : Blanks run') : Aligned Spells run run'
  | cons {c : Char} {text other : List Char} (hc : isBlank c = false)
      (ht : ∀ key, Spells key → ¬ key <+: c :: text)
      (ho : ∀ key, Spells key → ¬ key <+: c :: other) (h : Aligned Spells text other) :
      Aligned Spells (c :: text) (c :: other)
  | gap {run run' text other : List Char} (hne : run ≠ []) (hr : Blanks run) (hne' : run' ≠ [])
      (hr' : Blanks run') (h : Aligned Spells text other) :
      Aligned Spells (run ++ text) (run' ++ other)
  | key {key key' text other : List Char} (hk : Spells key) (hk' : Spells key')
      (h : Aligned Spells text other) : Aligned Spells (key ++ text) (key' ++ other)

/-- Wherever the key is in the text, it is spelled as `key`. -/
def SpelledAs (Spells : List Char → Prop) (key text : List Char) : Prop :=
  ∀ k, Spells k → k <:+: text → k = key

/-- A key without blanks has one spelling. -/
theorem keySpellings_eq {key : List Char} (hne : key ≠ []) (hk : ∀ c ∈ key, isBlank c = false) :
    KeySpellings (· = key) where
  head := by
    rintro _ rfl
    obtain ⟨c, tail, rfl⟩ := List.exists_cons_of_ne_nil hne
    exact ⟨c, tail, rfl, hk c List.mem_cons_self⟩
  respaced := by
    rintro _ text other rfl h
    obtain ⟨rest, rfl, hrest⟩ := h.of_append hk
    exact ⟨_, rest, rfl, rfl, hrest⟩

theorem spelledAs_eq (key text : List Char) : SpelledAs (· = key) key text := fun _ hk _ => hk

section
variable {Spells : List Char → Prop} {key : List Char}

theorem SpelledAs.of_suffix {text rest : List Char} (h : SpelledAs Spells key text)
    (hs : rest <:+ text) : SpelledAs Spells key rest :=
  fun k hk hi => h k hk (hi.trans hs.isInfix)

theorem SpelledAs.of_append {front text : List Char} (h : SpelledAs Spells key (front ++ text)) :
    SpelledAs Spells key text :=
  h.of_suffix (List.suffix_append _ _)

theorem SpelledAs.cons {c : Char} {text : List Char} (h : SpelledAs Spells key text)
    (hfree : ∀ k, Spells k → ¬ k <+: c :: text) : SpelledAs Spells key (c :: text) :=
  fun k hk hi => h k hk ((List.infix_cons_iff.1 hi).resolve_left (hfree k hk))

end

section
variable {Spells : List Char → Prop} (hS : KeySpellings Spells)
include hS

theorem KeySpellings.not_prefix_blank {key : List Char} {b : Char} (text : List Char)
    (hk : Spells key) (hb : isBlank b = true) : ¬ key <+: b :: text := by
  obtain ⟨c, tail, rfl, hc⟩ := hS.head hk
  rw [List.cons_prefix_cons]
  rintro ⟨rfl, -⟩
  simp [hb] at hc

/-- The induction is on the length: a key is passed over as a whole. -/
theorem Respaced.aligned {text other : List Char} (h : Respaced text other) :
    Aligned Spells text other := by
  cases h with
  | ends hr hr' => exact .ends hr hr'
  | @gap run run' text other hne hr hne' hr' h =>
    have hlength : 0 < run.length := List.length_pos_of_ne_nil hne
    exact .gap hne hr hne' hr' h.aligned
  | @cons c text other hc h =>
    by_cases hfront : ∃ key, Spells key ∧ key <+: c :: text
    · obtain ⟨key, hk, rest, hrest⟩ := hfront
      have hwhole := Respaced.cons hc h
      rw [← hrest] at hwhole
      obtain ⟨key', rest', hk', hrest', hbehind⟩ := hS.respaced hk hwhole
      have hlength : rest.length ≤ text.length := by
        obtain ⟨d, tail, rfl, -⟩ := hS.head hk
        have hwhole := congrArg List.length hrest
        rw [List.length_append, List.length_cons, List.length_cons] at hwhole
        omega
      rw [← hrest, hrest']
      exact .key hk hk' hbehind.aligned
    · refine .cons hc (fun key hk hp => hfront ⟨key, hk, hp⟩) (fun key hk hp => hfront ?_) h.aligned
      obtain ⟨rest, hrest⟩ := hp
      have hwhole := Respaced.cons hc h.symm
      rw [← hrest] at hwhole
      obtain ⟨key', rest', hk', hrest', -⟩ := hS.respaced hk hwhole
      exact ⟨key', hk', rest', hrest'.symm⟩
termination_by text.length

/-! ## Where a key stands -/

theorem KeySpellings.infix_blanks_append {key run text : List Char} (hk : Spells key)
    (hr : Blanks run) : key <:+: run ++ text ↔ key <:+: text := by
  induction run with
  | nil => rfl
  | cons b run ih =>
    obtain ⟨hb, hrun⟩ := blanks_cons.1 hr
    rw [List.cons_append, List.infix_cons_iff, or_iff_right (hS.not_prefix_blank _ hk hb), ih hrun]

theorem SpelledAs.blanks_append {key run text : List Char} (h : SpelledAs Spells key text)
    (hr : Blanks run) : SpelledAs Spells key (run ++ text) :=
  fun k hk hi => h k hk ((hS.infix_blanks_append hk hr).1 hi)

theorem KeySpellings.spelledAs_blanks {run : List Char} (key : List Char) (hr : Blanks run) :
    SpelledAs Spells key run := by
  intro k hk hi
  obtain ⟨c, tail, rfl, -⟩ := hS.head hk
  rw [← List.append_nil run, hS.infix_blanks_append hk hr] at hi
  simp at hi

/-- A key on one side stands against one on the other. -/
theorem Aligned.exists_spelling {key text other : List Char} (h : Aligned Spells text other)
    (hk : Spells key) (hi : key <:+: text) : ∃ key', Spells key' ∧ key' <:+: other := by
  induction h with
  | ends hr _ =>
    have hnil : key = [] := hS.spelledAs_blanks [] hr key hk hi
    exact ⟨key, hk, hnil ▸ List.nil_infix⟩
  | cons _ hfree _ _ ih =>
    obtain ⟨key', hk', hi'⟩ := ih ((List.infix_cons_iff.1 hi).resolve_left (hfree key hk))
    exact ⟨key', hk', List.infix_cons hi'⟩
  | gap _ hr _ _ _ ih =>
    obtain ⟨key', hk', hi'⟩ := ih ((hS.infix_blanks_append hk hr).1 hi)
    exact ⟨key', hk', hi'.trans (List.suffix_append _ _).isInfix⟩
  | @key _ key' _ _ _ hk' _ _ => exact ⟨key', hk', (List.prefix_append _ _).isInfix⟩

theorem SameWords.exists_spelling {key text other : List Char} (h : SameWords text other)
    (hk : Spells key) (hi : key <:+: text) : ∃ key', Spells key' ∧ key' <:+: other := by
  obtain ⟨hr, hr', h⟩ := h
  have hbehind := (hS.infix_blanks_append hk hr).1 hi
  obtain ⟨key', hk', hi'⟩ := (h.aligned hS).exists_spelling hS hk hbehind
  exact ⟨key', hk', (hS.infix_blanks_append hk' hr').2 hi'⟩

/-- **A key is found in both texts or in none** if both spell it the way it is looked for. -/
theorem SameWords.occurs_eq {key text other : List Char} (h : SameWords text other)
    (hk : Spells key) (ht : SpelledAs Spells key text) (ho : SpelledAs Spells key other) :
    occurs key text = occurs key other := by
  rw [Bool.eq_iff_iff, occurs_iff, occurs_iff]
  refine ⟨fun hi => ?_, fun hi => ?_⟩
  · obtain ⟨key', hk', hi'⟩ := h.exists_spelling hS hk hi
    exact ho key' hk' hi' ▸ hi'
  · obtain ⟨key', hk', hi'⟩ := h.symm.exists_spelling hS hk hi
    exact ht key' hk' hi' ▸ hi'

/-! ## Exchanges -/

theorem KeySpellings.replaceAll_blanks_append {key run : List Char} (new text : List Char)
    (hk : Spells key) (hr : Blanks run) :
    replaceAll key new (run ++ text) = run ++ replaceAll key new text := by
  induction run with
  | nil => rfl
  | cons b run ih =>
    obtain ⟨hb, hrun⟩ := blanks_cons.1 hr
    rw [List.cons_append, replaceAll_cons new (hS.not_prefix_blank _ hk hb), ih hrun,
      List.cons_append]

theorem KeySpellings.replaceAll_blanks {key run : List Char} (new : List Char) (hk : Spells key)
    (hr : Blanks run) : replaceAll key new run = run := by
  have happend := hS.replaceAll_blanks_append new [] hk hr
  rwa [List.append_nil, replaceAll, replaceAll, replaceFrom, List.append_nil] at happend

section
variable {key new text other : List Char} (hk : Spells key) (hnew : ∀ c ∈ new, isBlank c = false)
  (ht : SpelledAs Spells key text) (ho : SpelledAs Spells key other)
include hk hnew ht ho

theorem Aligned.replaceAll (h : Aligned Spells text other) :
    Respaced (replaceAll key new text) (replaceAll key new other) := by
  induction h with
  | ends hr hr' =>
    rw [hS.replaceAll_blanks new hk hr, hS.replaceAll_blanks new hk hr']
    exact .ends hr hr'
  | cons hc hfree hfree' _ ih =>
    rw [replaceAll_cons new (hfree key hk), replaceAll_cons new (hfree' key hk)]
    exact .cons hc (ih (ht.of_suffix (List.suffix_cons _ _)) (ho.of_suffix (List.suffix_cons _ _)))
  | @gap run run' text other hne hr hne' hr' _ ih =>
    rw [hS.replaceAll_blanks_append new text hk hr, hS.replaceAll_blanks_append new other hk hr']
    exact .gap hne hr hne' hr' (ih ht.of_append ho.of_append)
  | @key first first' text other hfirst hfirst' _ ih =>
    obtain rfl : first = key := ht first hfirst (List.prefix_append _ _).isInfix
    obtain rfl : first' = first := ho first' hfirst' (List.prefix_append _ _).isInfix
    have hne : first' ≠ [] := by
      obtain ⟨c, tail, rfl, -⟩ := hS.head hk
      simp
    rw [replaceAll_append new text hne, replaceAll_append new other hne]
    exact .append hnew (ih ht.of_append ho.of_append)

/-- **An exchange keeps the words** if both texts spell the key the way it is exchanged. -/
theorem SameWords.replaceAll (h : SameWords text other) :
    SameWords (replaceAll key new text) (replaceAll key new other) := by
  obtain @⟨run, run', text, other, hr, hr', h⟩ := h
  rw [hS.replaceAll_blanks_append new text hk hr, hS.replaceAll_blanks_append new other hk hr']
  exact .intro hr hr' ((h.aligned hS).replaceAll hS hk hnew ht.of_append ho.of_append)

end

end

/-! ## Collapsed texts -/

theorem collapse_cons_cons {c d : Char} (rest : List Char) (hc : isBlank c = false)
    (hd : isBlank d = false) : collapse (c :: d :: rest) = c :: collapse (d :: rest) := by
  obtain ⟨word, others, hwords⟩ := List.exists_cons_of_ne_nil (words_ne_nil rest hd)
  rw [collapse, collapse, words, if_neg (by simp [hc]), hwords, growWord, if_neg (by simp [hd])]
  cases others <;> rfl

theorem collapse_cons_gap {c d : Char} {run : List Char} (rest : List Char)
    (hc : isBlank c = false) (hne : run ≠ []) (hr : Blanks run) (hd : isBlank d = false) :
    collapse (c :: (run ++ d :: rest)) = c :: ' ' :: collapse (d :: rest) := by
  obtain ⟨b, run, rfl⟩ := List.exists_cons_of_ne_nil hne
  rw [collapse, words, if_neg (by simp [hc]), words_blanks_append _ hr, List.cons_append,
    growWord_blank _ _ (blanks_cons.1 hr).1, joinWords_cons _ (words_ne_nil rest hd)]
  rfl

/-- The run is what was passed over since the character in front. -/
theorem respaced_collapse_cons {c : Char} (run text : List Char)
    (hc : isBlank c = false) (hr : Blanks run) :
    Respaced (c :: (run ++ text)) (collapse (c :: (run ++ text))) := by
  induction text generalizing c run with
  | nil =>
    have hword : words [c] = [[c]] := words_eq_singleton (by simp) (by simpa using hc)
    have hwords : words (c :: run) = [[c]] := by
      rw [← List.singleton_append, words_append_blanks _ hr, hword]
    rw [List.append_nil, collapse, hwords]
    exact .cons hc (.ends hr blanks_nil)
  | cons d rest ih =>
    by_cases hd : isBlank d = true
    · have hlonger : Blanks (run ++ [d]) := hr.append (by simpa [Blanks] using hd)
      simpa using ih (run ++ [d]) hc hlonger
    · have hd : isBlank d = false := by simpa using hd
      have ih := ih [] hd blanks_nil
      rw [List.nil_append] at ih
      by_cases hne : run = []
      · rw [hne, List.nil_append, collapse_cons_cons rest hc hd]
        exact .cons hc ih
      · rw [collapse_cons_gap rest hc hne hr hd]
        have hspace : Blanks [' '] := by simp [Blanks]
        exact .cons hc (.gap hne hr (by simp) hspace ih)

/-- **A text and its collapse have the same words.** -/
theorem sameWords_collapse (text : List Char) : SameWords text (collapse text) := by
  have hrun : Blanks (text.takeWhile isBlank) := List.all_eq_true.1 List.all_takeWhile
  have hsplit : text.takeWhile isBlank ++ text.dropWhile isBlank = text :=
    List.takeWhile_append_dropWhile
  have hcollapse : collapse text = collapse (text.dropWhile isBlank) := by
    rw [collapse, ← hsplit, words_blanks_append _ hrun, hsplit, collapse]
  have hbehind : Respaced (text.dropWhile isBlank) (collapse (text.dropWhile isBlank)) := by
    cases hdrop : text.dropWhile isBlank with
    | nil => exact .ends blanks_nil blanks_nil
    | cons c rest =>
      have hc : isBlank c = false := head?_dropWhile_eq_false (by rw [hdrop, List.head?_cons])
      exact respaced_collapse_cons [] rest hc blanks_nil
  have hsame := SameWords.intro hrun blanks_nil hbehind
  rwa [hsplit, List.nil_append, ← hcollapse] at hsame

/-- No two blanks stand side by side between words. -/
theorem isChain_joinWords {pieces : List (List Char)}
    (h : ∀ piece ∈ pieces, piece ≠ [] ∧ ∀ c ∈ piece, isBlank c = false) :
    (joinWords pieces).IsChain fun c d => ¬ (isBlank c = true ∧ isBlank d = true) := by
  induction pieces with
  | nil => exact .nil
  | cons piece pieces ih =>
    have hsolid := (h piece List.mem_cons_self).2
    have hrest := fun p hp => h p (List.mem_cons_of_mem _ hp)
    have hpiece : piece.IsChain fun c d => ¬ (isBlank c = true ∧ isBlank d = true) := by
      refine (List.pairwise_of_forall_mem_list fun c hc d hd => ?_).isChain
      simp [hsolid c hc]
    cases pieces with
    | nil => exact hpiece
    | cons next pieces =>
      obtain ⟨d, tail, hjoin, hd⟩ := joinWords_head (by simp) hrest
      rw [joinWords_cons_cons, List.isChain_append]
      refine ⟨hpiece, ?_, fun c hc _ _ => ?_⟩
      · rw [hjoin, List.isChain_cons_cons, ← hjoin]
        exact ⟨by simp [hd], ih hrest⟩
      · simp [hsolid c (List.mem_of_getLast? hc)]

/-- The only run of blanks in a collapsed text is a single space. -/
theorem eq_space_of_infix_collapse {run text : List Char} (hne : run ≠ []) (hr : Blanks run)
    (h : run <:+: collapse text) : run = [' '] := by
  have hspace : ∀ c ∈ run, c = ' ' := by
    intro c hc
    rcases mem_joinWords (h.subset hc) with hc | ⟨word, hword, hm⟩
    · exact hc
    · exact absurd hc (hr.notMem ((mem_words hword).2 c hm))
  obtain ⟨front, back, hwhole⟩ := h
  have hjoin := isChain_joinWords fun word (hword : word ∈ words text) => mem_words hword
  rw [← collapse, ← hwhole] at hjoin
  have hchain := hjoin.left_of_append.right_of_append
  obtain ⟨c, run, rfl⟩ := List.exists_cons_of_ne_nil hne
  cases run with
  | nil => rw [hspace c List.mem_cons_self]
  | cons d run =>
    have hpair := (List.isChain_cons_cons.1 hchain).1
    exact absurd ⟨hr c (by simp), hr d (by simp)⟩ hpair

end SchemaPhrase.Text
