import Mathlib.Data.List.Basic
import SchemaPhrase.Text.Words

/-!
# Words of a joined text

* `words_append`: words split at a blank. The facts about `words` here follow from this one
  equation and `words_eq_singleton`, which says what a single word is.
* `words_joinWords`: the words of pieces joined by single spaces are the words of the pieces, in
  order, so that collapsing works piece by piece (`collapse_joinWords`).
* `count_collapse`: a collapse keeps all characters but the blanks.
* `Tidy`: a text that collapsing leaves alone and that holds something. Tidy pieces are put back
  together by a collapse (`joinWords_words`), and a tidy text has nothing to trim (`Tidy.trim`).
-/

set_option autoImplicit false

namespace SchemaPhrase.Text

/-- What holds of all characters of a closed text is tested one after another. -/
theorem forall_mem_of_all {text : List Char} {p : Char → Prop} [DecidablePred p]
    (h : text.all (fun c => decide (p c)) = true) : ∀ c ∈ text, p c := by
  simpa using h

theorem isBlank_of_lt {c : Char} (h : 0x20 < c.toNat ∧ c.toNat < 0x85) : isBlank c = false := by
  have hout : ∀ range ∈ blankTable, range.2 ≤ 0x20 ∨ 0x85 ≤ range.1 := by decide
  rw [isBlank, inTable_eq_false_iff]
  intro range hr
  have := hout range hr
  omega

/-! ## Words -/

theorem words_ne_nil {c : Char} (rest : List Char) (h : isBlank c = false) :
    words (c :: rest) ≠ [] := by
  simp only [words, h, Bool.false_eq_true, ↓reduceIte, ne_eq]
  unfold growWord
  split
  · split <;> simp
  · simp

theorem growWord_nil (c : Char) (others : List (List Char)) :
    growWord c [] others = [c] :: others := by
  cases others <;> rfl

theorem growWord_blank {c b : Char} (rest : List Char) (others : List (List Char))
    (h : isBlank b = true) : growWord c (b :: rest) others = [c] :: others := by
  cases others <;> simp [growWord, h]

/-- **Words split at a blank.** -/
theorem words_append {b : Char} (text rest : List Char) (h : isBlank b = true) :
    words (text ++ b :: rest) = words text ++ words rest := by
  induction text with
  | nil => simp [words_blank rest h]
  | cons c text ih =>
    by_cases hc : isBlank c = true
    · simp only [List.cons_append, words_blank _ hc, ih]
    · simp only [List.cons_append, words, hc, Bool.false_eq_true, ↓reduceIte, ih]
      cases text with
      | nil =>
        rw [List.nil_append, growWord_blank _ _ h, words_nil, growWord_nil, List.nil_append,
          List.singleton_append]
      | cons d text =>
        by_cases hd : isBlank d = true
        · simp only [List.cons_append, growWord_blank _ _ hd]
        · obtain ⟨word, others, hw⟩ := List.exists_cons_of_ne_nil
            (words_ne_nil text (by simpa using hd))
          simp [hw, growWord, hd]

theorem words_eq_singleton {word : List Char} (hne : word ≠ [])
    (h : ∀ c ∈ word, isBlank c = false) : words word = [word] := by
  induction word with
  | nil => exact absurd rfl hne
  | cons c word ih =>
    have hc := h c List.mem_cons_self
    cases word with
    | nil => simp [words, hc, growWord]
    | cons d word =>
      have hd := h d (by simp)
      have ih := ih (by simp) fun a ha => h a (List.mem_cons_of_mem _ ha)
      rw [words, if_neg (by simp [hc]), ih]
      simp [growWord, hd]

theorem mem_words {text word : List Char} (h : word ∈ words text) :
    word ≠ [] ∧ ∀ c ∈ word, isBlank c = false := by
  induction text generalizing word with
  | nil => simp at h
  | cons c text ih =>
    by_cases hc : isBlank c = true
    · rw [words_blank _ hc] at h
      exact ih h
    · have hc : isBlank c = false := by simpa using hc
      simp only [words, hc, Bool.false_eq_true, ↓reduceIte] at h
      unfold growWord at h
      split at h
      · rename_i d rest first others hw
        split at h
        · rcases List.mem_cons.1 h with rfl | h
          · simp [hc]
          · exact ih (hw ▸ h)
        · rcases List.mem_cons.1 h with rfl | h
          · obtain ⟨-, hfirst⟩ := ih (hw ▸ List.mem_cons_self)
            refine ⟨by simp, fun a ha => ?_⟩
            rcases List.mem_cons.1 ha with rfl | ha
            · exact hc
            · exact hfirst a ha
          · exact ih (hw ▸ List.mem_cons_of_mem _ h)
      · rcases List.mem_cons.1 h with rfl | h
        · simp [hc]
        · exact ih h

/-! ## Pieces joined by spaces -/

@[simp] theorem joinWords_singleton (piece : List Char) : joinWords [piece] = piece := rfl

theorem joinWords_cons_cons (piece next : List Char) (pieces : List (List Char)) :
    joinWords (piece :: next :: pieces) = piece ++ ' ' :: joinWords (next :: pieces) := rfl

theorem joinWords_cons {pieces : List (List Char)} (piece : List Char) (h : pieces ≠ []) :
    joinWords (piece :: pieces) = piece ++ ' ' :: joinWords pieces := by
  obtain ⟨next, rest, rfl⟩ := List.exists_cons_of_ne_nil h
  rfl

theorem joinWords_append {before after : List (List Char)} (hb : before ≠ []) (ha : after ≠ []) :
    joinWords (before ++ after) = joinWords before ++ ' ' :: joinWords after := by
  induction before with
  | nil => exact absurd rfl hb
  | cons piece before ih =>
    cases before with
    | nil => simp [joinWords_cons piece ha]
    | cons next before =>
      rw [List.cons_append, joinWords_cons _ (by simp), ih (by simp), joinWords_cons_cons]
      simp

theorem mem_joinWords {pieces : List (List Char)} {c : Char} (h : c ∈ joinWords pieces) :
    c = ' ' ∨ ∃ piece ∈ pieces, c ∈ piece := by
  induction pieces with
  | nil => cases h
  | cons piece pieces ih =>
    cases pieces with
    | nil => exact .inr ⟨piece, List.mem_cons_self, h⟩
    | cons next pieces =>
      rw [joinWords_cons_cons, List.mem_append, List.mem_cons] at h
      rcases h with h | h | h
      · exact .inr ⟨piece, List.mem_cons_self, h⟩
      · exact .inl h
      · obtain hc | ⟨p, hp, hm⟩ := ih h
        · exact .inl hc
        · exact .inr ⟨p, List.mem_cons_of_mem _ hp, hm⟩

/-- A piece among others, and the text on its two sides. -/
theorem joinWords_around (before : List (List Char)) (piece : List Char)
    (after : List (List Char)) :
    joinWords (before ++ piece :: after) =
      joinWords (before ++ [[]]) ++ piece ++ joinWords ([] :: after) := by
  have hafter : joinWords (piece :: after) = piece ++ joinWords ([] :: after) := by
    cases after <;> simp [joinWords_cons_cons]
  cases before with
  | nil => simpa using hafter
  | cons first before =>
    rw [joinWords_append (by simp) (by simp), joinWords_append (by simp) (by simp), hafter]
    simp

/-- **The words of joined pieces** are the words of the pieces. -/
theorem words_joinWords (pieces : List (List Char)) :
    words (joinWords pieces) = pieces.flatMap words := by
  induction pieces with
  | nil => rfl
  | cons piece pieces ih =>
    cases pieces with
    | nil => simp
    | cons next pieces =>
      rw [joinWords_cons_cons, words_append _ _ isBlank_space, ih, List.flatMap_cons (x := piece)]

theorem collapse_joinWords (pieces : List (List Char)) :
    collapse (joinWords pieces) = joinWords (pieces.flatMap words) := by
  rw [collapse, words_joinWords]

theorem flatMap_words {pieces : List (List Char)}
    (h : ∀ piece ∈ pieces, piece ≠ [] ∧ ∀ c ∈ piece, isBlank c = false) :
    pieces.flatMap words = pieces := by
  induction pieces with
  | nil => rfl
  | cons piece pieces ih =>
    obtain ⟨hne, hc⟩ := h piece List.mem_cons_self
    rw [List.flatMap_cons, words_eq_singleton hne hc,
      ih fun p hp => h p (List.mem_cons_of_mem _ hp), List.singleton_append]

theorem collapse_joinWords_of_words {pieces : List (List Char)}
    (h : ∀ piece ∈ pieces, piece ≠ [] ∧ ∀ c ∈ piece, isBlank c = false) :
    collapse (joinWords pieces) = joinWords pieces := by
  rw [collapse_joinWords, flatMap_words h]

theorem collapse_idem (text : List Char) : collapse (collapse text) = collapse text :=
  collapse_joinWords_of_words fun _ => mem_words

/-- The only blank of a collapsed text is the space. -/
theorem notMem_collapse {c : Char} (hc : isBlank c = true) (hs : c ≠ ' ') (text : List Char) :
    c ∉ collapse text := by
  intro hm
  obtain hspace | ⟨word, hword, hm⟩ := mem_joinWords hm
  · exact hs hspace
  · rw [(mem_words hword).2 c hm] at hc
    cases hc

theorem flatten_growWord (c : Char) (rest : List Char) (others : List (List Char)) :
    (growWord c rest others).flatten = c :: others.flatten := by
  unfold growWord
  split
  · split <;> simp
  · simp

theorem flatten_words (text : List Char) : (words text).flatten = squeeze text := by
  induction text with
  | nil => rfl
  | cons c text ih =>
    by_cases hc : isBlank c = true
    · rw [words_blank text hc, ih, squeeze, squeeze, List.filter_cons_of_neg (by simp [hc])]
    · rw [words, if_neg hc, flatten_growWord, ih, squeeze, squeeze,
        List.filter_cons_of_pos (by simp [hc])]

theorem count_joinWords {c : Char} (hc : c ≠ ' ') (pieces : List (List Char)) :
    (joinWords pieces).count c = pieces.flatten.count c := by
  induction pieces with
  | nil => rfl
  | cons piece pieces ih =>
    cases pieces with
    | nil => simp
    | cons next pieces =>
      rw [joinWords_cons_cons, List.count_append, List.count_cons_of_ne (Ne.symm hc), ih]
      simp

/-- **A collapse keeps every character that is not blank.** -/
theorem count_collapse {c : Char} (hc : isBlank c = false) (text : List Char) :
    (collapse text).count c = text.count c := by
  have hspace : c ≠ ' ' := by
    rintro rfl
    exact absurd hc (by simp)
  rw [collapse, count_joinWords hspace, flatten_words, squeeze]
  exact List.count_filter (by simp [hc])

/-! ## Tidy texts -/

/-- The text holds something and is in white-space normal form. -/
structure Tidy (text : List Char) : Prop where
  collapsed : collapse text = text
  nonempty : text ≠ []

theorem Tidy.words_ne_nil {text : List Char} (h : Tidy text) : words text ≠ [] := by
  intro hw
  apply h.nonempty
  rw [← h.collapsed, collapse, hw]
  rfl

theorem Tidy.of_words {pieces : List (List Char)} (hne : pieces ≠ [])
    (h : ∀ piece ∈ pieces, piece ≠ [] ∧ ∀ c ∈ piece, isBlank c = false) :
    Tidy (joinWords pieces) := by
  refine ⟨collapse_joinWords_of_words h, ?_⟩
  obtain ⟨piece, rest, rfl⟩ := List.exists_cons_of_ne_nil hne
  have hp := (h piece List.mem_cons_self).1
  cases rest with
  | nil => simpa using hp
  | cons next rest => simp [joinWords_cons_cons]

theorem Tidy.of_word {word : List Char} (hne : word ≠ []) (h : ∀ c ∈ word, isBlank c = false) :
    Tidy word := by
  refine ⟨?_, hne⟩
  rw [collapse, words_eq_singleton hne h, joinWords_singleton]

/-- Tidy pieces have no word that is cut or lost when they are joined. -/
theorem joinWords_words {pieces : List (List Char)} (h : ∀ piece ∈ pieces, Tidy piece) :
    joinWords (pieces.flatMap words) = joinWords pieces := by
  induction pieces with
  | nil => rfl
  | cons piece pieces ih =>
    have hp := h piece List.mem_cons_self
    have ih := ih fun p hm => h p (List.mem_cons_of_mem _ hm)
    have hpiece : joinWords (words piece) = piece := hp.collapsed
    rw [List.flatMap_cons]
    cases pieces with
    | nil => simpa using hpiece
    | cons next pieces =>
      have hnext := (h next (by simp)).words_ne_nil
      rw [joinWords_append hp.words_ne_nil (by simp [hnext]), ih, hpiece, joinWords_cons_cons]

/-- A piece that is gone leaves only blanks, which a collapse takes away. -/
theorem collapse_joinWords_gap {before after : List (List Char)}
    (hb : ∀ piece ∈ before, Tidy piece) (ha : ∀ piece ∈ after, Tidy piece) :
    collapse (joinWords (before ++ [] :: after)) = joinWords (before ++ after) := by
  have htidy : ∀ piece ∈ before ++ after, Tidy piece := by
    simpa [or_imp, forall_and] using ⟨hb, ha⟩
  rw [collapse_joinWords, ← joinWords_words htidy]
  simp

theorem collapse_joinWords_tidy {pieces : List (List Char)} (h : ∀ piece ∈ pieces, Tidy piece) :
    collapse (joinWords pieces) = joinWords pieces := by
  rw [collapse_joinWords, joinWords_words h]

/-- Behind a tidy text and a space, a collapse works on the rest alone. -/
theorem collapse_append_space {front rest : List Char} (hf : Tidy front) (hr : words rest ≠ []) :
    collapse (front ++ ' ' :: rest) = front ++ ' ' :: collapse rest := by
  have hfront : joinWords (words front) = front := hf.collapsed
  rw [collapse, words_append _ _ isBlank_space, joinWords_append hf.words_ne_nil hr, hfront,
    collapse]

/-- A tidy text with marks in front, none of them blank, is tidy. -/
theorem Tidy.prepend {text marks : List Char} (h : Tidy text)
    (hm : ∀ c ∈ marks, isBlank c = false) : Tidy (marks ++ text) := by
  obtain ⟨word, others, hw⟩ := List.exists_cons_of_ne_nil h.words_ne_nil
  have htext : joinWords (word :: others) = text := hw ▸ h.collapsed
  have hjoin : marks ++ text = joinWords ((marks ++ word) :: others) := by
    rw [← htext]
    cases others <;> simp [joinWords]
  have hwords : ∀ piece ∈ word :: others, piece ≠ [] ∧ ∀ c ∈ piece, isBlank c = false :=
    fun piece hp => mem_words (hw ▸ hp)
  rw [hjoin]
  refine .of_words (by simp) fun piece hp => ?_
  rcases List.mem_cons.1 hp with rfl | hp
  · obtain ⟨hne, hword⟩ := hwords word List.mem_cons_self
    refine ⟨by simp [hne], fun c hc => ?_⟩
    exact (List.mem_append.1 hc).elim (hm c) (hword c)
  · exact hwords piece (List.mem_cons_of_mem _ hp)

theorem Tidy.append {text marks : List Char} (h : Tidy text)
    (hm : ∀ c ∈ marks, isBlank c = false) : Tidy (text ++ marks) := by
  obtain ⟨others, word, hw⟩ := (List.eq_nil_or_concat' (words text)).resolve_left h.words_ne_nil
  have htext : joinWords (others ++ [word]) = text := hw ▸ h.collapsed
  have hjoin : text ++ marks = joinWords (others ++ [word ++ marks]) := by
    rw [← htext, joinWords_around others word, joinWords_around others (word ++ marks)]
    simp
  have hwords : ∀ piece ∈ others ++ [word], piece ≠ [] ∧ ∀ c ∈ piece, isBlank c = false :=
    fun piece hp => mem_words (hw ▸ hp)
  rw [hjoin]
  refine .of_words (by simp) fun piece hp => ?_
  rcases List.mem_append.1 hp with hp | hp
  · exact hwords piece (List.mem_append_left _ hp)
  · obtain rfl := List.mem_singleton.1 hp
    obtain ⟨hne, hword⟩ := hwords word (by simp)
    refine ⟨by simp [hne], fun c hc => ?_⟩
    exact (List.mem_append.1 hc).elim (hword c) (hm c)

/-! ## Trimming -/

theorem trim_sublist (text : List Char) : (trim text).Sublist text := by
  have hback := (List.dropWhile_sublist (l := (text.dropWhile isBlank).reverse) isBlank).reverse
  rw [List.reverse_reverse] at hback
  exact hback.trans (List.dropWhile_sublist isBlank)

theorem joinWords_head {pieces : List (List Char)} (hne : pieces ≠ [])
    (h : ∀ piece ∈ pieces, piece ≠ [] ∧ ∀ c ∈ piece, isBlank c = false) :
    ∃ c rest, joinWords pieces = c :: rest ∧ isBlank c = false := by
  obtain ⟨piece, rest, rfl⟩ := List.exists_cons_of_ne_nil hne
  obtain ⟨hp, hc⟩ := h piece List.mem_cons_self
  obtain ⟨c, tail, rfl⟩ := List.exists_cons_of_ne_nil hp
  have hblank := hc c List.mem_cons_self
  cases rest with
  | nil => exact ⟨c, tail, rfl, hblank⟩
  | cons next rest => exact ⟨c, _, rfl, hblank⟩

theorem joinWords_last {pieces : List (List Char)} (hne : pieces ≠ [])
    (h : ∀ piece ∈ pieces, piece ≠ [] ∧ ∀ c ∈ piece, isBlank c = false) :
    ∃ front c, joinWords pieces = front ++ [c] ∧ isBlank c = false := by
  induction pieces with
  | nil => exact absurd rfl hne
  | cons piece pieces ih =>
    cases pieces with
    | nil =>
      obtain ⟨hp, hc⟩ := h piece List.mem_cons_self
      refine ⟨piece.dropLast, piece.getLast hp, ?_, hc _ (List.getLast_mem hp)⟩
      rw [joinWords_singleton, List.dropLast_concat_getLast hp]
    | cons next pieces =>
      obtain ⟨front, c, hj, hb⟩ := ih (by simp) fun p hm => h p (List.mem_cons_of_mem _ hm)
      exact ⟨piece ++ ' ' :: front, c, by rw [joinWords_cons_cons, hj]; simp, hb⟩

theorem trim_blank_cons {c : Char} (text : List Char) (h : isBlank c = true) :
    trim (c :: text) = trim text := by
  simp [trim, h]

/-- A tidy text has nothing to trim, not even with blanks put at its ends. -/
theorem Tidy.trim_append {text : List Char} (h : Tidy text) {blanks : List Char}
    (hb : ∀ c ∈ blanks, isBlank c = true) : trim (text ++ blanks) = text := by
  obtain ⟨c, rest, hc, hcb⟩ := joinWords_head h.words_ne_nil fun _ => mem_words
  obtain ⟨front, d, hd, hdb⟩ := joinWords_last h.words_ne_nil fun _ => mem_words
  have htext : joinWords (words text) = text := h.collapsed
  rw [htext] at hc hd
  have hfront : (text ++ blanks).dropWhile isBlank = text ++ blanks := by
    rw [hc, List.cons_append, List.dropWhile_cons_of_neg (by simp [hcb])]
  have hback : (text ++ blanks).reverse.dropWhile isBlank = text.reverse := by
    rw [List.reverse_append, List.dropWhile_append_of_pos (by simpa using hb), hd,
      List.reverse_append, List.reverse_singleton, List.singleton_append,
      List.dropWhile_cons_of_neg (by simp [hdb])]
  rw [trim, hfront, hback, List.reverse_reverse]

theorem Tidy.trim {text : List Char} (h : Tidy text) : trim text = text := by
  have hnil : ∀ c ∈ ([] : List Char), isBlank c = true := by simp
  simpa using h.trim_append hnil

theorem Tidy.trim_between {text before after : List Char} (h : Tidy text)
    (hb : ∀ c ∈ before, isBlank c = true) (ha : ∀ c ∈ after, isBlank c = true) :
    Text.trim (before ++ (text ++ after)) = text := by
  induction before with
  | nil => exact h.trim_append ha
  | cons c before ih =>
    rw [List.forall_mem_cons] at hb
    rw [List.cons_append, trim_blank_cons _ hb.1, ih hb.2]

end SchemaPhrase.Text
