import SchemaPhrase.Proofs.Text.Folding

/-!
# Texts that differ in letter case

`lowercaseUnquoted` gives a text that it leaves alone (`lowercaseUnquoted_idem`): a letter in lower
case is in lower case, quotes are neither made nor lost (`count_quote_lowercaseUnquoted`), and no
capital sigma is left whose lower case would depend on the word around it.

Two texts are `CaseVariants` if they differ in the case of ASCII letters and nowhere else. An ASCII
letter has the same lower case and bounds a word alike in either case (`eq_toLower_of_capitals`).
So `lowerText` does not tell such texts apart (`lowerText_map_toLower`), nor does `lowerOutside` if
they agree within literals (`CaseVariants.lowercaseUnquoted_eq`).
-/

set_option autoImplicit false

namespace SchemaPhrase.Text

/-! ## Statements -/

/-- An even number of quotes stands before the position. -/
def OutsideLiterals (text : List Char) (position : Nat) : Prop :=
  (text.take position).count quote % 2 = 0

instance (text : List Char) : DecidablePred (OutsideLiterals text) := fun _ =>
  inferInstanceAs (Decidable (_ = _))

/-- Texts of one length that differ in the case of ASCII letters, at `free` positions only. -/
def CaseVariants (free : Nat → Prop) (text other : List Char) : Prop :=
  text.length = other.length ∧ ∀ position < text.length,
    text[position]? = other[position]? ∨
      free position ∧ text[position]?.map Char.toLower = other[position]?.map Char.toLower

instance (free : Nat → Prop) [DecidablePred free] (text other : List Char) :
    Decidable (CaseVariants free text other) :=
  inferInstanceAs (Decidable (_ ∧ _))

/-! ## Quotes -/

/-- No letter lands on the quote or below it. -/
theorem lowerTable_above : ∀ run ∈ lowerTable, quote.toNat < run.landing.1 := by
  decide +kernel

theorem lowerChar_quote : lowerChar quote = [quote] := lowerChar_of_lt (by decide)

/-- **No other character has a quote in lower case.** -/
theorem quote_mem_lowerChar_iff {c : Char} : quote ∈ lowerChar c ↔ c = quote := by
  constructor
  · intro h
    rcases lowerChar_cases c with rfl | hc | ⟨run, d, hc, htakes⟩
    · exact absurd h (by decide)
    · rw [hc, List.mem_singleton] at h
      exact h.symm
    · rw [hc, List.mem_singleton] at h
      have habove := lowerTable_above run htakes.mem
      have hlanding := htakes.mem_landing
      rw [← h] at hlanding
      omega
  · rintro rfl
    rw [lowerChar_quote]
    exact List.mem_singleton_self _

theorem count_quote_lowerChar (c : Char) : (lowerChar c).count quote = [c].count quote := by
  by_cases hc : c = quote
  · rw [hc, lowerChar_quote]
  · rw [List.count_eq_zero_of_not_mem fun hm => hc (quote_mem_lowerChar_iff.1 hm),
      List.count_eq_zero_of_not_mem fun hm => hc (List.mem_singleton.1 hm).symm]

theorem count_quote_cons (c : Char) (text : List Char) :
    (c :: text).count quote = [c].count quote + text.count quote := by
  rw [← List.count_append, List.singleton_append]

/-- A quote stays and turns `quoted` around; another character stays if it is quoted. -/
theorem lowerOutside_cons (quoted : Bool) (c : Char) (text : List Char) :
    lowerOutside quoted (c :: text) =
      (if c = quote ∨ quoted = true then [c] else lowerChar c) ++
        lowerOutside (if c = quote then !quoted else quoted) text := by
  by_cases hc : c = quote
  · simp [lowerOutside, hc]
  · cases quoted <;> simp [lowerOutside, hc]

theorem count_quote_lowerOutside (quoted : Bool) (text : List Char) :
    (lowerOutside quoted text).count quote = text.count quote := by
  induction text generalizing quoted with
  | nil => rfl
  | cons c text ih =>
    rw [lowerOutside_cons, List.count_append, ih, count_quote_cons]
    split
    · rfl
    · rw [count_quote_lowerChar]

theorem count_quote_lowerAfter (before text : List Char) :
    (lowerAfter before text).count quote = text.count quote := by
  have hsigmas : [capitalSigma].count quote = 0 ∧ ['\u03C2'].count quote = 0 ∧
      ['\u03C3'].count quote = 0 := by decide
  induction text generalizing before with
  | nil => rfl
  | cons c text ih =>
    rw [lowerAfter, List.count_append, ih, count_quote_cons]
    split
    · next hc =>
      rw [hc, hsigmas.1]
      split
      · rw [hsigmas.2.1]
      · rw [hsigmas.2.2]
    · rw [count_quote_lowerChar]

/-- **Quotes are neither made nor lost.** -/
theorem count_quote_lowercaseUnquoted (text : List Char) :
    (lowercaseUnquoted text).count quote = text.count quote := by
  unfold lowercaseUnquoted
  split
  · exact count_quote_lowerOutside false text
  · exact count_quote_lowerAfter [] text

/-! ## Lower case of lower case -/

theorem lowerOutside_idem (quoted : Bool) (text : List Char) :
    lowerOutside quoted (lowerOutside quoted text) = lowerOutside quoted text := by
  induction text generalizing quoted with
  | nil => rfl
  | cons c text ih =>
    rw [lowerOutside_cons]
    by_cases hc : c = quote ∨ quoted = true
    · rw [if_pos hc, List.singleton_append, lowerOutside_cons, if_pos hc, ih]
      rfl
    · rw [not_or, Bool.not_eq_true] at hc
      have hcount : (lowerChar c).count quote = 0 := by
        rw [count_quote_lowerChar, List.count_singleton, beq_false_of_ne hc.1]
        rfl
      have hlower : lowerOutside false (lowerChar c) = lowerChar c :=
        lowerOutside_of_forall false fun d => lowerChar_idem
      simp [hc, lowerOutside_append, quotedAfter, hcount, hlower, ih]

theorem lowerChar_of_mem_lowerAfter {before text : List Char} {d : Char}
    (h : d ∈ lowerAfter before text) : lowerChar d = [d] := by
  induction text generalizing before with
  | nil => cases h
  | cons c text ih =>
    rw [lowerAfter, List.mem_append] at h
    rcases h with h | h
    · split at h
      · rw [List.mem_singleton] at h
        rw [h]
        split <;> decide +kernel
      · exact lowerChar_idem h
    · exact ih h

/-- **A text in lower case is in lower case**, within literals and outside. -/
theorem lowercaseUnquoted_idem (text : List Char) :
    lowercaseUnquoted (lowercaseUnquoted text) = lowercaseUnquoted text := by
  have hcount := count_quote_lowercaseUnquoted text
  rw [lowercaseUnquoted, hcount, lowercaseUnquoted]
  split
  · exact lowerOutside_idem false text
  · exact lowerAfter_of_forall fun d => lowerChar_of_mem_lowerAfter

/-! ## ASCII letters -/

/-- A character is a capital, or has itself as its small letter. -/
theorem capital_or_toLower_eq (c : Char) :
    (∃ n ∈ List.range' 0x41 26, c = Char.ofNat n) ∨ c.toLower = c := by
  by_cases hc : 0x41 ≤ c.toNat ∧ c.toNat ≤ 0x5A
  · exact .inl ⟨c.toNat, List.mem_range'_1.2 (by omega), (Char.ofNat_toNat c).symm⟩
  · refine .inr ?_
    unfold Char.toLower
    split
    · next hcapital =>
      rw [ge_iff_le, UInt32.le_iff_toNat_le, UInt32.le_iff_toNat_le] at hcapital
      exact absurd hcapital hc
    · rfl

/-- What is the same for each capital and its small letter is so for every character. -/
theorem eq_toLower_of_capitals {β : Type} {f : Char → β}
    (h : ∀ n ∈ List.range' 0x41 26, f (Char.ofNat n).toLower = f (Char.ofNat n)) (c : Char) :
    f c.toLower = f c := by
  rcases capital_or_toLower_eq c with ⟨n, hn, rfl⟩ | hsame
  · exact h n hn
  · rw [hsame]

theorem toLower_of_mem_lowerText {text : List Char} {c : Char} (h : c ∈ lowerText text) :
    c.toLower = c := by
  have hcapitals : ∀ n ∈ List.range' 0x41 26, lowerChar (Char.ofNat n) ≠ [Char.ofNat n] := by
    decide +kernel
  rcases capital_or_toLower_eq c with ⟨n, hn, rfl⟩ | hsame
  · exact absurd (lowerChar_of_mem_lowerAfter h) (hcapitals n hn)
  · exact hsame

theorem lowerChar_toLower (c : Char) : lowerChar c.toLower = lowerChar c :=
  eq_toLower_of_capitals (by decide +kernel) c

theorem isCased_toLower (c : Char) : isCased c.toLower = isCased c :=
  eq_toLower_of_capitals (by decide +kernel) c

theorem isCaseIgnorable_toLower (c : Char) : isCaseIgnorable c.toLower = isCaseIgnorable c :=
  eq_toLower_of_capitals (by decide +kernel) c

theorem toLower_eq_quote_iff {c : Char} : c.toLower = quote ↔ c = quote := by
  have h := eq_toLower_of_capitals (f := (· == quote)) (by decide) c
  rw [← beq_iff_eq, h, beq_iff_eq]

theorem toLower_eq_capitalSigma_iff {c : Char} : c.toLower = capitalSigma ↔ c = capitalSigma := by
  have h := eq_toLower_of_capitals (f := (· == capitalSigma)) (by decide) c
  rw [← beq_iff_eq, h, beq_iff_eq]

theorem meetsCased_map_toLower (text : List Char) :
    meetsCased (text.map Char.toLower) = meetsCased text := by
  induction text with
  | nil => rfl
  | cons c text ih =>
    rw [List.map_cons, meetsCased, meetsCased, isCaseIgnorable_toLower, isCased_toLower, ih]

theorem lowerAfter_map_toLower (before text : List Char) :
    lowerAfter (before.map Char.toLower) (text.map Char.toLower) = lowerAfter before text := by
  induction text generalizing before with
  | nil => rfl
  | cons c text ih =>
    have ih := ih (c :: before)
    rw [List.map_cons] at ih
    simp only [List.map_cons, lowerAfter, ih, toLower_eq_capitalSigma_iff, lowerChar_toLower,
      endsWord, meetsCased_map_toLower]
    rfl

theorem lowerText_map_toLower (text : List Char) :
    lowerText (text.map Char.toLower) = lowerText text :=
  lowerAfter_map_toLower [] text

theorem foldCase_map_toLower (text : List Char) :
    foldCase (text.map Char.toLower) = foldCase text := by
  induction text with
  | nil => rfl
  | cons c text ih =>
    rw [List.map_cons, foldCase_cons, foldCase_cons, ih, foldChar, lowerChar_toLower, foldChar]

theorem count_quote_map_toLower (text : List Char) :
    (text.map Char.toLower).count quote = text.count quote := by
  induction text with
  | nil => rfl
  | cons c text ih =>
    simp only [List.map_cons, List.count_cons, ih, beq_iff_eq, toLower_eq_quote_iff]

/-! ## Variants -/

namespace CaseVariants

variable {free : Nat → Prop} {text other : List Char} {c d : Char}

theorem map_toLower_eq (h : CaseVariants free text other) :
    text.map Char.toLower = other.map Char.toLower := by
  refine List.ext_getElem? fun position => ?_
  rw [List.getElem?_map, List.getElem?_map]
  by_cases hposition : position < text.length
  · exact (h.2 position hposition).elim (congrArg _) And.right
  · have hlength := h.1
    rw [List.getElem?_eq_none (by omega), List.getElem?_eq_none (by omega)]

theorem foldCase_eq (h : CaseVariants free text other) : foldCase text = foldCase other := by
  rw [← foldCase_map_toLower, h.map_toLower_eq, foldCase_map_toLower]

theorem count_quote_eq (h : CaseVariants free text other) :
    text.count quote = other.count quote := by
  rw [← count_quote_map_toLower, h.map_toLower_eq, count_quote_map_toLower]

theorem of_cons (h : CaseVariants free (c :: text) (d :: other)) :
    (c = d ∨ free 0 ∧ c.toLower = d.toLower) ∧
      CaseVariants (fun position => free (position + 1)) text other := by
  refine ⟨by simpa using h.2 0 (Nat.succ_pos _), by simpa using h.1, fun position hposition => ?_⟩
  simpa using h.2 (position + 1) (Nat.succ_lt_succ hposition)

theorem mono {free' : Nat → Prop} (h : CaseVariants free text other)
    (hfree : ∀ position, free position → free' position) : CaseVariants free' text other :=
  ⟨h.1, fun position hposition =>
    (h.2 position hposition).imp_right (And.imp_left (hfree position))⟩

/-- **Variants that agree within literals** have the same lower case outside. -/
theorem lowerOutside_eq {quoted : Bool}
    (h : CaseVariants
      (fun position => quotedAfter quoted (text.take position) = false) text other) :
    lowerOutside quoted text = lowerOutside quoted other := by
  induction text generalizing quoted other with
  | nil => rw [List.length_eq_zero_iff.1 h.1.symm]
  | cons c text ih =>
    cases other with
    | nil => exact nomatch h.1
    | cons d other =>
      obtain ⟨hhead, htail⟩ := h.of_cons
      simp only [List.take_succ_cons, quotedAfter_cons] at htail
      rw [lowerOutside_cons, lowerOutside_cons, ih htail]
      rcases hhead with rfl | ⟨hfree, hlower⟩
      · rfl
      · -- the position is outside of literals, or both characters are the quote that opens one
        have hquoted : quoted = false := hfree
        have hquote : c = quote ↔ d = quote := by
          rw [← toLower_eq_quote_iff, hlower, toLower_eq_quote_iff]
        simp only [hquote, hquoted, ← lowerChar_toLower c, hlower, lowerChar_toLower d]
        by_cases hd : d = quote
        · simp [hd, hquote.2 hd]
        · simp [hd]

/-- **Variants have the same lower case outside literals**, if they agree within, or if their quotes
do not pair up. -/
theorem lowercaseUnquoted_eq (h : CaseVariants
      (fun position => OutsideLiterals text position ∨ text.count quote % 2 = 1) text other) :
    lowercaseUnquoted text = lowercaseUnquoted other := by
  rw [lowercaseUnquoted, lowercaseUnquoted, ← h.count_quote_eq]
  split
  · next heven =>
    exact lowerOutside_eq (h.mono fun position hfree => if_pos (hfree.resolve_right (by omega)))
  · rw [← lowerText_map_toLower, h.map_toLower_eq, lowerText_map_toLower]

end CaseVariants

end SchemaPhrase.Text
