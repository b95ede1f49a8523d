import SchemaPhrase.Text.Lowercase
import SchemaPhrase.Proofs.Text.Spacing

/-!
# Texts that lower case leaves alone

* `lowerChar_of_lt`: below the first accented letters, the lower case moves the capitals of ASCII
  and nothing else.
* `lowerOutside_append`: a text with paired quotes does not change how the text behind it is read.
* `Lowered`: the quotes of a text pair up and what stands outside them is in lower case, so that
  `lowercaseUnquoted` leaves it alone (`Lowered.fixed`). Pieces of this kind make up such a text
  (`Lowered.joinWords`).
-/

set_option autoImplicit false

namespace SchemaPhrase.Text

/-- No run of the table but that of the ASCII capitals begins below `U+00C0`. -/
theorem lowerTable_first : ∀ run ∈ lowerTable, run.first = 0x41 ∧ run.last = 0x5A ∨
    0xC0 ≤ run.first := by
  decide +kernel

theorem lowerChar_of_unmoved {c : Char} (hdot : c ≠ dottedCapitalI)
    (h : ∀ run ∈ lowerTable, run.moves c.toNat = false) : lowerChar c = [c] := by
  have hfind : lowerTable.find? (CaseRun.moves · c.toNat) = none := by
    rw [List.find?_eq_none]
    intro run hrun
    simp [h run hrun]
  rw [lowerChar, if_neg hdot, lowerCode, hfind]
  simp

theorem lowerChar_of_lt {c : Char} (h : c.toNat < 0x41 ∨ 0x5B ≤ c.toNat ∧ c.toNat < 0xC0) :
    lowerChar c = [c] := by
  have hdot : c ≠ dottedCapitalI := by
    rintro rfl
    revert h
    decide
  refine lowerChar_of_unmoved hdot fun run hrun => ?_
  have hfirst := lowerTable_first run hrun
  simp only [CaseRun.moves, Bool.and_eq_false_iff, decide_eq_false_iff_not]
  omega

/-- A text without capitals is in lower case, whatever stands before it. -/
theorem lowerAfter_of_forall {before text : List Char} (h : ∀ c ∈ text, lowerChar c = [c]) :
    lowerAfter before text = text := by
  have hsigma : lowerChar capitalSigma ≠ [capitalSigma] := by decide
  induction text generalizing before with
  | nil => rfl
  | cons c text ih =>
    have hc := h c List.mem_cons_self
    have hne : c ≠ capitalSigma := by
      rintro rfl
      exact hsigma hc
    rw [lowerAfter, if_neg hne, hc, ih fun a ha => h a (List.mem_cons_of_mem _ ha)]
    rfl

/-- Whether a text that starts outside a literal, or inside one, leaves off inside one. -/
def quotedAfter (quoted : Bool) (text : List Char) : Bool :=
  if text.count quote % 2 = 0 then quoted else !quoted

theorem quotedAfter_cons (quoted : Bool) (c : Char) (text : List Char) :
    quotedAfter quoted (c :: text) =
      quotedAfter (if c = quote then !quoted else quoted) text := by
  by_cases hc : c = quote
  · subst hc
    simp only [quotedAfter, List.count_cons_self, ↓reduceIte, Bool.not_not]
    by_cases h : text.count quote % 2 = 0
    · rw [if_pos h, if_neg (by omega)]
    · rw [if_neg h, if_pos (by omega)]
  · simp [quotedAfter, hc]

theorem lowerOutside_append (quoted : Bool) (text rest : List Char) :
    lowerOutside quoted (text ++ rest) =
      lowerOutside quoted text ++ lowerOutside (quotedAfter quoted text) rest := by
  induction text generalizing quoted with
  | nil => simp [quotedAfter, lowerOutside]
  | cons c text ih =>
    rw [quotedAfter_cons, List.cons_append, lowerOutside, lowerOutside]
    by_cases hc : c = quote
    · simp [hc, ih]
    · cases quoted <;> simp [hc, ih]

theorem lowerOutside_of_forall {text : List Char} (quoted : Bool)
    (h : ∀ c ∈ text, lowerChar c = [c]) : lowerOutside quoted text = text := by
  induction text generalizing quoted with
  | nil => rfl
  | cons c text ih =>
    have hc := h c List.mem_cons_self
    have ih := fun q => ih q fun a ha => h a (List.mem_cons_of_mem _ ha)
    simp [lowerOutside, hc, ih]

theorem lowerOutside_quoted {text : List Char} (h : quote ∉ text) :
    lowerOutside true text = text := by
  induction text with
  | nil => rfl
  | cons c text ih =>
    rw [List.mem_cons, not_or] at h
    rw [lowerOutside, if_neg (Ne.symm h.1), if_pos rfl, ih h.2]

/-- The quotes of the text pair up, and outside them it is in lower case. -/
structure Lowered (text : List Char) : Prop where
  paired : text.count quote % 2 = 0
  lower : lowerOutside false text = text

theorem Lowered.of_fixed {text : List Char} (hq : text.count quote % 2 = 0)
    (h : lowercaseUnquoted text = text) : Lowered text :=
  ⟨hq, by simpa [lowercaseUnquoted, hq] using h⟩

theorem Lowered.fixed {text : List Char} (h : Lowered text) : lowercaseUnquoted text = text := by
  rw [lowercaseUnquoted, if_pos h.paired, h.lower]

theorem Lowered.of_forall {text : List Char} (h : ∀ c ∈ text, c ≠ quote ∧ lowerChar c = [c]) :
    Lowered text := by
  refine ⟨?_, lowerOutside_of_forall false fun c hc => (h c hc).2⟩
  rw [List.count_eq_zero_of_not_mem fun hq => (h quote hq).1 rfl]

theorem Lowered.append {text rest : List Char} (ht : Lowered text) (hr : Lowered rest) :
    Lowered (text ++ rest) := by
  refine ⟨?_, ?_⟩
  · have := ht.paired
    have := hr.paired
    rw [List.count_append]
    omega
  · rw [lowerOutside_append, quotedAfter, if_pos ht.paired, ht.lower, hr.lower]

theorem Lowered.nil : Lowered [] := ⟨rfl, rfl⟩

/-- A literal may hold anything but a quote. -/
theorem Lowered.quoted {text : List Char} (h : quote ∉ text) :
    Lowered (quote :: text ++ [quote]) := by
  have hcount : text.count quote = 0 := List.count_eq_zero_of_not_mem h
  refine ⟨by simp [hcount], ?_⟩
  rw [List.cons_append, lowerOutside, if_pos rfl, lowerOutside_append, Bool.not_false,
    lowerOutside_quoted h, quotedAfter, if_pos (by rw [hcount])]
  rfl

theorem lowered_space : Lowered [' '] := ⟨by decide, by decide⟩

theorem Lowered.joinWords {pieces : List (List Char)} (h : ∀ piece ∈ pieces, Lowered piece) :
    Lowered (joinWords pieces) := by
  induction pieces with
  | nil => exact .nil
  | cons piece pieces ih =>
    have hp := h piece List.mem_cons_self
    have ih := ih fun p hm => h p (List.mem_cons_of_mem _ hm)
    cases pieces with
    | nil => exact hp
    | cons next pieces => exact hp.append (lowered_space.append ih)

end SchemaPhrase.Text
