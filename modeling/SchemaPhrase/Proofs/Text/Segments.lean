import SchemaPhrase.Proofs.Text.CaseVariants

/-!
# Segments between quotes

The quotes of a text cut it into segments, one more than there are quotes. If the quotes pair up,
every second segment is a literal: `lowercaseUnquoted` leaves it as it is and writes each character
of the others in lower case (`lowerOutside_eq_intercalate`). `lowercaseUnquoted_segments` says so of
every text, with what is done to one whose quotes do not pair up.
-/

set_option autoImplicit false

namespace SchemaPhrase.Text

/-- The segment at this position: in lower case, character by character, but a literal as it is. -/
def lowerSegment (position : Nat) (segment : List Char) : List Char :=
  if position % 2 = 0 then segment.flatMap lowerChar else segment

@[simp] theorem lowerSegment_nil (position : Nat) : lowerSegment position [] = [] := by
  simp [lowerSegment]

theorem lowerSegment_cons (position : Nat) (c : Char) (segment : List Char) :
    lowerSegment position (c :: segment) =
      (if position % 2 = 0 then lowerChar c else [c]) ++ lowerSegment position segment := by
  by_cases h : position % 2 = 0 <;> simp [lowerSegment, h]

/-- Segments with their positions counted from `start`. -/
def lowerSegments (start : Nat) (segments : List (List Char)) : List (List Char) :=
  segments.mapIdx fun position => lowerSegment (position + start)

theorem lowerSegments_cons (start : Nat) (segment : List Char) (segments : List (List Char)) :
    lowerSegments start (segment :: segments) =
      lowerSegment start segment :: lowerSegments (start + 1) segments := by
  simp [lowerSegments, List.mapIdx_cons, Nat.add_assoc, Nat.add_comm 1]

theorem splitOn_quote_cons (text : List Char) :
    (quote :: text).splitOn quote = [] :: text.splitOn quote := by
  rw [List.splitOn_cons_eq_if_modifyHead, if_pos (beq_self_eq_true quote)]

theorem splitOn_cons_of_ne {c : Char} (hc : c ≠ quote) (text : List Char) :
    ∃ segment segments, text.splitOn quote = segment :: segments ∧
      (c :: text).splitOn quote = (c :: segment) :: segments := by
  obtain ⟨segment, segments, hsplit⟩ := List.exists_cons_of_ne_nil (List.splitOn_ne_nil quote text)
  refine ⟨segment, segments, hsplit, ?_⟩
  rw [List.splitOn_cons_eq_if_modifyHead, if_neg (by simpa using hc), hsplit, List.modifyHead_cons]

theorem length_splitOn_quote (text : List Char) :
    (text.splitOn quote).length = text.count quote + 1 := by
  induction text with
  | nil => rfl
  | cons c text ih =>
    by_cases hc : c = quote
    · rw [hc, splitOn_quote_cons, List.length_cons, ih, List.count_cons_self]
    · obtain ⟨segment, segments, hsplit, hcons⟩ := splitOn_cons_of_ne hc text
      rw [hsplit] at ih
      rw [hcons, List.count_cons_of_ne hc, ← ih, List.length_cons, List.length_cons]

theorem intercalate_append_cons (front segment : List Char) (segments : List (List Char)) :
    [quote].intercalate ((front ++ segment) :: segments) =
      front ++ [quote].intercalate (segment :: segments) := by
  cases segments with
  | nil => simp
  | cons next segments => simp [List.intercalate_cons_cons]

/-- **The scan goes segment by segment.** The segments are counted from `start`, so that the text
starts inside a literal if `start` is odd. -/
theorem lowerOutside_eq_intercalate (start : Nat) (text : List Char) :
    lowerOutside (start % 2 == 1) text =
      [quote].intercalate (lowerSegments start (text.splitOn quote)) := by
  induction text generalizing start with
  | nil => simp [lowerOutside, lowerSegments]
  | cons c text ih =>
    rw [lowerOutside_cons]
    by_cases hc : c = quote
    · -- the quote turns the parity with which the segments behind it are counted
      have hturn : (!(start % 2 == 1)) = ((start + 1) % 2 == 1) := by
        rcases Nat.mod_two_eq_zero_or_one start with h | h <;> simp [Nat.add_mod, h]
      have hne : lowerSegments (start + 1) (text.splitOn quote) ≠ [] := by
        simp [lowerSegments, List.splitOn_ne_nil]
      rw [if_pos (.inl hc), if_pos hc, hturn, ih, hc, splitOn_quote_cons, lowerSegments_cons,
        lowerSegment_nil, List.intercalate_cons_of_ne_nil hne, List.nil_append]
    · obtain ⟨segment, segments, hsplit, hcons⟩ := splitOn_cons_of_ne hc text
      have hkept : (if c = quote ∨ (start % 2 == 1) = true then [c] else lowerChar c) =
          if start % 2 = 0 then lowerChar c else [c] := by
        rcases Nat.mod_two_eq_zero_or_one start with h | h <;> simp [hc, h]
      rw [hkept, if_neg hc, ih, hsplit, hcons, lowerSegments_cons, lowerSegments_cons,
        lowerSegment_cons, intercalate_append_cons]

/-- **Lower case touches just the text outside literals.** The quotes cut a text into segments. If
their number is even, the segments at even positions are written in lower case character by
character, and the others, which are the literals, stay; if it is odd, the whole text is written in
lower case. Either way the quotes stay, and a second time nothing changes. -/
theorem lowercaseUnquoted_segments (text : List Char) :
    (text.splitOn quote).length = text.count quote + 1 ∧
      lowercaseUnquoted text =
        (if text.count quote % 2 = 0 then
          [quote].intercalate ((text.splitOn quote).mapIdx lowerSegment)
        else lowerText text) ∧
      (lowercaseUnquoted text).count quote = text.count quote ∧
      lowercaseUnquoted (lowercaseUnquoted text) = lowercaseUnquoted text := by
  refine ⟨length_splitOn_quote text, ?_, count_quote_lowercaseUnquoted text,
    lowercaseUnquoted_idem text⟩
  rw [lowercaseUnquoted]
  split
  · exact lowerOutside_eq_intercalate 0 text
  · rfl

/-- Only in a text whose quotes do not pair up does a sigma know that it ends a word. -/
example : lowercaseUnquoted "A'B'ΑΣ".toList = "a'B'ασ".toList ∧
    lowercaseUnquoted "A'BΑΣ".toList = "a'bας".toList := by
  decide +kernel

end SchemaPhrase.Text
