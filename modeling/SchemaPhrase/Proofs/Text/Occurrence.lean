import Mathlib.Data.List.Basic
import SchemaPhrase.Text.Search
import SchemaPhrase.Proofs.Text.Spacing

/-!
# Where a key occurs

* `occurs_iff`: a key occurs exactly if it is an infix of the text.
* `infix_append_cons`, `infix_append_cons_pair`: an occurrence across a separator. A key without
  the separator lies on one side of it; one that holds it once may also have its two parts on the
  two sides. From these, `not_infix_joinWords` and `not_infix_joinWords_pair` say when joined
  pieces do not hold a key.
* `splitAt?_of_not_infix`: the search finds the first occurrence.
* `exists_count_replaceAll`: an exchange loses the characters of the key as often as it is found, so
  that fewer are left of those that the new text does not have (`count_replaceAll_lt`).
* `replaceAll_joinWords`: exchanging a key that stands as one of the pieces, and nowhere else,
  exchanges that piece.
-/

set_option autoImplicit false

namespace SchemaPhrase.Text

theorem occurs_iff {key text : List Char} : occurs key text = true ↔ key <:+: text := by
  induction text with
  | nil => simp [occurs, List.isEmpty_iff]
  | cons c rest ih => simp [occurs, ih, List.infix_cons_iff, List.isPrefixOf_iff_prefix]

theorem occurs_eq_false_iff {key text : List Char} :
    occurs key text = false ↔ ¬ key <:+: text := by
  rw [← occurs_iff, Bool.not_eq_true]

/-- A key of characters that `f` gives to no other is found after it as before. -/
theorem occurs_map {f : Char → Char} {key : List Char} (h : ∀ k ∈ key, ∀ c, k = f c ↔ k = c)
    (text : List Char) : occurs key (text.map f) = occurs key text := by
  have hprefix : ∀ text : List Char, key.isPrefixOf (text.map f) = key.isPrefixOf text := by
    induction key with
    | nil => intro text; rfl
    | cons k key ih =>
      intro text
      cases text with
      | nil => rfl
      | cons c text =>
        have hk : (k == f c) = (k == c) := by
          rw [Bool.eq_iff_iff, beq_iff_eq, beq_iff_eq, h k List.mem_cons_self c]
        rw [List.map_cons, List.isPrefixOf, List.isPrefixOf, hk,
          ih fun a ha => h a (List.mem_cons_of_mem _ ha)]
  induction text with
  | nil => rfl
  | cons c text ih =>
    rw [occurs, ← hprefix (c :: text), ← ih]
    rfl

theorem not_infix_of_notMem {key text : List Char} {c : Char} (hk : c ∈ key) (ht : c ∉ text) :
    ¬ key <:+: text :=
  fun h => ht (h.subset hk)

theorem not_infix_dropLast {key : List Char} (hk : key ≠ []) : ¬ key <:+: key.dropLast := by
  intro h
  have hle := h.length_le
  have hpos := List.length_pos_of_ne_nil hk
  rw [List.length_dropLast] at hle
  omega

/-! ## Occurrences across a separator -/

theorem prefix_cons_of_notMem {sep : Char} {key text : List Char} (hs : sep ∉ key)
    (h : key <+: sep :: text) : key = [] := by
  rcases List.prefix_cons_iff.1 h with rfl | ⟨t, rfl, -⟩
  · rfl
  · exact absurd List.mem_cons_self hs

/-- What stands in front of a separator is all that a key without it can begin with. -/
theorem prefix_append_cons {sep : Char} {key a b : List Char} (hs : sep ∉ key) :
    key <+: a ++ sep :: b ↔ key <+: a := by
  refine ⟨fun h => ?_, fun h => h.trans (List.prefix_append _ _)⟩
  rcases Nat.le_total key.length a.length with hle | hle
  · exact List.prefix_of_prefix_length_le h (List.prefix_append _ _) hle
  · obtain ⟨t, rfl⟩ := List.prefix_of_prefix_length_le (List.prefix_append a (sep :: b)) h hle
    rw [List.prefix_append_right_inj] at h
    rw [prefix_cons_of_notMem (fun hm => hs (List.mem_append_right _ hm)) h]
    simp

theorem suffix_append_cons {sep : Char} {key a b : List Char} (hs : sep ∉ key) :
    key <:+ a ++ sep :: b ↔ key <:+ b := by
  have h : key.reverse <+: b.reverse ++ sep :: a.reverse ↔ key.reverse <+: b.reverse :=
    prefix_append_cons (by simpa using hs)
  rw [← List.reverse_prefix, List.reverse_append, List.reverse_cons, List.append_assoc,
    List.singleton_append, h, List.reverse_prefix]

/-- A key without the separator lies on one side of it. -/
theorem infix_append_cons {sep : Char} {key a b : List Char} (hk : key ≠ []) (hs : sep ∉ key) :
    key <:+: a ++ sep :: b ↔ key <:+: a ∨ key <:+: b := by
  rw [List.infix_append_iff, List.infix_cons_iff]
  constructor
  · rintro (h | (h | h) | ⟨l₁, l₂, rfl, h₁, h₂⟩)
    · exact .inl h
    · exact absurd (prefix_cons_of_notMem hs h) hk
    · exact .inr h
    · rw [prefix_cons_of_notMem (fun hm => hs (List.mem_append_right _ hm)) h₂, List.append_nil]
      exact .inl h₁.isInfix
  · rintro (h | h)
    · exact .inl h
    · exact .inr (.inl (.inr h))

/-- A key without the two marks that is not in front of them lies between them. -/
theorem infix_between {key front inner : List Char} {opening closing : Char} (hk : key ≠ [])
    (ho : opening ∉ key) (hc : closing ∉ key) (hf : ¬ key <:+: front) :
    key <:+: front ++ opening :: (inner ++ [closing]) ↔ key <:+: inner := by
  have hnil : ¬ key <:+: [] := by simpa using hk
  rw [infix_append_cons hk ho, infix_append_cons hk hc, or_iff_right hf, or_iff_left hnil]

/-- A key of two parts lies on one side of the separator, or has one part on each. -/
theorem infix_append_cons_pair {sep : Char} {x y a b : List Char} (hne : x ≠ []) (hx : sep ∉ x)
    (hy : sep ∉ y) :
    x ++ sep :: y <:+: a ++ sep :: b ↔
      x ++ sep :: y <:+: a ∨ x ++ sep :: y <:+: b ∨ x <:+ a ∧ y <+: b := by
  rw [List.infix_append_iff, List.infix_cons_iff]
  constructor
  · rintro (h | (h | h) | ⟨l₁, l₂, he, h₁, h₂⟩)
    · exact .inl h
    · obtain ⟨c, x, rfl⟩ := List.exists_cons_of_ne_nil hne
      rw [List.cons_append, List.cons_prefix_cons] at h
      exact absurd (h.1 ▸ List.mem_cons_self) hx
    · exact .inr (.inl h)
    · rcases List.prefix_cons_iff.1 h₂ with rfl | ⟨t, rfl, ht⟩
      · rw [he, List.append_nil]
        exact .inl h₁.isInfix
      · obtain ⟨rfl, -, rfl⟩ := (List.append_cons_inj_of_notMem hx hy).1 he
        exact .inr (.inr ⟨h₁, ht⟩)
  · rintro (h | h | ⟨h₁, h₂⟩)
    · exact .inl h
    · exact .inr (.inl (.inr h))
    · exact .inr (.inr ⟨x, sep :: y, rfl, h₁, List.cons_prefix_cons.2 ⟨rfl, h₂⟩⟩)

/-! ## Joined pieces -/

theorem prefix_joinWords_cons {key piece : List Char} (pieces : List (List Char))
    (hs : ' ' ∉ key) : key <+: joinWords (piece :: pieces) ↔ key <+: piece := by
  cases pieces with
  | nil => rfl
  | cons next pieces => rw [joinWords_cons_cons, prefix_append_cons hs]

/-- Joined pieces hold a key without spaces only inside a piece. -/
theorem not_infix_joinWords {key : List Char} (hk : key ≠ []) (hs : ' ' ∉ key)
    {pieces : List (List Char)} (h : ∀ piece ∈ pieces, ¬ key <:+: piece) :
    ¬ key <:+: joinWords pieces := by
  induction pieces with
  | nil => simpa [joinWords] using hk
  | cons piece pieces ih =>
    have hp := h piece List.mem_cons_self
    have ih := ih fun p hm => h p (List.mem_cons_of_mem _ hm)
    cases pieces with
    | nil => exact hp
    | cons next pieces =>
      rw [joinWords_cons_cons, infix_append_cons hk hs]
      exact not_or.2 ⟨hp, ih⟩

/-- Joined pieces hold a key of two words inside a piece, or where a piece ends in the first word
and a piece begins with the second. -/
theorem not_infix_joinWords_pair {x y : List Char} (hne : x ≠ []) (hx : ' ' ∉ x) (hy : ' ' ∉ y)
    {pieces : List (List Char)} (h : ∀ piece ∈ pieces, ¬ x ++ ' ' :: y <:+: piece)
    (hxy : ∀ piece ∈ pieces, ∀ next ∈ pieces, ¬ (x <:+ piece ∧ y <+: next)) :
    ¬ x ++ ' ' :: y <:+: joinWords pieces := by
  induction pieces with
  | nil => simp [joinWords]
  | cons piece pieces ih =>
    have hp := h piece List.mem_cons_self
    have ih := ih (fun p hm => h p (List.mem_cons_of_mem _ hm)) fun p hp q hq =>
      hxy p (List.mem_cons_of_mem _ hp) q (List.mem_cons_of_mem _ hq)
    cases pieces with
    | nil => exact hp
    | cons next pieces =>
      rw [joinWords_cons_cons, infix_append_cons_pair hne hx hy, prefix_joinWords_cons _ hy]
      exact not_or.2 ⟨hp, not_or.2 ⟨ih, hxy piece (by simp) next (by simp)⟩⟩

/-! ## The first occurrence -/

/-- **The search stops at the first occurrence**: no other one begins before it. -/
theorem splitAt?_of_not_infix {key before : List Char} (after : List Char) (hk : key ≠ [])
    (h : ¬ key <:+: before ++ key.dropLast) :
    splitAt? key (before ++ key ++ after) = some (before, after) := by
  induction before with
  | nil =>
    obtain ⟨c, tail, rfl⟩ := List.exists_cons_of_ne_nil hk
    simp [splitAt?]
  | cons c before ih =>
    have ih := ih fun hi => h (List.infix_cons hi)
    have hnot : key.isPrefixOf (c :: (before ++ key ++ after)) = false := by
      rw [Bool.eq_false_iff, ne_eq, List.isPrefixOf_iff_prefix]
      intro hp
      refine h (List.IsPrefix.isInfix ?_)
      refine List.prefix_of_prefix_length_le hp ⟨key.drop (key.length - 1) ++ after, ?_⟩ ?_
      · rw [List.dropLast_eq_take]
        simp only [List.cons_append, List.append_assoc]
        rw [← List.append_assoc (List.take _ _), List.take_append_drop]
      · have := List.length_pos_of_ne_nil hk
        simp
        omega
    simp only [List.cons_append, splitAt?, hnot, Bool.false_eq_true, ↓reduceIte, ih,
      Option.map_some]

theorem splitAt?_append {key tail text before after : List Char}
    (h : splitAt? key text = some (before, tail ++ after)) (hk : key ≠ []) :
    splitAt? (key ++ tail) text = some (before, after) := by
  induction text generalizing before with
  | nil => simp [splitAt?, hk] at h
  | cons c rest ih =>
    rw [splitAt?] at h ⊢
    by_cases hp : key.isPrefixOf (c :: rest) = true
    · rw [if_pos hp, Option.some.injEq, Prod.mk.injEq] at h
      obtain ⟨t, ht⟩ := List.isPrefixOf_iff_prefix.1 hp
      rw [← ht, List.drop_left] at h
      obtain ⟨rfl, rfl⟩ := h
      have hlong : (key ++ tail).isPrefixOf (c :: rest) = true := by
        rw [List.isPrefixOf_iff_prefix, ← ht, ← List.append_assoc]
        exact List.prefix_append _ _
      rw [if_pos hlong, ← ht, ← List.append_assoc, List.drop_left]
    · rw [if_neg hp, Option.map_eq_some_iff] at h
      obtain ⟨⟨before', after'⟩, hr, he⟩ := h
      simp only [Prod.mk.injEq] at he
      obtain ⟨rfl, rfl⟩ := he
      have hlong : ¬ (key ++ tail).isPrefixOf (c :: rest) = true := by
        rw [List.isPrefixOf_iff_prefix] at hp ⊢
        exact fun hl => hp ((List.prefix_append _ _).trans hl)
      rw [if_neg hlong, ih hr, Option.map_some]

theorem splitAt?_eq_none_iff {key text : List Char} :
    splitAt? key text = none ↔ ¬ key <:+: text := by
  rw [← occurs_eq_false_iff]
  induction text with
  | nil => cases key <;> simp [splitAt?, occurs]
  | cons c rest ih =>
    rw [splitAt?, occurs, Bool.or_eq_false_iff, ← ih]
    by_cases hp : key.isPrefixOf (c :: rest) = true
    · simp [hp]
    · rw [if_neg hp, Option.map_eq_none_iff]
      simp [hp]

/-! ## Exchanges -/

theorem replaceAll_cons {key text : List Char} {c : Char} (new : List Char)
    (h : ¬ key <+: c :: text) : replaceAll key new (c :: text) = c :: replaceAll key new text := by
  rw [replaceAll, replaceFrom, if_neg (by rwa [List.isPrefixOf_iff_prefix])]
  rfl

theorem replaceAll_of_not_infix {key text : List Char} (new : List Char)
    (h : ¬ key <:+: text) : replaceAll key new text = text := by
  induction text with
  | nil => rfl
  | cons c rest ih =>
    rw [List.infix_cons_iff, not_or] at h
    rw [replaceAll_cons new h.1, ih h.2]

theorem replaceAll_of_splitAt? {key text before after : List Char} (new : List Char)
    (hk : key ≠ []) (h : splitAt? key text = some (before, after)) :
    replaceAll key new text = before ++ new ++ replaceAll key new after := by
  induction text generalizing before with
  | nil => simp [splitAt?, hk] at h
  | cons c rest ih =>
    rw [splitAt?] at h
    by_cases hp : key.isPrefixOf (c :: rest) = true
    · rw [if_pos hp, Option.some.injEq, Prod.mk.injEq] at h
      obtain ⟨t, ht⟩ := List.isPrefixOf_iff_prefix.1 hp
      rw [← ht, List.drop_left] at h
      obtain ⟨rfl, rfl⟩ := h
      rw [← ht, replaceAll_append new t hk, List.nil_append]
    · rw [if_neg hp, Option.map_eq_some_iff] at h
      obtain ⟨⟨before', after'⟩, hr, he⟩ := h
      simp only [Prod.mk.injEq] at he
      obtain ⟨rfl, rfl⟩ := he
      rw [List.isPrefixOf_iff_prefix] at hp
      rw [replaceAll_cons new hp, ih hr]
      simp

/-- **An exchange loses the characters of the key**, as often as it is found, and puts those of the
new text there. -/
theorem exists_count_replaceAll {key : List Char} (new text : List Char) (hk : key ≠ []) :
    ∃ times, (key <:+: text → 0 < times) ∧ ∀ c, text.count c + times * new.count c =
      (replaceAll key new text).count c + times * key.count c := by
  cases hsplit : splitAt? key text with
  | none =>
    have habsent := splitAt?_eq_none_iff.1 hsplit
    refine ⟨0, fun h => absurd h habsent, fun c => ?_⟩
    rw [Nat.zero_mul, Nat.zero_mul, replaceAll_of_not_infix new habsent]
  | some parts =>
    obtain ⟨before, after⟩ := parts
    have hlength : after.length < text.length := by
      have := List.length_pos_of_ne_nil hk
      rw [eq_of_splitAt? hsplit, List.length_append, List.length_append]
      omega
    obtain ⟨times, -, htimes⟩ := exists_count_replaceAll new after hk
    refine ⟨times + 1, fun _ => Nat.succ_pos _, fun c => ?_⟩
    have := htimes c
    rw [replaceAll_of_splitAt? new hk hsplit, eq_of_splitAt? hsplit]
    simp only [List.count_append, Nat.add_mul, Nat.one_mul]
    omega
termination_by text.length

section
variable {key new : List Char} {c : Char} (hk : key ≠ []) (hnew : c ∉ new)
include hk hnew

theorem count_replaceAll_le (text : List Char) :
    (replaceAll key new text).count c ≤ text.count c := by
  obtain ⟨times, -, htimes⟩ := exists_count_replaceAll new text hk
  have hcount := htimes c
  rw [List.count_eq_zero_of_not_mem hnew] at hcount
  omega

theorem count_replaceAll_lt {text : List Char} (hkey : c ∈ key) (h : key <:+: text) :
    (replaceAll key new text).count c < text.count c := by
  obtain ⟨times, hfound, htimes⟩ := exists_count_replaceAll new text hk
  have hcount := htimes c
  have hpos := Nat.mul_pos (hfound h) (List.count_pos_iff.2 hkey)
  rw [List.count_eq_zero_of_not_mem hnew] at hcount
  omega

theorem count_replaceAll_of_notMem (text : List Char) (hkey : c ∉ key) :
    (replaceAll key new text).count c = text.count c := by
  obtain ⟨times, -, htimes⟩ := exists_count_replaceAll new text hk
  have hcount := htimes c
  rw [List.count_eq_zero_of_not_mem hnew, List.count_eq_zero_of_not_mem hkey] at hcount
  omega

end

/-- A key that stands as one of the pieces is found there if it does not begin before. -/
theorem splitAt?_joinWords {key : List Char} {before : List (List Char)}
    (after : List (List Char)) (hk : key ≠ [])
    (h : ¬ key <:+: joinWords (before ++ [key.dropLast])) :
    splitAt? key (joinWords (before ++ key :: after)) =
      some (joinWords (before ++ [[]]), joinWords ([] :: after)) := by
  rw [joinWords_around] at h ⊢
  exact splitAt?_of_not_infix _ hk (by simpa using h)

/-- **Exchanging a key that is one of the pieces**, and stands nowhere else. -/
theorem replaceAll_joinWords {key : List Char} (new : List Char) {before after : List (List Char)}
    (hk : key ≠ []) (hb : ¬ key <:+: joinWords (before ++ [key.dropLast]))
    (ha : ¬ key <:+: joinWords ([] :: after)) :
    replaceAll key new (joinWords (before ++ key :: after)) =
      joinWords (before ++ new :: after) := by
  rw [replaceAll_of_splitAt? new hk (splitAt?_joinWords after hk hb),
    replaceAll_of_not_infix new ha, joinWords_around before new after]

end SchemaPhrase.Text
