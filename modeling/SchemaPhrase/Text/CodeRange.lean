/-!
# Ranges of code points

A character class is a list of inclusive ranges of code points, `CodeRange`s, and a character is
in the class when some range holds it (`inTable`). The tables that use it are one module each,
named for the property they list.
-/

set_option autoImplicit false

namespace SchemaPhrase.Text

/-- The code points from the first number through the second. -/
abbrev CodeRange := Nat × Nat

/-- Whether the code point `n` lies in the range. -/
def CodeRange.holds (range : CodeRange) (n : Nat) : Bool :=
  range.1 ≤ n && n ≤ range.2

/-- Whether one of the ranges of `table` holds the character. -/
def inTable (table : List CodeRange) (c : Char) : Bool :=
  table.any (CodeRange.holds · c.toNat)

theorem CodeRange.holds_iff {range : CodeRange} {n : Nat} :
    range.holds n = true ↔ range.1 ≤ n ∧ n ≤ range.2 := by
  simp [CodeRange.holds]

theorem inTable_iff {table : List CodeRange} {c : Char} :
    inTable table c = true ↔ ∃ range ∈ table, range.1 ≤ c.toNat ∧ c.toNat ≤ range.2 := by
  simp [inTable, CodeRange.holds_iff]

theorem inTable_eq_false_iff {table : List CodeRange} {c : Char} :
    inTable table c = false ↔ ∀ range ∈ table, c.toNat < range.1 ∨ range.2 < c.toNat := by
  rw [Bool.eq_false_iff, ne_eq, inTable_iff]
  constructor
  · intro h range hr
    exact Decidable.byContradiction fun hin => h ⟨range, hr, by omega⟩
  · rintro h ⟨range, hr, hlow, hhigh⟩
    have := h range hr
    omega

end SchemaPhrase.Text
