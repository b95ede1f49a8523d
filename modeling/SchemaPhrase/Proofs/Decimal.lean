import SchemaPhrase.Decimal.Integer

/-!
# Integers written and read back

The text of an integer is read as that integer (`readInt?_intText`), and that of a 64-bit one as
that one (`readInt64?_int64Text`). Digits have no sign in front, so the reader does not take the
first of them for one.
-/

set_option autoImplicit false

namespace SchemaPhrase.Decimal

theorem isDigit_of_mem_natText {n : Nat} {c : Char} (h : c ∈ natText n) : c.isDigit = true :=
  Nat.isDigit_of_mem_toDigits (by decide) (by decide) h

theorem natText_ne_nil (n : Nat) : natText n ≠ [] :=
  Nat.toDigits_ne_nil

theorem readNat?_natText (n : Nat) : readNat? (natText n) = some n := by
  have hdigits : (natText n).all Char.isDigit = true := by
    rw [List.all_eq_true]
    intro c hc
    exact isDigit_of_mem_natText hc
  rw [readNat?, if_pos ⟨natText_ne_nil n, hdigits⟩, natText, Nat.ofDigitChars_toDigits]
  all_goals decide

/-- Without a sign in front a text is read as its digits. -/
theorem readInt?_of_unsigned {digits : List Char} (hminus : '-' ∉ digits) (hplus : '+' ∉ digits) :
    readInt? digits = (readNat? digits).map Int.ofNat := by
  unfold readInt?
  split
  · exact absurd List.mem_cons_self hminus
  · exact absurd List.mem_cons_self hplus
  · rfl

theorem readInt?_natText (n : Nat) : readInt? (natText n) = some (n : Int) := by
  have hsign : ∀ c, c.isDigit = false → c ∉ natText n := by
    intro c hc hmem
    rw [isDigit_of_mem_natText hmem] at hc
    cases hc
  rw [readInt?_of_unsigned (hsign _ rfl) (hsign _ rfl), readNat?_natText]
  rfl

theorem readInt?_intText (n : Int) : readInt? (intText n) = some n := by
  by_cases hneg : n < 0
  · rw [intText, if_pos hneg]
    rw [readInt?, readNat?_natText]
    show some (-(n.natAbs : Int)) = some n
    congr 1
    omega
  · rw [intText, if_neg hneg, readInt?_natText]
    congr 1
    omega

theorem toInt64?_toInt (value : Int64) : toInt64? value.toInt = some value := by
  rw [toInt64?, if_pos ⟨value.minValue_le_toInt, value.toInt_le⟩, Int64.ofInt_toInt]

/-- **A 64-bit integer is read back from its text.** -/
theorem readInt64?_int64Text (value : Int64) : readInt64? (int64Text value).toList = some value := by
  rw [int64Text, String.toList_ofList, readInt64?, readInt?_intText, Option.bind_some,
    toInt64?_toInt]

end SchemaPhrase.Decimal
