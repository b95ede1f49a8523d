/-!
# Integers in decimal

Integers are written with ASCII digits and a leading `-` when negative (`intText`). They are read
with an optional sign and at least one digit (`readInt?`), and as 64-bit integers only within
their range (`readInt64?`).
-/

set_option autoImplicit false

namespace SchemaPhrase.Decimal

/-- The digits of a natural number. -/
def natText (n : Nat) : List Char :=
  Nat.toDigits 10 n

/-- The decimal text of an integer. -/
def intText (n : Int) : List Char :=
  if n < 0 then '-' :: natText n.natAbs else natText n.natAbs

/-- The decimal text of a 64-bit integer. -/
def int64Text (n : Int64) : String :=
  String.ofList (intText n.toInt)

/-- The number that a text of digits writes, leading zeros included. -/
def readNat? (digits : List Char) : Option Nat :=
  if digits ≠ [] ∧ digits.all Char.isDigit then some (Nat.ofDigitChars 10 digits 0) else none

/-- The integer that a text writes: a sign or none, then digits. -/
def readInt? : List Char → Option Int
  | '-' :: digits => (readNat? digits).map fun n => -(n : Int)
  | '+' :: digits => (readNat? digits).map Int.ofNat
  | digits => (readNat? digits).map Int.ofNat

/-- An integer as a 64-bit one, if it is in range. -/
def toInt64? (n : Int) : Option Int64 :=
  if Int64.minValue.toInt ≤ n ∧ n ≤ Int64.maxValue.toInt then some (Int64.ofInt n) else none

/-- The 64-bit integer that a text writes. -/
def readInt64? (text : List Char) : Option Int64 :=
  (readInt? text).bind toInt64?

end SchemaPhrase.Decimal
