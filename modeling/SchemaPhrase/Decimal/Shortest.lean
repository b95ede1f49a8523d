import SchemaPhrase.Decimal.Integer

/-!
# The shortest decimal of a binary number

A binary number stands for every real that rounds to it. `shortest` finds the decimal with the
fewest digits among those, and of two such the nearer one. It tries the powers of ten from the
largest down; the first whose multiples meet the interval has the fewest digits. All of it is
arithmetic on natural numbers.
-/

set_option autoImplicit false

namespace SchemaPhrase.Decimal

/-- The positive number `mantissa * 2 ^ exponent`; `narrow` when the number below it is only half
as far away as the one above. -/
structure Binary where
  mantissa : Nat
  exponent : Int
  narrow : Bool

/-- The number `digits * 10 ^ exponent`. -/
structure Scaled where
  digits : Nat
  exponent : Int

namespace Binary

/-- The bit in front of the fraction, which the bits of a number leave out. -/
def hiddenBit : Nat := 0x10000000000000

/-- The size of a number by its bits, the sign aside; infinities and not-a-numbers have none. -/
def ofBits? (bits : UInt64) : Option Binary :=
  let field := bits.toNat / hiddenBit % 2048
  let fraction := bits.toNat % hiddenBit
  if field = 2047 then none
  else if field = 0 then some ⟨fraction, -1074, false⟩
  else some ⟨hiddenBit + fraction, (field : Int) - 1075, fraction = 0 && 1 < field⟩

/-- `x` quarters of the last place, in the unit in which `gridStep` measures `10 ^ k`. -/
def quarters (b : Binary) (k : Int) (x : Nat) : Nat :=
  x * Nat.pow 2 b.exponent.toNat * Nat.pow 10 (-k).toNat

/-- The distance of neighbouring multiples of `10 ^ k`, in the unit of `quarters`. -/
def gridStep (b : Binary) (k : Int) : Nat :=
  4 * Nat.pow 10 k.toNat * Nat.pow 2 (-b.exponent).toNat

/-- Whether `d * 10 ^ k` rounds to the number; the ends of the interval do so for an even
mantissa. -/
def roundsTo (b : Binary) (k : Int) (d : Nat) : Bool :=
  let low := b.quarters k (4 * b.mantissa - if b.narrow then 1 else 2)
  let high := b.quarters k (4 * b.mantissa + 2)
  let point := d * b.gridStep k
  if b.mantissa % 2 = 0 then low ≤ point && point ≤ high else low < point && point < high

/-- The multiple of `10 ^ k` nearest to the number among those that round to it. -/
def onGrid? (b : Binary) (k : Int) : Option Scaled :=
  let value := b.quarters k (4 * b.mantissa)
  let below := value / b.gridStep k
  let above := below + 1
  match b.roundsTo k below, b.roundsTo k above with
  | false, false => none
  | true, false => some ⟨below, k⟩
  | false, true => some ⟨above, k⟩
  | true, true =>
    let down := value - below * b.gridStep k
    let up := above * b.gridStep k - value
    if down < up || (down = up && below % 2 = 0) then some ⟨below, k⟩ else some ⟨above, k⟩

/-- The decimal with the fewest digits that rounds to the number. The grids range over the powers
of ten that 64-bit numbers reach. -/
def shortest (b : Binary) : Scaled :=
  if b.mantissa = 0 then ⟨0, 0⟩
  else
    ((List.range 640).findSome? fun (i : Nat) => b.onGrid? (309 - (i : Int))).getD ⟨b.mantissa, 0⟩

end Binary

end SchemaPhrase.Decimal
