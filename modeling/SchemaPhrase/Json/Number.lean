import SchemaPhrase.Decimal.Shortest

/-!
# Numbers of a document

A number is an integer or a real. Only integer literals that fit 64 bits, signed or unsigned, are
integers; every literal with a point or an exponent, any larger one and `-0` is real.
`Literal.number?` says what a literal stands for, `Number.text` how a number is written.
-/

set_option autoImplicit false

namespace SchemaPhrase

open Decimal

inductive Number where
  | integer (value : Int)
  | real (value : Float)

namespace Number

/-- The number as a signed 64-bit integer; a real has no such form, not even `1.0`. -/
def int64? : Number → Option Int64
  | integer value => toInt64? value
  | real _ => none

/-- The text of a positive decimal of `digits` whose leading digit has weight `10 ^ lead`. From
`1e-5` up to below `1e16` it is positional and has a fraction, else it has an exponent with its
sign. -/
def decimalText (digits : List Char) (lead : Int) : List Char :=
  if -5 ≤ lead ∧ lead < 0 then
    '0' :: '.' :: List.replicate (-lead - 1).toNat '0' ++ digits
  else if 0 ≤ lead ∧ lead ≤ 15 then
    let whole := lead.toNat + 1
    let fraction := digits.drop whole
    digits.take whole ++ List.replicate (whole - digits.length) '0' ++ '.' ::
      (if fraction.isEmpty then ['0'] else fraction)
  else
    digits.take 1 ++ (if digits.length ≤ 1 then [] else '.' :: digits.drop 1) ++ 'e' ::
      (if lead < 0 then [] else ['+']) ++ intText lead

/-- The bit of a negative number, and the size of the least signed integer. -/
def signBit : Nat := 0x8000000000000000

/-- The shortest text that reads back as the real. -/
def realText (value : Float) : List Char :=
  match Binary.ofBits? value.toBits with
  | none => "null".toList
  | some binary =>
    let decimal := binary.shortest
    let digits := natText decimal.digits
    (if signBit ≤ value.toBits.toNat then ['-'] else []) ++
      decimalText digits (decimal.exponent + digits.length - 1)

/-- The number as it is written in a document. -/
def text : Number → List Char
  | integer value => intText value
  | real value => realText value

/-! ## Literals -/

/-- The largest significand that a literal can have; further digits do not enter it. -/
def maxSignificand : Nat := 0xFFFFFFFFFFFFFFFF

/-- Appends digits to a significand while it fits, and counts those appended. -/
def absorb (significand : Nat) : List Char → Nat × Nat
  | [] => (significand, 0)
  | d :: digits =>
    let next := 10 * significand + (d.toNat - '0'.toNat)
    if next ≤ maxSignificand then
      let (total, count) := absorb next digits
      (total, count + 1)
    else (significand, 0)

/-- The power of ten, for an exponent of at most 308. -/
def powerOfTen (exponent : Nat) : Float :=
  Float.ofScientific 1 false exponent

/-- `significand * 10 ^ exponent`, rounded once for the significand and once for each factor; none
when it exceeds every 64-bit real. A power of ten has no more than 308 zeros, so a smaller number
is divided twice, and past that it is zero. -/
def scale? (significand : Nat) (exponent : Int) : Option Float :=
  let base := significand.toUInt64.toFloat
  if significand = 0 then some 0.0
  else if 308 < exponent then none
  else if 0 ≤ exponent then
    let value := base * powerOfTen exponent.toNat
    if value.isInf then none else some value
  else if -308 ≤ exponent then some (base / powerOfTen (-exponent).toNat)
  else if -616 ≤ exponent then some (base / powerOfTen 308 / powerOfTen (-exponent - 308).toNat)
  else some 0.0

end Number

/-- The parts of a number literal. The whole part has no needless zero in front; the fraction is
empty when there is no point. -/
structure Literal where
  negative : Bool
  whole : List Char
  fraction : List Char
  exponent : Option Int

namespace Literal

/-- What the literal stands for; none when it is too large for a real. -/
def number? (literal : Literal) : Option Number :=
  let (whole, taken) := Number.absorb 0 literal.whole
  let dropped := literal.whole.length - taken
  if dropped = 0 && literal.fraction.isEmpty && literal.exponent.isNone
      && !(literal.negative && (whole = 0 || Number.signBit < whole)) then
    some (.integer (if literal.negative then -whole else whole))
  else
    let (significand, places) := Number.absorb whole literal.fraction
    (Number.scale? significand (dropped - places + literal.exponent.getD 0)).map fun size =>
      .real (if literal.negative then -size else size)

end Literal

end SchemaPhrase
