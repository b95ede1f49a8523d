import SchemaPhrase.Json.Basic

/-!
# The words of a document

Blanks, numbers and quoted strings, as the strict notation has them. Each scanner takes the text in
front of which the word stands and gives its value and the text behind it.
-/

set_option autoImplicit false

namespace SchemaPhrase.Json

/-- The characters that may stand between words. -/
def isSpacing (c : Char) : Bool :=
  c = ' ' || c = '\t' || c = '\n' || c = '\r'

/-- The text without the spacing in front. -/
def skipSpacing (text : List Char) : List Char :=
  text.dropWhile isSpacing

/-- The text behind a word that stands in front. -/
def after? (word text : List Char) : Option (List Char) :=
  if word.isPrefixOf text then some (text.drop word.length) else none

/-! ## Numbers -/

/-- At least one digit, and the text behind the digits. -/
def scanDigits? (text : List Char) : Option (List Char × List Char) :=
  if (text.takeWhile Char.isDigit).isEmpty then none
  else some (text.takeWhile Char.isDigit, text.dropWhile Char.isDigit)

/-- The whole part of a number: digits without a needless zero in front. -/
def scanWhole? (text : List Char) : Option (List Char × List Char) :=
  (scanDigits? text).filter fun scanned => scanned.1.length = 1 || scanned.1.head? != some '0'

/-- The digits behind a point, none if there is no point. -/
def scanFraction? : List Char → Option (List Char × List Char)
  | '.' :: rest => scanDigits? rest
  | text => some ([], text)

/-- The exponent behind its mark, none if there is no mark. -/
def scanExponent? (text : List Char) : Option (Option Int × List Char) :=
  match text with
  | [] => some (none, [])
  | c :: rest =>
    if c = 'e' || c = 'E' then
      match rest with
      | '-' :: digits => (scanDigits? digits).map fun (ds, rest) =>
        (some (-(Nat.ofDigitChars 10 ds 0 : Int)), rest)
      | '+' :: digits => (scanDigits? digits).map fun (ds, rest) =>
        (some (Nat.ofDigitChars 10 ds 0 : Int), rest)
      | digits => (scanDigits? digits).map fun (ds, rest) =>
        (some (Nat.ofDigitChars 10 ds 0 : Int), rest)
    else some (none, text)

/-- A number without its sign. -/
def scanUnsigned? (negative : Bool) (text : List Char) : Option (Literal × List Char) := do
  let (whole, rest) ← scanWhole? text
  let (fraction, rest) ← scanFraction? rest
  let (exponent, rest) ← scanExponent? rest
  return (⟨negative, whole, fraction, exponent⟩, rest)

/-- A number. -/
def scanLiteral? : List Char → Option (Literal × List Char)
  | '-' :: rest => scanUnsigned? true rest
  | text => scanUnsigned? false text

/-! ## Strings -/

/-- The value of a hexadecimal digit. -/
def hexValue? (c : Char) : Option Nat :=
  if '0' ≤ c ∧ c ≤ '9' then some (c.toNat - '0'.toNat)
  else if 'a' ≤ c ∧ c ≤ 'f' then some (c.toNat - 'a'.toNat + 10)
  else if 'A' ≤ c ∧ c ≤ 'F' then some (c.toNat - 'A'.toNat + 10)
  else none

/-- The value of hexadecimal digits. -/
def hexValues? (digits : List Char) : Option Nat :=
  digits.foldlM (fun value c => (hexValue? c).map (16 * value + ·)) 0

/-- The character that a backslash and a letter stand for. -/
def escaped? (c : Char) : Option Char :=
  if c = '\x22' || c = '\\' || c = '/' then some c
  else if c = 'b' then some '\x08'
  else if c = 'f' then some '\x0c'
  else if c = 'n' then some '\n'
  else if c = 'r' then some '\r'
  else if c = 't' then some '\t'
  else none

/-- The code units of a string behind its opening quote, through the closing one. A character that
is not escaped is one unit, and so is each numeric escape. -/
def scanUnits? : List Char → Option (List Nat × List Char)
  | [] => none
  | c :: rest =>
    if c = '\x22' then some ([], rest)
    else if c.toNat < 32 then none
    else if c = '\\' then
      match rest with
      | [] => none
      | 'u' :: a :: b :: c :: d :: rest => do
        let unit ← hexValues? [a, b, c, d]
        let (units, rest) ← scanUnits? rest
        return (unit :: units, rest)
      | c :: rest => do
        let unit ← escaped? c
        let (units, rest) ← scanUnits? rest
        return (unit.toNat :: units, rest)
    else (scanUnits? rest).map fun (units, rest) => (c.toNat :: units, rest)

/-- A unit that needs a second one behind it. -/
def isHighSurrogate (unit : Nat) : Bool :=
  0xD800 ≤ unit && unit < 0xDC00

/-- A unit that needs a first one in front of it. -/
def isLowSurrogate (unit : Nat) : Bool :=
  0xDC00 ≤ unit && unit < 0xE000

/-- The characters that code units stand for; none if a surrogate has no partner. -/
def pairUnits? : List Nat → Option (List Char)
  | [] => some []
  | unit :: rest =>
    if isHighSurrogate unit then
      match rest with
      | low :: rest =>
        if isLowSurrogate low then
          (pairUnits? rest).map
            (Char.ofNat (0x10000 + (unit - 0xD800) * 0x400 + (low - 0xDC00)) :: ·)
        else none
      | [] => none
    else if isLowSurrogate unit then none
    else (pairUnits? rest).map (Char.ofNat unit :: ·)

/-- A string behind its opening quote. -/
def scanString? (text : List Char) : Option (String × List Char) := do
  let (units, rest) ← scanUnits? text
  return (String.ofList (← pairUnits? units), rest)

end SchemaPhrase.Json
