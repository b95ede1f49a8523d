import SchemaPhrase.Text.Blank
import SchemaPhrase.Text.Digit
import SchemaPhrase.Text.WordChar
import SchemaPhrase.Decimal.Integer
import SchemaPhrase.Json.Basic

/-!
# Type phrases

A type phrase is a name, optionally followed by one or two arguments in parentheses, such as
`numeric( 19, 2 )`. The name is the first maximal run of word characters; the arguments count only
if they stand right behind it (`arguments?`), and what follows them never matters. Arguments are
kept as the digits that were written.
-/

set_option autoImplicit false

namespace SchemaPhrase

open Text

/-- The parts of a type phrase. -/
structure TypePhrase where
  name : String
  maxLength : Option String
  precision : Option String
  scale : Option String
  deriving DecidableEq, Repr

namespace TypePhrase

/-- The name of a type whose arguments are precision and scale. -/
def isExactNumeric (name : String) : Bool :=
  name == "numeric" || name == "decimal"

/-- The name of a type whose argument is a precision. -/
def isTemporal (name : String) : Bool :=
  name == "timestamp" || name == "time"

/-- The text behind at most one blank. -/
def dropBlank : List Char → List Char
  | [] => []
  | c :: rest => if isBlank c then rest else c :: rest

/-- The maximal run of decimal digits in front, which is not empty, and the text behind it. -/
def digits? (text : List Char) : Option (List Char × List Char) :=
  if (text.takeWhile isDecimal).isEmpty then none
  else some (text.takeWhile isDecimal, text.dropWhile isDecimal)

/-- Whether the text goes on with at most one blank and the closing parenthesis. -/
def closes (text : List Char) : Bool :=
  (dropBlank text).head? == some ')'

/-- The second argument, if a comma and digits are there, and the text behind it. -/
def second? : List Char → Option (List Char × List Char)
  | ',' :: rest => digits? (dropBlank rest)
  | _ => none

/-- The arguments in front of a text: the first, and the second if there is one. -/
def arguments? (text : List Char) : Option (List Char × Option (List Char)) :=
  match dropBlank text with
  | '(' :: rest =>
    match digits? (dropBlank rest) with
    | none => none
    | some (first, rest) =>
      match second? rest with
      | some (second, rest) => if closes rest then some (first, some second) else none
      | none => if closes rest then some (first, none) else none
  | _ => none

/-- The parts for a name and its arguments. -/
def ofParts (name : String) (first second : Option String) : TypePhrase :=
  if isExactNumeric name then ⟨name, none, first, second⟩
  else if isTemporal name then ⟨name, none, first, none⟩
  else ⟨name, first, none, none⟩

/-- Decomposes a phrase. One without any word is its own name. -/
def ofPhrase (phrase : List Char) : TypePhrase :=
  let start := phrase.dropWhile (!isWordChar ·)
  if start.isEmpty then ⟨String.ofList phrase, none, none, none⟩
  else
    let name := String.ofList (start.takeWhile isWordChar)
    match arguments? (start.dropWhile isWordChar) with
    | none => ofParts name none none
    | some (first, second) =>
      ofParts name (some (String.ofList first)) (second.map String.ofList)

/-- Whether the phrase has arguments. -/
def hasArguments (phrase : TypePhrase) : Bool :=
  phrase.maxLength.isSome || phrase.precision.isSome

/-- An argument as a document: a number if it is one of 64 bits, else its digits. -/
def argumentJson (digits : String) : Json :=
  match Decimal.readInt64? digits.toList with
  | some value => .int value
  | none => .string digits

/-- The mapping of a type phrase. An exact numeric with one argument has scale `-1`. -/
def toMapping (phrase : TypePhrase) : Mapping :=
  let length := phrase.maxLength.toList.map fun digits => ("max_length", argumentJson digits)
  let precision := phrase.precision.toList.map fun digits => ("precision", argumentJson digits)
  let scale :=
    if phrase.precision.isSome && isExactNumeric phrase.name then
      [("scale", (phrase.scale.map argumentJson).getD (.int (-1)))]
    else []
  .ofFields (("type", .string phrase.name) :: length ++ precision ++ scale)

end TypePhrase

end SchemaPhrase
