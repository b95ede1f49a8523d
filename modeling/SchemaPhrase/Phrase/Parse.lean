import SchemaPhrase.Column.Error
import SchemaPhrase.Event
import SchemaPhrase.Keyword
import SchemaPhrase.Nullability
import SchemaPhrase.Phrase.CheckClause

/-!
# Column-definition phrases

A phrase holds a data type and, in any order, modifiers: `unique`, `null` or `not null`,
`primary key`, `check(...)` and `default ...`. The modifiers are taken out one after another by
searching for their keywords (`takeModifiers`, `takeCheck?`, `takeDefault`), and what is left is
the phrase of the data type. `parsePhrase` runs these steps and tells the outcome as an event.
-/

set_option autoImplicit false

namespace SchemaPhrase

open Text

/-- What a phrase says about a column. -/
structure ParsedPhrase where
  dtype : String
  nullability : Nullability
  nullable : Bool
  unique : Bool
  pk : Bool
  default : Option String
  check : Option String
  deriving DecidableEq, Repr

namespace Phrase

/-- The default of a serial column. -/
def serialDefault : String := "nextval('tablename_colname_seq')"

/-- The modifiers that are single keywords, and the text without them. -/
structure Modifiers where
  rest : List Char
  nullability : Nullability
  unique : Bool
  pk : Bool
  serial : Bool

/-- Takes out the nullability markers, `unique` and `primary key`, and makes `serial` an
integer. -/
def takeModifiers (phrase : List Char) : Modifiers :=
  let marked := splitNullability phrase
  let unique := extractKeyword "unique".toList [] marked.1
  let pk := extractKeyword "primary key".toList [] unique.rest
  let serial := extractKeyword "serial".toList "integer".toList pk.rest
  { rest := serial.rest, nullability := marked.2, unique := unique.found, pk := pk.found,
    serial := serial.found }

/-- Takes out the check clause, wherever its text stands; none if `check` occurs and opens no
clause. -/
def takeCheck? (text : List Char) : Option (List Char × Option (List Char)) :=
  if occurs checkKey text then
    (findCheck? text).map fun clause => ((extractKeyword clause [] text).rest, some clause)
  else some (text, none)

/-- Cuts off the default: all that follows the first `default`. -/
def takeDefault (text : List Char) : List Char × Option (List Char) :=
  match splitAt? "default".toList text with
  | some (dtype, value) => (trim dtype, some (trim value))
  | none => (text, none)

/-- The outcome of the modifiers, the check clause and the text left behind them. A default, a
serial type and a primary key each make the column non-null; otherwise the marker decides. -/
def assemble (modifiers : Modifiers) (check : Option (List Char)) (text : List Char) :
    ParsedPhrase :=
  let split := takeDefault text
  let serial := if modifiers.serial then some serialDefault else none
  let default := (split.2.map String.ofList).or serial
  { dtype := String.ofList split.1
    nullability := modifiers.nullability
    nullable := default.isNone && !modifiers.pk && modifiers.nullability.isNullable
    unique := modifiers.unique
    pk := modifiers.pk
    default
    check := check.map String.ofList }

/-- Takes a phrase apart; none if its check clause is malformed. -/
def takeApart? (phrase : List Char) : Option ParsedPhrase :=
  let modifiers := takeModifiers phrase
  (takeCheck? modifiers.rest).map fun (rest, check) => assemble modifiers check rest

end Phrase

/-- Takes a phrase apart and tells what is left for the data type. -/
def parsePhrase (phrase : String) : Traced ColumnError ParsedPhrase :=
  match Phrase.takeApart? phrase.toList with
  | none => .fail (.malformedCheckClause phrase)
  | some parsed => do
    .emit (.phrase phrase parsed.dtype)
    return parsed

/-- The fields of a parsed phrase in the order of their declaration. -/
def ParsedPhrase.document (parsed : ParsedPhrase) : Json :=
  .object [("dtype", .string parsed.dtype), ("nullability", .string parsed.nullability.text),
    ("nullable", .bool parsed.nullable), ("unique", .bool parsed.unique), ("pk", .bool parsed.pk),
    ("default", .ofOption .string parsed.default), ("check", .ofOption .string parsed.check)]

end SchemaPhrase
