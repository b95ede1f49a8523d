import SchemaPhrase.DataType.Mapping
import SchemaPhrase.TypePhrase
import SchemaPhrase.Text.Lowercase
import SchemaPhrase.Text.Search

/-!
# Data types from phrases

A type phrase is read in lower case, through the mapping of its parts, so that a phrase and a
mapping with the same arguments give the same type. Phrases introduce no tags: a name that is not
known gives the generic type.
-/

set_option autoImplicit false

namespace SchemaPhrase.DataType

open Text

/-- What follows a timestamp that has a time zone. -/
def timezoneText : List Char := "with time zone".toList

/-- The mapping of a phrase in lower case. -/
def phraseMapping (lowered : List Char) : Mapping :=
  let parts := TypePhrase.ofPhrase lowered
  if parts.name = "timestamp" ∧ occurs timezoneText lowered then
    parts.toMapping.insert TypeField.timezone.key (.bool true)
  else parts.toMapping

/-- The type that a phrase names. -/
def parse (phrase : String) : Except DataTypeError DataType :=
  resolve (fun _ => generic) (phraseMapping (lowerText phrase.toList))

/-- The type that a document describes, by a phrase or by a mapping. -/
def ofJson : Json → Except DataTypeError DataType
  | .string phrase => parse phrase
  | .object fields => ofMapping fields
  | other => .error (.unsupportedValue other.kind)

end SchemaPhrase.DataType
