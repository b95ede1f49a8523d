import SchemaPhrase.Json.Basic

/-!
# Simple values in documents

The readers that the typed forms share: lists of strings, optional strings and the name of a
choice.
-/

set_option autoImplicit false

namespace SchemaPhrase.Json

/-- A list of strings. -/
def strings? : Json → Option (List String)
  | array items => items.mapM fun
    | string text => some text
    | _ => none
  | _ => none

/-- A list of strings as a document. -/
def ofStrings (texts : List String) : Json :=
  array (texts.map string)

/-- A string or null. -/
def optionalString? : Json → Option (Option String)
  | null => some none
  | string text => some (some text)
  | _ => none

/-- The name that a document gives to one of several choices: a string, or the only key of a
mapping whose value is null. -/
def choice? : Json → Option String
  | string name => some name
  | object [(name, null)] => some name
  | _ => none

end SchemaPhrase.Json
