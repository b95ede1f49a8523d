import SchemaPhrase.Json.Decode
import SchemaPhrase.Json.Shape
import SchemaPhrase.Text.Lowercase
import SchemaPhrase.Text.Words
import SchemaPhrase.Text.Search

/-!
# Nullability markers

A phrase may say `null` or `not null`. `splitNullability` takes the markers out; where both stand,
the bare `null` decides.
-/

set_option autoImplicit false

namespace SchemaPhrase

open Text

/-- The marker of a phrase; a phrase without one counts as `null`. -/
inductive Nullability where
  | null
  | notNull
  deriving DecidableEq, Repr

namespace Nullability

/-- The marker as a phrase writes it. -/
def text : Nullability → String
  | null => "null"
  | notNull => "not null"

def ofText? : String → Option Nullability
  | "null" => some null
  | "not null" => some notNull
  | _ => none

def ofJson? (document : Json) : Option Nullability :=
  document.choice?.bind ofText?

/-- What a text of a marker holds. -/
def shape : Json.Shape :=
  .choice [null.text, notNull.text]

/-- Whether a column with this marker admits null. -/
def isNullable : Nullability → Bool
  | null => true
  | notNull => false

/-- Takes this marker out of a text if it is there, and then records it. -/
def take (marker : Nullability) (state : List Char × Nullability) : List Char × Nullability :=
  if occurs marker.text.toList state.1 then (replaceAll marker.text.toList [] state.1, marker)
  else state

end Nullability

/-- The phrase in lower case outside literals, without its markers and collapsed, and the marker
that holds. -/
def splitNullability (phrase : List Char) : List Char × Nullability :=
  let state := Nullability.null.take <| Nullability.notNull.take (lowercaseUnquoted phrase, .null)
  (collapse state.1, state.2)

end SchemaPhrase
