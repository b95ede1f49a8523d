import SchemaPhrase.Json.Lexeme

/-!
# Reading documents

`Json.readFront?` reads the document in front of a text, and `Json.parse?` a text that is one
document. The notation is strict: no comments, no trailing commas, and at most 127 containers in
each other. A document that is only passed over has to be well written too, but its numbers may be
of any size, its surrogates alone and its containers of any depth.
-/

set_option autoImplicit false

namespace SchemaPhrase.Json

/-- Whether a document is wanted or passed over. -/
inductive Care where
  | keep
  | skip
  deriving DecidableEq

/-- How many containers may stand in each other. -/
def maxDepth : Nat := 127

/-- The value of a number literal; of one that is passed over nothing is asked. -/
def Care.number? (literal : Literal) : Care → Option Json
  | keep => literal.number?.map .number
  | skip => some .null

/-- A string behind its opening quote. -/
def Care.string? (text : List Char) : Care → Option (String × List Char)
  | keep => scanString? text
  | skip => (scanUnits? text).map fun (_, rest) => ("", rest)

/-- The text behind one more container, if the depth allows it. -/
def Care.deeper? (depth : Nat) : Care → Option Nat
  | keep => if depth < maxDepth then some (depth + 1) else none
  | skip => some depth

mutual

/-- The document in front of a text, inside `depth` containers. Each step spends `fuel`; twice the
length of the text is always enough. -/
def readValue? (care : Care) : Nat → Nat → List Char → Option (Json × List Char)
  | 0, _, _ => none
  | fuel + 1, depth, text =>
    match skipSpacing text with
    | [] => none
    | '\x7b' :: rest => do
      let depth ← care.deeper? depth
      match skipSpacing rest with
      | '\x7d' :: rest => return (.object [], rest)
      | rest =>
        let (fields, rest) ← readFields? care fuel depth rest
        return (.object (Mapping.ofFields fields), rest)
    | '[' :: rest => do
      let depth ← care.deeper? depth
      match skipSpacing rest with
      | ']' :: rest => return (.array [], rest)
      | rest =>
        let (items, rest) ← readItems? care fuel depth rest
        return (.array items, rest)
    | '\x22' :: rest => (care.string? rest).map fun (text, rest) => (.string text, rest)
    | 'n' :: rest => (after? "ull".toList rest).map fun rest => (.null, rest)
    | 't' :: rest => (after? "rue".toList rest).map fun rest => (.bool true, rest)
    | 'f' :: rest => (after? "alse".toList rest).map fun rest => (.bool false, rest)
    | text => do
      let (literal, rest) ← scanLiteral? text
      return (← care.number? literal, rest)

/-- The items of a list, at least one, through the closing bracket. -/
def readItems? (care : Care) : Nat → Nat → List Char → Option (List Json × List Char)
  | 0, _, _ => none
  | fuel + 1, depth, text => do
    let (item, rest) ← readValue? care fuel depth text
    match skipSpacing rest with
    | ',' :: rest =>
      let (items, rest) ← readItems? care fuel depth rest
      return (item :: items, rest)
    | ']' :: rest => return ([item], rest)
    | _ => none

/-- The fields of an object, at least one, through the closing brace. -/
def readFields? (care : Care) : Nat → Nat → List Char → Option (List (String × Json) × List Char)
  | 0, _, _ => none
  | fuel + 1, depth, text =>
    match skipSpacing text with
    | '\x22' :: rest => do
      let (key, rest) ← care.string? rest
      match skipSpacing rest with
      | ':' :: rest =>
        let (value, rest) ← readValue? care fuel depth rest
        match skipSpacing rest with
        | ',' :: rest =>
          let (fields, rest) ← readFields? care fuel depth rest
          return ((key, value) :: fields, rest)
        | '\x7d' :: rest => return ([(key, value)], rest)
        | _ => none
      | _ => none
    | _ => none

end

/-- The document in front of a text and the text behind it. -/
def readFront? (text : List Char) : Option (Json × List Char) :=
  readValue? .keep (2 * text.length + 2) 0 text

/-- The text behind the document in front of it, whatever that document holds. -/
def skipFront? (text : List Char) : Option (List Char) :=
  (readValue? .skip (2 * text.length + 2) 0 text).map Prod.snd

/-- The document that a text is. -/
def parse? (text : String) : Option Json :=
  match readFront? text.toList with
  | some (document, rest) => if (skipSpacing rest).isEmpty then some document else none
  | none => none

end SchemaPhrase.Json
