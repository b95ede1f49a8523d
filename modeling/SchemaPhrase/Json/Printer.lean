import SchemaPhrase.Json.Basic

/-!
# Writing documents

`Json.write` gives a document on one line or with one item a line, indented by two spaces for each
level. Fields are written in the order in which they stand.
-/

set_option autoImplicit false

namespace SchemaPhrase

namespace Json

/-- How a document is laid out. -/
inductive Layout where
  /-- On one line, without spaces. -/
  | compact
  /-- One item a line. -/
  | indented
  deriving DecidableEq, Repr

/-- The break before an item at `level`. -/
def Layout.lineBreak (level : Nat) : Layout → String
  | compact => ""
  | indented => "\n" ++ String.ofList (List.replicate (2 * level) ' ')

/-- What stands between a key and its value. -/
def Layout.colon : Layout → String
  | compact => ":"
  | indented => ": "

/-- A hexadecimal digit in lower case. -/
def hexDigit (n : Nat) : Char :=
  Nat.digitChar (n % 16)

/-- A character inside a quoted string: quotes, backslashes and control characters are escaped. -/
def escapeChar (c : Char) : List Char :=
  if c = '\x22' then ['\\', '\x22']
  else if c = '\\' then ['\\', '\\']
  else if c = '\n' then ['\\', 'n']
  else if c = '\r' then ['\\', 'r']
  else if c = '\t' then ['\\', 't']
  else if c = '\x08' then ['\\', 'b']
  else if c = '\x0c' then ['\\', 'f']
  else if c.toNat < 32 then ['\\', 'u', '0', '0', hexDigit (c.toNat / 16), hexDigit c.toNat]
  else [c]

/-- A string in quotes. -/
def quoted (text : String) : String :=
  String.ofList ('\x22' :: text.toList.flatMap escapeChar ++ ['\x22'])

mutual

/-- The text of a document whose items stand at `level`. -/
def writeAt (layout : Layout) (level : Nat) : Json → String
  | null => "null"
  | bool value => if value then "true" else "false"
  | number value => String.ofList value.text
  | string value => quoted value
  | array [] => "[]"
  | array (item :: items) =>
    "[" ++ layout.lineBreak level ++ writeAt layout (level + 1) item ++
      writeItems layout level items ++ layout.lineBreak (level - 1) ++ "]"
  | object [] => "\x7b\x7d"
  | object ((key, value) :: fields) =>
    "\x7b" ++ layout.lineBreak level ++ quoted key ++ layout.colon ++
      writeAt layout (level + 1) value ++ writeFields layout level fields ++
      layout.lineBreak (level - 1) ++ "\x7d"

/-- The items after the first. -/
def writeItems (layout : Layout) (level : Nat) : List Json → String
  | [] => ""
  | item :: items =>
    "," ++ layout.lineBreak level ++ writeAt layout (level + 1) item ++
      writeItems layout level items

/-- The fields after the first. -/
def writeFields (layout : Layout) (level : Nat) : List (String × Json) → String
  | [] => ""
  | (key, value) :: fields =>
    "," ++ layout.lineBreak level ++ quoted key ++ layout.colon ++
      writeAt layout (level + 1) value ++ writeFields layout level fields

end

/-- The text of a document. -/
def write (layout : Layout) (document : Json) : String :=
  writeAt layout 1 document

end Json

end SchemaPhrase
