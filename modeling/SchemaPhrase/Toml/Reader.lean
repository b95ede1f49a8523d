import SchemaPhrase.Toml.Lexeme
import SchemaPhrase.Toml.Table

/-!
# Reading a settings file

`Toml.parse?` reads a text of statements, one a line: headers, and keys with their values. Headers
of lists of tables are refused, since no setting is such a list.
-/

set_option autoImplicit false

namespace SchemaPhrase.Toml

mutual

/-- The value in front of a text. Each step spends `fuel`; twice the length of the text is always
enough. -/
def readValue? : Nat → List Char → Option (Value × List Char)
  | 0, _ => none
  | _ + 1, [] => none
  | fuel + 1, c :: rest =>
    if c = '\x22' then
      (scanString? c true rest).map fun (content, rest) => (.string (String.ofList content), rest)
    else if c = apostrophe then
      (scanString? c false rest).map fun (content, rest) => (.string (String.ofList content), rest)
    else if c = '[' then
      (readItems? fuel rest).map fun (items, rest) => (.array items, rest)
    else if c = '\x7b' then
      (readEntries? fuel [] rest).map fun (entries, rest) => (.table .inline entries, rest)
    else (skipScalar? (c :: rest)).map fun rest => (.scalar, rest)

/-- The items of a list through the closing bracket. -/
def readItems? : Nat → List Char → Option (List Value × List Char)
  | 0, _ => none
  | fuel + 1, text =>
    match skipGaps text.length text with
    | ']' :: rest => some ([], rest)
    | text => do
      let (item, rest) ← readValue? fuel text
      match skipGaps rest.length rest with
      | ',' :: rest =>
        let (items, rest) ← readItems? fuel rest
        return (item :: items, rest)
      | ']' :: rest => return ([item], rest)
      | _ => none

/-- The entries of an inline table through the closing brace, after those in `table`. -/
def readEntries? : Nat → Table → List Char → Option (Table × List Char)
  | 0, _, _ => none
  | fuel + 1, table, text =>
    match skipGaps text.length text with
    | '\x7d' :: rest => some (table, rest)
    | text => do
      let (key, rest) ← scanKey? (text.length + 1) text
      let (value, rest) ← readValue? fuel (skipSpaces (← scanMark? '=' rest))
      let table ← table.put? key value
      match skipGaps rest.length rest with
      | ',' :: rest => readEntries? fuel table rest
      | '\x7d' :: rest => return (table, rest)
      | _ => none

end

/-- The whole table after the statements of a text, which follow a header. -/
def readStatements? : Nat → List String → Table → List Char → Option Table
  | 0, _, _, _ => none
  | fuel + 1, header, table, text =>
    match skipGaps text.length text with
    | [] => some table
    | '#' :: rest => if (skipComment ('#' :: rest)).isEmpty then some table else none
    | '[' :: rest => do
      let (header, rest) ← scanKey? (rest.length + 1) rest
      let rest ← endStatement? (← scanMark? ']' rest)
      readStatements? fuel header (← table.head? header) rest
    | text => do
      let (key, rest) ← scanKey? (text.length + 1) text
      let (value, rest) ← readValue? (2 * rest.length + 2) (skipSpaces (← scanMark? '=' rest))
      readStatements? fuel header (← table.putUnder? header key value) (← endStatement? rest)

/-- A mark at the start of a file that is not part of its text. -/
def byteOrderMark : Char := '\uFEFF'

/-- The table that a text describes. -/
def parse? (text : String) : Option Table :=
  let text := if text.toList.head? = some byteOrderMark then text.toList.drop 1 else text.toList
  readStatements? (text.length + 1) [] [] text

end SchemaPhrase.Toml
