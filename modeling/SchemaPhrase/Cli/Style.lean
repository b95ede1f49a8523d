import SchemaPhrase.Text.Search

/-!
# Terminal styles

The two styles of the command line: muted text for summaries and a label in front of errors. With
`color` they carry the escape sequences of a terminal.
-/

set_option autoImplicit false

namespace SchemaPhrase.Cli

/-- The start of every sequence. -/
def escape : String := "\x1b["

/-- The sequence that ends all styles. -/
def resetStyle : String := escape ++ "0m"

/-- The sequence of muted text. -/
def mutedStyle : String := escape ++ "90m"

/-- The sequence of the error label. -/
def errorStyle : String := escape ++ "1;31m"

/-- Muted text. Where the text itself ends all styles, the muted one starts anew. -/
def muted (color : Bool) (text : String) : String :=
  if color then
    let anew := (resetStyle ++ mutedStyle).toList
    mutedStyle ++ String.ofList (Text.replaceAll resetStyle.toList anew text.toList) ++ resetStyle
  else text

/-- An error behind its label. -/
def errorLine (color : Bool) (text : String) : String :=
  (if color then errorStyle ++ "Error:" ++ resetStyle else "Error:") ++ " " ++ text

end SchemaPhrase.Cli
