import SchemaPhrase.Event
import SchemaPhrase.Text.Quoted

/-!
# The log

Each event of a run and each note of a command is one `LogLine`. A `LogFilter` chooses the lines
that are shown: those at its level and the ones that matter more.
-/

set_option autoImplicit false

namespace SchemaPhrase

/-- How much a level matters, the greatest number least. -/
def Level.rank : Level → Nat
  | error => 1
  | warn => 2
  | info => 3
  | debug => 4
  | trace => 5

namespace Cli

/-- The least level that is shown; none shows nothing. -/
abbrev LogFilter := Option Level

namespace LogFilter

/-- The filter where nothing is said. -/
def standard : LogFilter := some .warn

/-- The filter of a name. -/
def ofText? : String → Option LogFilter
  | "off" => some none
  | "error" => some (some .error)
  | "warn" => some (some .warn)
  | "info" => some (some .info)
  | "debug" => some (some .debug)
  | "trace" => some (some .trace)
  | _ => none

/-- Whether a level is shown. -/
def shows (filter : LogFilter) (level : Level) : Bool :=
  match filter with
  | none => false
  | some least => level.rank ≤ least.rank

end LogFilter

/-- One line of the log. The values of its fields are written already. -/
structure LogLine where
  level : Level
  target : String
  message : String
  fields : List (String × String)

namespace LogLine

/-- The line as it is shown. -/
def text (line : LogLine) : String :=
  line.level.name ++ " " ++ line.target ++ ": " ++ line.message ++
    String.join (line.fields.map fun field => " " ++ field.1 ++ "=" ++ field.2)

/-- The part of the library that tells an event. -/
def targetOf : Event → String
  | .phrase _ _ => "armored_core::column::phrase"
  | .fallback _ => "armored_core::column::fields"
  | .corrected _ => "armored_core::column::fields"

/-- The line of an event. The name of a corrected field is a fixed word and is quoted. -/
def ofEvent (event : Event) : LogLine :=
  { level := event.level
    target := targetOf event
    message := event.message
    fields := event.fields.map fun field =>
      (field.1, if field.1 = "field" then Text.quotedText field.2 else field.2) }

end LogLine

end Cli

end SchemaPhrase
