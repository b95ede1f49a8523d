import SchemaPhrase.Cli.Arguments
import SchemaPhrase.Cli.Failure
import SchemaPhrase.Cli.Log
import SchemaPhrase.Cli.Style
import SchemaPhrase.Json.Printer
import SchemaPhrase.Settings.File
import SchemaPhrase.Table.Basic

/-!
# Running the program

`run` carries out what the arguments ask for on a `Host`, the files and the standard input that a
run can see, and gives a `Report` of what it writes. The commands themselves are functions on text
(`dtypeOutcome`, `columnOutcome`, `phraseOutcome`, `tableOutcome`).
-/

set_option autoImplicit false

namespace SchemaPhrase.Cli

/-- What a run can see. A file that cannot be read gives the reason. -/
structure Host (m : Type → Type) where
  /-- The directory of the run. -/
  directory : m String
  readFile : String → m (Except String String)
  isFile : String → m Bool
  readInput : m (Except String String)

/-- What a run writes, and the code it ends with. -/
structure Report where
  exitCode : UInt8
  output : String
  errors : List String

/-- What a command writes when it succeeds. -/
structure Success where
  document : Json
  summary : Option String

/-- How a command ends, and the log up to there. -/
structure Outcome where
  log : List LogLine
  result : Except Failure Success

/-! ## The commands -/

/-- The outcome of a traced run. -/
def Outcome.ofTraced {ε α : Type} (run : Traced ε α) (fail : ε → Failure) (note : α → List LogLine)
    (succeed : α → Success) : Outcome :=
  let events := run.events.map LogLine.ofEvent
  match run.result with
  | .ok value => ⟨events ++ note value, .ok (succeed value)⟩
  | .error cause => ⟨events, .error (fail cause)⟩

/-- The note on a parsed type. -/
def dtypeNote (phrase : String) (type : DataType) : LogLine :=
  { level := .debug
    target := "armored_cli::commands::dtype"
    message := "parsed data type"
    fields := [("phrase", Text.quotedText phrase), ("kind", Text.quotedText type.tag)] }

/-- Shows a type beside its canonical phrase. -/
def dtypeOutcome (phrase : String) : Outcome :=
  .ofTraced (Traced.lift (DataType.parse phrase)) .dataType (fun type => [dtypeNote phrase type])
    fun type =>
      ⟨.object [("canonical", .string type.display), ("dtype", .object type.toMapping)], none⟩

/-- Shows the column of a phrase. -/
def columnOutcome (settings : ColumnSettings) (name phrase : String) : Outcome :=
  .ofTraced (Column.parse name phrase settings) .column (fun _ => [])
    fun column => ⟨column.document, none⟩

/-- Shows the parts of a phrase. -/
def phraseOutcome (phrase : String) : Outcome :=
  .ofTraced (parsePhrase phrase) .column (fun _ => []) fun parsed => ⟨parsed.document, none⟩

/-- The note on a normalized table. -/
def tableNote (table : Table) : LogLine :=
  { level := .info
    target := "armored_cli::commands::table"
    message := "normalized table"
    fields := [("table", table.name), ("columns", Nat.repr table.columns.length),
      ("foreign_keys", Nat.repr table.fk.length)] }

/-- The summary of a table. -/
def tableSummary (table : Table) : String :=
  table.name ++ ": " ++ Nat.repr table.columns.length ++ " column(s), primary key " ++
    table.pk.name.getD "none" ++ ", " ++ Nat.repr table.fk.length ++ " foreign key(s)"

/-- Shows the table of a document. -/
def tableOutcome (settings : ColumnSettings) (file text : String) : Outcome :=
  match Json.parse? text with
  | none => ⟨[], .error (.document file)⟩
  | some document =>
    .ofTraced (Table.ofJson document settings) (.table file) (fun table => [tableNote table])
      fun table => ⟨table.document, some (tableSummary table)⟩

/-! ## A run -/

/-- The name of the settings file that is looked for. -/
def settingsFile : String := "armored.toml"

/-- The file that stands for the standard input. -/
def standardInput : String := "-"

variable {m : Type → Type} [Monad m]

/-- The settings of a file. -/
def loadSettings (host : Host m) (path : String) : m (Except SettingsError Settings) := do
  match ← host.readFile path with
  | .ok text => return Settings.ofText text
  | .error cause => return .error (.unreadable path cause)

/-- The settings of the file that was named, or of the one in the directory if there is one. -/
def findSettings (host : Host m) : Option String → m (Except SettingsError Settings)
  | some path => loadSettings host path
  | none => do
    let path := (← host.directory) ++ "/" ++ settingsFile
    if ← host.isFile path then loadSettings host path else return .ok .standard

/-- The note on settings that were named. -/
def settingsNote (path : String) : LogLine :=
  { level := .debug, target := "armored", message := "loading settings",
    fields := [("path", path)] }

/-- The text of a file or of the standard input. -/
def readDocument (host : Host m) (file : String) : m (Except Failure String) := do
  if file = standardInput then
    return (← host.readInput).mapError (.unreadable file "stdin")
  else
    return (← host.readFile file).mapError (.unreadable file file)

/-- Carries out a command under settings. -/
def perform (host : Host m) (settings : ColumnSettings) : Command → m Outcome
  | .dtype phrase => return dtypeOutcome phrase
  | .column name phrase => return columnOutcome settings name phrase
  | .phrase phrase => return phraseOutcome phrase
  | .table file => do
    match ← readDocument host file with
    | .ok text => return tableOutcome settings file text
    | .error failure => return ⟨[], .error failure⟩

/-- The outcome of a whole invocation: the settings come first, whatever the command. -/
def invoke (host : Host m) (invocation : Invocation) : m Outcome := do
  let notes := invocation.config.toList.map settingsNote
  match ← findSettings host invocation.config with
  | .error cause => return ⟨notes, .error (.settings cause)⟩
  | .ok settings =>
    let outcome ← perform host settings.column invocation.command
    return { outcome with log := notes ++ outcome.log }

/-- What is written of an outcome. -/
def Outcome.report (outcome : Outcome) (filter : LogFilter) (color compact : Bool) : Report :=
  let log := (outcome.log.filter (filter.shows ·.level)).map LogLine.text
  match outcome.result with
  | .ok success =>
    { exitCode := 0
      output := success.document.write (if compact then .compact else .indented) ++ "\n"
      errors := log ++ success.summary.toList.map (muted color) }
  | .error failure =>
    { exitCode := 1, output := "", errors := log ++ [errorLine color failure.text] }

/-- How the program is used. -/
def usage : String :=
  "usage: armored [--config PATH] [--compact] (dtype PHRASE | column PHRASE [--name NAME] | " ++
    "phrase PHRASE | table FILE)"

/-- Runs the program. -/
def run (host : Host m) (filter : LogFilter) (color : Bool) (arguments : List String) :
    m Report := do
  match Arguments.parse? arguments with
  | none => return { exitCode := 2, output := "", errors := [usage] }
  | some .version => return { exitCode := 0, output := "armored 0.1.0\n", errors := [] }
  | some (.run invocation) =>
    return (← invoke host invocation).report filter color invocation.compact

end SchemaPhrase.Cli
