import SchemaPhrase.Json.Decode
import SchemaPhrase.Json.Shape
import SchemaPhrase.Text.Words

/-!
# Settings

`ColumnSettings` says under which keys a column's data type may stand and what is done with a
nullable primary key. `Settings` is what a settings file holds. Both are read from a mapping, in
which every field is optional and no other key may stand, or from the list of their fields.
-/

set_option autoImplicit false

namespace SchemaPhrase

/-- What is done with a primary key that is said to be nullable. -/
inductive NullableKeyPolicy where
  /-- It is made non-null. -/
  | correct
  /-- It is refused. -/
  | reject
  deriving DecidableEq, Repr

namespace NullableKeyPolicy

/-- The name of a policy in settings. -/
def text : NullableKeyPolicy → String
  | correct => "correct"
  | reject => "reject"

def ofText? : String → Option NullableKeyPolicy
  | "correct" => some correct
  | "reject" => some reject
  | _ => none

def ofJson? (document : Json) : Option NullableKeyPolicy :=
  document.choice?.bind ofText?

/-- What a text of a policy holds. -/
def shape : Json.Shape :=
  .choice [correct.text, reject.text]

end NullableKeyPolicy

/-! ## Settings of columns -/

structure ColumnSettings where
  /-- The keys of the data type, the preferred one first. -/
  dtypeAliases : List String
  pkNullable : NullableKeyPolicy
  deriving DecidableEq, Repr

namespace ColumnSettings

/-- The settings that hold where nothing is said. -/
def standard : ColumnSettings :=
  ⟨["dtype", "DataType", "datatype"], .correct⟩

def document (settings : ColumnSettings) : Json :=
  .object [("dtype_aliases", .ofStrings settings.dtypeAliases),
    ("pk_nullable", .string settings.pkNullable.text)]

/-- The settings with the given fields, the others as standard. -/
def ofFields? (dtypeAliases pkNullable : Option Json) : Option ColumnSettings := do
  let dtypeAliases ← match dtypeAliases with
    | none => some standard.dtypeAliases
    | some value => value.strings?
  let pkNullable ← match pkNullable with
    | none => some standard.pkNullable
    | some value => NullableKeyPolicy.ofJson? value
  return ⟨dtypeAliases, pkNullable⟩

def ofJson? : Json → Option ColumnSettings
  | .object fields =>
    if (Mapping.keys fields).all ["dtype_aliases", "pk_nullable"].contains then
      ofFields? (Mapping.get? fields "dtype_aliases") (Mapping.get? fields "pk_nullable")
    else none
  | .array [] => ofFields? none none
  | .array [dtypeAliases] => ofFields? (some dtypeAliases) none
  | .array [dtypeAliases, pkNullable] => ofFields? (some dtypeAliases) (some pkNullable)
  | _ => none

/-- What a text of column settings holds. -/
def shape : Json.Shape :=
  .record true
    [("dtype_aliases", false, .list .string), ("pk_nullable", false, NullableKeyPolicy.shape)]

end ColumnSettings

/-! ## Settings files -/

structure Settings where
  column : ColumnSettings
  deriving DecidableEq, Repr

namespace Settings

def standard : Settings := ⟨.standard⟩

def document (settings : Settings) : Json :=
  .object [("column", settings.column.document)]

def ofFields? : Option Json → Option Settings
  | none => some standard
  | some column => (ColumnSettings.ofJson? column).map Settings.mk

def ofJson? : Json → Option Settings
  | .object fields =>
    if (Mapping.keys fields).all ["column"].contains then ofFields? (Mapping.get? fields "column")
    else none
  | .array [] => ofFields? none
  | .array [column] => ofFields? (some column)
  | _ => none

/-- What a text of settings holds. -/
def shape : Json.Shape :=
  .record true [("column", false, ColumnSettings.shape)]

end Settings

/-- What can be wrong with a settings file. -/
inductive SettingsError where
  /-- The file cannot be read. -/
  | unreadable (path cause : String)
  /-- The text is no settings document. -/
  | unparsable
  /-- No key is left for the data type. -/
  | noAliases
  /-- A key for the data type has nothing but blanks. -/
  | blankAlias
  deriving DecidableEq, Repr

/-- The message of an error. What is wrong with an unparsable text is not told. -/
def SettingsError.message : SettingsError → String
  | unreadable path cause => s!"IO error: {path}: {cause}"
  | unparsable => "Parse error"
  | noAliases => "Invalid configuration: column.dtype_aliases must list at least one key"
  | blankAlias => "Invalid configuration: column.dtype_aliases cannot contain blank keys"

/-- Refuses settings under which no data type could be found. -/
def Settings.checked (settings : Settings) : Except SettingsError Settings :=
  if settings.column.dtypeAliases.isEmpty then .error .noAliases
  else if settings.column.dtypeAliases.any fun key => key.toList.all Text.isBlank then
    .error .blankAlias
  else .ok settings

end SchemaPhrase
