import SchemaPhrase.Settings
import SchemaPhrase.Toml.Reader

/-!
# Settings files

`Settings.ofText` reads a settings file. Every field may be missing and no other may stand. The
table of column settings may also be given as the list of its fields, and a policy as the only key
of a table that has nothing under it.
-/

set_option autoImplicit false

namespace SchemaPhrase

open Toml

/-- A string. -/
def Toml.Value.string? : Value → Option String
  | string text => some text
  | _ => none

/-- A list of strings. -/
def Toml.Value.strings? : Value → Option (List String)
  | array items => items.mapM string?
  | _ => none

/-- The name of a choice. -/
def Toml.Value.choice? : Value → Option String
  | string name => some name
  | table _ [(name, .table _ [])] => some name
  | table _ [(name, .array [])] => some name
  | _ => none

namespace ColumnSettings

/-- The settings with the given values, the others as standard. -/
def ofValues? (dtypeAliases pkNullable : Option Value) : Option ColumnSettings := do
  let dtypeAliases ← match dtypeAliases with
    | none => some standard.dtypeAliases
    | some value => value.strings?
  let pkNullable ← match pkNullable with
    | none => some standard.pkNullable
    | some value => value.choice?.bind NullableKeyPolicy.ofText?
  return ⟨dtypeAliases, pkNullable⟩

/-- Reads column settings from a table, or from a list in the order of their fields; what the list
holds beyond them does not count. -/
def ofToml? : Value → Option ColumnSettings
  | .table _ entries =>
    if (entries.map Prod.fst).all ["dtype_aliases", "pk_nullable"].contains then
      ofValues? (Table.get? entries "dtype_aliases") (Table.get? entries "pk_nullable")
    else none
  | .array items => ofValues? items[0]? items[1]?
  | _ => none

end ColumnSettings

namespace Settings

/-- The settings of a file. -/
def ofTable? (table : Toml.Table) : Option Settings :=
  if (table.map Prod.fst).all ["column"].contains then
    match table.get? "column" with
    | none => some standard
    | some value => (ColumnSettings.ofToml? value).map Settings.mk
  else none

/-- Reads the text of a settings file. -/
def ofText (text : String) : Except SettingsError Settings :=
  match (Toml.parse? text).bind ofTable? with
  | some settings => settings.checked
  | none => .error .unparsable

end Settings

end SchemaPhrase
