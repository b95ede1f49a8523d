import SchemaPhrase.Column.Basic
import SchemaPhrase.Table.Error

/-!
# Tables

A `Table` holds its columns and its key constraints. The constraints are derived from the columns:
one primary key over the key columns and one foreign key for each column with a reference. A
mapping may give them explicitly instead. No two columns have one name.
-/

set_option autoImplicit false

namespace SchemaPhrase

structure Table where
  name : String
  columns : List Column
  pk : PrimaryKey
  fk : List ForeignKey
  deriving DecidableEq, Repr

namespace Table

/-- The first name that stands in `seen` or earlier in the list. -/
def firstDuplicate? (seen : List String) : List String → Option String
  | [] => none
  | name :: names =>
    if seen.contains name then some name else firstDuplicate? (name :: seen) names

/-- The primary key of the key columns, in table order. -/
def derivedPrimaryKey (columns : List Column) : PrimaryKey :=
  .ofColumns ((columns.filter (·.fields.pk)).map (·.fields.name))

/-- The foreign keys of the columns with a reference, in table order. -/
def derivedForeignKeys (columns : List Column) : List ForeignKey :=
  columns.filterMap fun column => column.fields.fk.map (.ofColumn column.fields.name)

/-- A table with the constraints of its columns. -/
def ofColumns (name : String) (columns : List Column) : Except TableError Table :=
  match firstDuplicate? [] (columns.map (·.fields.name)) with
  | some duplicate => .error (.duplicateColumn duplicate)
  | none => .ok ⟨name, columns, derivedPrimaryKey columns, derivedForeignKeys columns⟩

/-- Builds the columns of a list whose first one has the given index. -/
def readColumns (settings : ColumnSettings) : Nat → List Json → Traced TableError (List Column)
  | _, [] => return []
  | index, item :: items => do
    let column ← (Column.ofJson item settings).mapError (TableError.column index)
    let columns ← readColumns settings (index + 1) items
    return column :: columns

/-- The columns under `schemas`; absent or null is no column. -/
def columnsOf (raw : Mapping) (settings : ColumnSettings) : Traced TableError (List Column) :=
  match raw.get? TableField.schemas.key with
  | none | some .null => return []
  | some (.array items) => readColumns settings 0 items
  | some _ => .fail (.invalidField .schemas)

/-- A constraint given under a field, if it is given and says something; absent or null is not
given. -/
def given {α : Type} (field : TableField) (read? : Json → Option α) (isEmpty : α → Bool)
    (current : α) (raw : Mapping) : Except TableError α :=
  match raw.get? field.key with
  | none | some .null => .ok current
  | some value =>
    match read? value with
    | some constraint => .ok (if isEmpty constraint then current else constraint)
    | none => .error (.invalidField field)

/-- The table of a name and columns, with the constraints that a mapping gives over those of the
columns. -/
def assemble (name : String) (columns : List Column) (raw : Mapping) : Except TableError Table := do
  let table ← ofColumns name columns
  let pk ← given .pk PrimaryKey.ofJson? PrimaryKey.isEmpty table.pk raw
  let fk ← given .fk ForeignKey.listOfJson? List.isEmpty table.fk raw
  return { table with pk, fk }

/-- Builds a table from a mapping. -/
def ofMapping (raw : Mapping) (settings : ColumnSettings) : Traced TableError Table :=
  match raw.get? TableField.name.key with
  | none => .fail .missingName
  | some (.string name) => do
    let columns ← columnsOf raw settings
    .lift (assemble name columns raw)
  | some _ => .fail (.invalidField .name)

/-- Builds a table from a document, which has to be a mapping. -/
def ofJson (document : Json) (settings : ColumnSettings) : Traced TableError Table :=
  match document with
  | .object raw => ofMapping raw settings
  | other => .fail (.notAMapping other.kind)

/-- The column of a name. -/
def column? (table : Table) (name : String) : Option Column :=
  table.columns.find? (·.fields.name == name)

/-- The fields in the order of their declaration. -/
def document (table : Table) : Json :=
  .object [("name", .string table.name), ("schemas", .array (table.columns.map Column.document)),
    ("pk", table.pk.document), ("fk", .array (table.fk.map ForeignKey.document))]

end Table

end SchemaPhrase
