import SchemaPhrase.Json.Decode
import SchemaPhrase.Json.Shape

/-!
# Key constraints

A `Reference` is the target of a foreign key, and `PrimaryKey` and `ForeignKey` are the constraints
of a table. A constraint without a name gets one from the columns it covers. Each is written as an
object in the order of its fields and read back from an object or from the list of its fields.
-/

set_option autoImplicit false

namespace SchemaPhrase

/-! ## References -/

/-- A column of a table. -/
structure Reference where
  table : String
  column : String
  deriving DecidableEq, Repr

namespace Reference

def document (reference : Reference) : Json :=
  .object [("table", .string reference.table), ("column", .string reference.column)]

/-- Reads a reference from a mapping with both fields, whatever else it holds, or from a list. -/
def ofJson? : Json → Option Reference
  | .object fields =>
    match Mapping.get? fields "table", Mapping.get? fields "column" with
    | some (.string table), some (.string column) => some ⟨table, column⟩
    | _, _ => none
  | .array [.string table, .string column] => some ⟨table, column⟩
  | _ => none

/-- What a text of a reference holds. -/
def shape : Json.Shape :=
  .record false [("table", true, .string), ("column", true, .string)]

/-- An optional reference; none is an empty mapping. -/
def optionalDocument : Option Reference → Json
  | some reference => reference.document
  | none => .object []

/-- Reads an optional reference. Null and an empty mapping are none. -/
def optionalOfJson? : Json → Option (Option Reference)
  | .null => some none
  | .object [] => some none
  | other => (ofJson? other).map some

end Reference

/-! ## Primary keys -/

/-- The columns of a primary key in table order. -/
structure PrimaryKey where
  name : Option String
  columns : List String
  deriving DecidableEq, Repr

namespace PrimaryKey

/-- The name of a key that is given none. -/
def derivedName (columns : List String) : String :=
  "_".intercalate columns ++ "_pk"

/-- A key with a given name, or with the derived one if it covers a column. -/
def withName (name : Option String) (columns : List String) : PrimaryKey :=
  ⟨name.or (if columns.isEmpty then none else some (derivedName columns)), columns⟩

/-- A key with the derived name. -/
def ofColumns (columns : List String) : PrimaryKey :=
  withName none columns

def isEmpty (key : PrimaryKey) : Bool :=
  key.columns.isEmpty

def document (key : PrimaryKey) : Json :=
  .object [("name", .ofOption .string key.name), ("columns", .ofStrings key.columns)]

/-- The key with the given fields; a missing one has its default. -/
def ofFields? (name columns : Option Json) : Option PrimaryKey := do
  let name ← (name.getD .null).optionalString?
  let columns ← (columns.getD (.array [])).strings?
  return withName name columns

/-- Reads a key from a mapping or from a list. -/
def ofJson? : Json → Option PrimaryKey
  | .object fields => ofFields? (Mapping.get? fields "name") (Mapping.get? fields "columns")
  | .array [] => ofFields? none none
  | .array [name] => ofFields? (some name) none
  | .array [name, columns] => ofFields? (some name) (some columns)
  | _ => none

/-- What a text of a key holds. -/
def shape : Json.Shape :=
  .record false [("name", false, .optional .string), ("columns", false, .list .string)]

end PrimaryKey

/-! ## Foreign keys -/

/-- A column of the table and what it refers to. -/
structure ForeignKey where
  name : String
  column : String
  reference : Reference
  deriving DecidableEq, Repr

namespace ForeignKey

/-- The name of a key that is given none. -/
def derivedName (column : String) (reference : Reference) : String :=
  column ++ "_" ++ reference.table ++ "_" ++ reference.column ++ "_fk"

/-- A key with a given name or with the derived one. -/
def withName (name : Option String) (column : String) (reference : Reference) : ForeignKey :=
  ⟨name.getD (derivedName column reference), column, reference⟩

/-- A key with the derived name. -/
def ofColumn (column : String) (reference : Reference) : ForeignKey :=
  withName none column reference

def document (key : ForeignKey) : Json :=
  .object [("name", .string key.name), ("to", .string key.column),
    ("ref", key.reference.document)]

/-- The key with the given fields; only the name may be missing. -/
def ofFields? (name column reference : Option Json) : Option ForeignKey :=
  match (name.getD .null).optionalString?, column, reference.bind Reference.ofJson? with
  | some name, some (.string column), some reference => some (withName name column reference)
  | _, _, _ => none

/-- Reads a key from a mapping or from a list. -/
def ofJson? : Json → Option ForeignKey
  | .object fields =>
    ofFields? (Mapping.get? fields "name") (Mapping.get? fields "to") (Mapping.get? fields "ref")
  | .array [name, column, reference] => ofFields? (some name) (some column) (some reference)
  | _ => none

/-- What a text of a key holds. -/
def shape : Json.Shape :=
  .record false
    [("name", false, .optional .string), ("to", true, .string), ("ref", true, Reference.shape)]

/-- Reads a list of keys. -/
def listOfJson? : Json → Option (List ForeignKey)
  | .array items => items.mapM ofJson?
  | _ => none

end ForeignKey

end SchemaPhrase
