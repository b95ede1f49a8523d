import SchemaPhrase.Column.Fields
import SchemaPhrase.Settings

/-!
# Columns

A `Column` is a field set that has been checked: `validate` corrects or refuses a nullable primary
key and refuses a nullable column with a default. A column is built from a mapping in two phases,
`normalize` and `validate`; from a name and a phrase (`parse`); or from another column and changes
to it (`updated`).
-/

set_option autoImplicit false

namespace SchemaPhrase

/-- A checked set of fields. -/
structure Column where
  fields : FieldSet
  deriving DecidableEq, Repr

namespace FieldSet

/-- The fields that a data type alone says: all those of a phrase, or a type without any name. -/
def ofDatatype : Json → Traced ColumnError FieldSet
  | .string phrase => ofPhrase "" phrase
  | .object fields => do
    let dtype ← .lift ((DataType.ofMapping fields).mapError .dataType)
    return ofType "" dtype
  | other => .fail (.unsupportedDatatype other.kind)

/-- Sets the fields that a mapping gives, the name among them. -/
def overrideNamed (fields : FieldSet) (raw : Mapping) : Except ColumnError FieldSet :=
  if (select? raw ColumnField.name.keys).isNone then .error .missingName else fields.override raw

/-- The fields of a column mapping. What it gives explicitly overrides what its phrase says. -/
def normalize (raw : Mapping) (settings : ColumnSettings) : Traced ColumnError FieldSet :=
  match select? raw settings.dtypeAliases with
  | none => .fail (.missingDatatypeKey settings.dtypeAliases)
  | some datatype => do
    let fields ← ofDatatype datatype
    .lift (fields.overrideNamed raw)

/-- Makes a primary key non-null, or refuses it, if it is said to be nullable. -/
def settleKey (fields : FieldSet) (settings : ColumnSettings) : Traced ColumnError FieldSet :=
  if fields.pk && fields.nullable then
    match settings.pkNullable with
    | .correct => do
      .emit (.corrected fields.name)
      return { fields with nullable := false }
    | .reject => .fail .nullablePrimaryKey
  else return fields

/-- Checks the fields against each other. -/
def validate (fields : FieldSet) (settings : ColumnSettings) : Traced ColumnError Column := do
  let settled ← fields.settleKey settings
  if settled.default.isSome && settled.nullable then .fail .nullableWithDefault
  else return ⟨settled⟩

end FieldSet

namespace Column

/-- Builds a column from a mapping. -/
def ofMapping (raw : Mapping) (settings : ColumnSettings) : Traced ColumnError Column := do
  let fields ← FieldSet.normalize raw settings
  fields.validate settings

/-- Builds a column from a document, which has to be a mapping. -/
def ofJson (document : Json) (settings : ColumnSettings) : Traced ColumnError Column :=
  match document with
  | .object raw => ofMapping raw settings
  | other => .fail (.notAMapping other.kind)

/-- Builds a column from a name and a phrase. -/
def parse (name phrase : String) (settings : ColumnSettings) : Traced ColumnError Column := do
  let fields ← FieldSet.ofPhrase name phrase
  fields.validate settings

/-- The fields before the explicit ones of `changes` are set. A phrase says every field anew but
the name and the reference; a mapping replaces the data type alone. -/
def rebased (column : Column) (changes : Mapping) (settings : ColumnSettings) :
    Traced ColumnError FieldSet :=
  match FieldSet.select? changes settings.dtypeAliases with
  | none => return column.fields
  | some (.object fields) => do
    let dtype ← .lift ((DataType.ofMapping fields).mapError .dataType)
    return { column.fields with dtype }
  | some other => do
    let said ← FieldSet.ofDatatype other
    return { said with name := column.fields.name, fk := column.fields.fk }

/-- The column with changes made to it, checked again. -/
def updated (column : Column) (changes : Mapping) (settings : ColumnSettings) :
    Traced ColumnError Column := do
  let fields ← column.rebased changes settings
  let fields ← .lift (fields.override changes)
  fields.validate settings

/-! ## The written forms -/

/-- The fields in the order of their declaration. -/
def document (column : Column) : Json :=
  .object [("name", .string column.fields.name), ("dtype", .object column.fields.dtype.toMapping),
    ("nullable", .bool column.fields.nullable), ("unique", .bool column.fields.unique),
    ("default", .ofOption DefaultValue.document column.fields.default),
    ("check", .ofOption .string column.fields.check), ("pk", .bool column.fields.pk),
    ("fk", Reference.optionalDocument column.fields.fk)]

/-- The reference of a column as a mapping; none is the empty one. -/
def referenceMapping : Option Reference → Mapping
  | some reference =>
    .ofFields [("table", .string reference.table), ("column", .string reference.column)]
  | none => []

/-- The column as a mapping. -/
def toMapping (column : Column) : Mapping :=
  .ofFields [("name", .string column.fields.name),
    ("dtype", .object column.fields.dtype.toMapping),
    ("nullable", .bool column.fields.nullable), ("unique", .bool column.fields.unique),
    ("default", .ofOption DefaultValue.document column.fields.default),
    ("check", .ofOption .string column.fields.check), ("pk", .bool column.fields.pk),
    ("fk", .object (referenceMapping column.fields.fk))]

/-- The column as a document with its keys in order. -/
def toJson (column : Column) : Json :=
  .object column.toMapping

end Column

end SchemaPhrase
