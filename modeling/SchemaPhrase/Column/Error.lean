import SchemaPhrase.DataType.Error

/-!
# What can be wrong with a column

The fields of a column, the keys that each may be written under, and the causes for which a phrase
or a mapping is no column.
-/

set_option autoImplicit false

namespace SchemaPhrase

/-- The fields of a column besides its data type, in the order in which they are read. -/
inductive ColumnField where
  | name
  | nullable
  | unique
  | primaryKey
  | default
  | check
  | foreignKey
  deriving DecidableEq, Repr

namespace ColumnField

/-- The key of a field. -/
def key : ColumnField → String
  | name => "name"
  | nullable => "nullable"
  | unique => "unique"
  | primaryKey => "pk"
  | default => "default"
  | check => "check"
  | foreignKey => "fk"

/-- The other key that a field may stand under. -/
def capitalizedKey : ColumnField → String
  | name => "ColumnName"
  | nullable => "Nullable"
  | unique => "Unique"
  | primaryKey => "PrimaryKey"
  | default => "Default"
  | check => "Check"
  | foreignKey => "ForeignKey"

/-- The keys of a field, the preferred one first. -/
def keys (field : ColumnField) : List String :=
  [field.key, field.capitalizedKey]

/-- What the field holds. -/
def expected : ColumnField → String
  | name | check => "a string"
  | nullable | unique | primaryKey => "a boolean"
  | default => "an integer or a string"
  | foreignKey => "a mapping with `table` and `column`, or `\x7b\x7d`"

end ColumnField

inductive ColumnError where
  /-- `check` stands in the phrase, given as it was, and no clause in parentheses follows. -/
  | malformedCheckClause (phrase : String)
  /-- None of the accepted keys of the data type is present. -/
  | missingDatatypeKey (aliases : List String)
  /-- A data type that is neither a phrase nor a mapping. -/
  | unsupportedDatatype (kind : Json.Kind)
  /-- A default is set and the column is nullable. -/
  | nullableWithDefault
  /-- A nullable primary key, where that is not corrected. -/
  | nullablePrimaryKey
  /-- A column without a name. -/
  | missingName
  /-- A field that holds another kind of value. -/
  | invalidField (field : ColumnField)
  /-- A column that is not a mapping. -/
  | notAMapping (kind : Json.Kind)
  /-- The data type is wrong. -/
  | dataType (cause : DataTypeError)
  deriving DecidableEq, Repr

/-- The message of an error. -/
def ColumnError.message : ColumnError → String
  | malformedCheckClause phrase =>
    s!"datatype phrase does not support this format of check: `{phrase}`"
  | missingDatatypeKey aliases =>
    "datatype key not found, expected one of: " ++ ", ".intercalate aliases
  | unsupportedDatatype kind => s!"datatype value must be a phrase or a mapping, got {kind.name}"
  | nullableWithDefault => "`nullable` cannot be true if `default` is set"
  | nullablePrimaryKey => "`pk` and `nullable` cannot be true together"
  | missingName => "missing required field `name`"
  | invalidField field => s!"`{field.key}` expects {field.expected}"
  | notAMapping kind => s!"column input must be a mapping, got {kind.name}"
  | dataType cause => cause.message

end SchemaPhrase
