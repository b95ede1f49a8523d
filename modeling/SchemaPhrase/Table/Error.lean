import SchemaPhrase.Column.Error

/-!
# What can be wrong with a table

The fields of a table and the causes for which a mapping is no table.
-/

set_option autoImplicit false

namespace SchemaPhrase

inductive TableField where
  | name
  | schemas
  | pk
  | fk
  deriving DecidableEq, Repr

namespace TableField

/-- The key of a field. -/
def key : TableField → String
  | name => "name"
  | schemas => "schemas"
  | pk => "pk"
  | fk => "fk"

/-- What the field holds. -/
def expected : TableField → String
  | name => "a string"
  | schemas => "a list of columns"
  | pk => "a mapping with `columns` and an optional `name`"
  | fk => "a list of foreign keys"

end TableField

inductive TableError where
  /-- The column at an index is wrong. -/
  | column (index : Nat) (cause : ColumnError)
  /-- A column has the name of an earlier one. -/
  | duplicateColumn (name : String)
  /-- A table without a name. -/
  | missingName
  /-- A field that holds another kind of value. -/
  | invalidField (field : TableField)
  /-- A table that is not a mapping. -/
  | notAMapping (kind : Json.Kind)
  deriving DecidableEq, Repr

/-- The message of an error. -/
def TableError.message : TableError → String
  | column index cause => "column #" ++ Nat.repr index ++ ": " ++ cause.message
  | duplicateColumn name => s!"duplicate column `{name}`"
  | missingName => "missing required field `name`"
  | invalidField field => s!"`{field.key}` expects {field.expected}"
  | notAMapping kind => s!"table input must be a mapping, got {kind.name}"

end SchemaPhrase
