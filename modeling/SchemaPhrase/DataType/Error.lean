import SchemaPhrase.Json.Basic

/-!
# What can be wrong with a data type

The causes for which a mapping or a phrase is no data type, and the message of each.
-/

set_option autoImplicit false

namespace SchemaPhrase

/-- The fields of a type mapping. -/
inductive TypeField where
  | type
  | maxLength
  | precision
  | scale
  | timezone
  deriving DecidableEq, Repr

/-- The key of a field. -/
def TypeField.key : TypeField → String
  | type => "type"
  | maxLength => "max_length"
  | precision => "precision"
  | scale => "scale"
  | timezone => "timezone"

/-- What the field holds. -/
def TypeField.expected : TypeField → String
  | type => "a string"
  | maxLength | precision | scale => "an integer"
  | timezone => "a boolean"

inductive DataTypeError where
  /-- A number or a string that is no 64-bit integer, as it was written. -/
  | invalidArgument (field : TypeField) (value : String)
  /-- An integer below `-1` or above the largest one allowed. -/
  | outOfRange (field : TypeField) (value max : Int64)
  /-- A scale is set and the precision is not. -/
  | scaleWithoutPrecision
  /-- A field that holds another kind of value. -/
  | invalidField (field : TypeField)
  /-- A value that is neither a phrase nor a mapping. -/
  | unsupportedValue (kind : Json.Kind)
  deriving DecidableEq, Repr

/-- The message of an error. -/
def DataTypeError.message : DataTypeError → String
  | invalidArgument field value => s!"`{field.key}` expects an integer, got `{value}`"
  | outOfRange field value max =>
    s!"`{field.key}` must be between -1 and {Decimal.int64Text max}, got " ++
      Decimal.int64Text value
  | scaleWithoutPrecision => "`scale` cannot be set without `precision`"
  | invalidField field => s!"`{field.key}` expects {field.expected}"
  | unsupportedValue kind => s!"cannot build a data type from a {kind.name} value"

end SchemaPhrase
