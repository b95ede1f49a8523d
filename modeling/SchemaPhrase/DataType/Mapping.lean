import SchemaPhrase.DataType.Basic
import SchemaPhrase.DataType.Error
import SchemaPhrase.Text.Words

/-!
# Data types from mappings

A mapping names its type under `type`; the names of the known types match in any ASCII case
(`TypeKind.ofTag?`). The fields that the type takes are then read and checked in the order in which
`toMapping` writes them. `DataType.WellFormed` states which values can come out.
-/

set_option autoImplicit false

namespace SchemaPhrase

/-- The known types without their arguments. -/
inductive TypeKind where
  | character (kind : CharacterKind)
  | plain (kind : PlainKind)
  | exact (kind : ExactKind)
  | timestamp
  deriving DecidableEq, Repr

namespace TypeKind

/-- The known types, each under the tags that name it. -/
def table : List (List String × TypeKind) :=
  [(["string", "str"], .character .string), (["char"], .character .char),
    (["varchar"], .character .varchar), (["text"], .plain .text),
    (["integer", "int"], .plain .integer), (["smallint"], .plain .smallint),
    (["bigint"], .plain .bigint), (["numeric"], .exact .numeric), (["decimal"], .exact .decimal),
    (["timestamp"], .timestamp)]

/-- Whether two tags differ at most in the case of ASCII letters. -/
def sameTag (a b : String) : Bool :=
  a.toList.map Char.toLower == b.toList.map Char.toLower

/-- The known type that a tag names. -/
def ofTag? (tag : String) : Option TypeKind :=
  (table.find? fun entry => entry.1.any (sameTag · tag)).map Prod.snd

end TypeKind

namespace DataType

/-- The integer under a field: a number, or a string that writes one between blanks. A field that is
absent or null is not set. -/
def intField (fields : Mapping) (field : TypeField) : Except DataTypeError Int64 :=
  match fields.get? field.key with
  | none | some .null => .ok unset
  | some (.number number) =>
    match number.int64? with
    | some value => .ok value
    | none => .error (.invalidArgument field (String.ofList number.text))
  | some (.string text) =>
    match Decimal.readInt64? (Text.trim text.toList) with
    | some value => .ok value
    | none => .error (.invalidArgument field text)
  | some _ => .error (.invalidField field)

/-- The integer under a field, between `-1` and `max`. -/
def boundedField (fields : Mapping) (field : TypeField) (max : Int64) :
    Except DataTypeError Int64 := do
  let value ← intField fields field
  if unset ≤ value ∧ value ≤ max then .ok value else .error (.outOfRange field value max)

/-- The flag under a field; absent or null is false. -/
def boolField (fields : Mapping) (field : TypeField) : Except DataTypeError Bool :=
  match fields.get? field.key with
  | none | some .null => .ok false
  | some (.bool value) => .ok value
  | some _ => .error (.invalidField field)

/-- The type of a known kind with the arguments in a mapping. -/
def ofKind (fields : Mapping) : TypeKind → Except DataTypeError DataType
  | .character kind => do
    return .character kind (← boundedField fields .maxLength Int64.maxValue)
  | .plain kind => .ok (.plain kind)
  | .exact kind => do
    let precision ← boundedField fields .precision Int64.maxValue
    let scale ← boundedField fields .scale Int64.maxValue
    if precision = unset ∧ scale ≠ unset then .error .scaleWithoutPrecision
    else .ok (.exact kind precision scale)
  | .timestamp => do
    let precision ← boundedField fields .precision maxTimestampPrecision
    return .timestamp precision (← boolField fields .timezone)

/-- The type that a mapping describes, `unknown` telling what a tag that names no known type
becomes. Without a tag the type is generic. -/
def resolve (unknown : String → DataType) (fields : Mapping) : Except DataTypeError DataType :=
  match fields.get? TypeField.type.key with
  | none | some .null => .ok generic
  | some (.string tag) =>
    match TypeKind.ofTag? tag with
    | some kind => ofKind fields kind
    | none => .ok (unknown tag)
  | some _ => .error (.invalidField .type)

/-- The type that a mapping describes. An unknown tag is kept as written. -/
def ofMapping (fields : Mapping) : Except DataTypeError DataType :=
  resolve base fields

/-- The arguments are in range, a scale has a precision, and a tag of its own names no known
type. -/
def WellFormed : DataType → Prop
  | base tag => TypeKind.ofTag? tag = none
  | character _ maxLength => unset ≤ maxLength
  | plain _ => True
  | exact _ precision scale =>
    unset ≤ precision ∧ unset ≤ scale ∧ (precision = unset → scale = unset)
  | timestamp precision _ => unset ≤ precision ∧ precision ≤ maxTimestampPrecision

instance (type : DataType) : Decidable type.WellFormed := by
  cases type <;> unfold WellFormed <;> infer_instance

end DataType

end SchemaPhrase
