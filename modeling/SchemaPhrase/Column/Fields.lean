import SchemaPhrase.Alias
import SchemaPhrase.Constraint
import SchemaPhrase.DataType.Parse
import SchemaPhrase.Phrase.Parse

/-!
# The fields of a column

A `FieldSet` holds the eight fields of a column before they are checked against each other. It is
made from a type (`ofType`), from a phrase (`ofPhrase`) or by the steps of a builder (`Step`), and
the fields that a mapping gives explicitly are set over it (`override`).
-/

set_option autoImplicit false

namespace SchemaPhrase

/-- The default of a column. -/
inductive DefaultValue where
  | int (value : Int64)
  | text (value : String)
  deriving DecidableEq, Repr

namespace DefaultValue

def display : DefaultValue → String
  | int value => Decimal.int64Text value
  | text value => value

def document : DefaultValue → Json
  | int value => .int value
  | text value => .string value

def ofJson? : Json → Option DefaultValue
  | .number value => value.int64?.map int
  | .string value => some (text value)
  | _ => none

/-- An optional default; null is none. -/
def optionalOfJson? : Json → Option (Option DefaultValue)
  | .null => some none
  | other => (ofJson? other).map some

end DefaultValue

structure FieldSet where
  name : String
  dtype : DataType
  nullable : Bool
  unique : Bool
  default : Option DefaultValue
  check : Option String
  pk : Bool
  fk : Option Reference
  deriving DecidableEq, Repr

/-- A column name without its blanks, the inner ones too. -/
def normalizeName (name : String) : String :=
  String.ofList (Text.squeeze name.toList)

namespace FieldSet

/-- A column of a type with nothing else said about it. -/
def ofType (name : String) (dtype : DataType) : FieldSet :=
  { name := normalizeName name, dtype, nullable := true, unique := false, default := none,
    check := none, pk := false, fk := none }

/-- Tells the name of a phrase whose type is not known, unless it is the name of the generic
type. -/
def tellFallback (phrase : String) (dtype : DataType) : Traced ColumnError Unit :=
  let name := (TypePhrase.ofPhrase phrase.toList).name
  if dtype.isBase && name != DataType.baseTag then
    .emit (.fallback (Text.collapseWhitespace name))
  else return ()

/-- The type of the phrase that is left when the modifiers are taken out. -/
def typeOfPhrase (phrase : String) : Traced ColumnError DataType := do
  let dtype ← .lift ((DataType.parse phrase).mapError .dataType)
  tellFallback phrase dtype
  return dtype

/-- The fields that a phrase says. -/
def ofPhrase (name phrase : String) : Traced ColumnError FieldSet := do
  let parsed ← parsePhrase phrase
  let dtype ← typeOfPhrase parsed.dtype
  return {
    name := normalizeName name
    dtype
    nullable := parsed.nullable
    unique := parsed.unique
    default := parsed.default.map .text
    check := parsed.check
    pk := parsed.pk
    fk := none }

/-! ## Steps of a builder -/

/-- One thing said about a column. -/
inductive Step where
  | notNull
  | nullable
  | unique
  | primaryKey
  | default (value : DefaultValue)
  | check (clause : String)
  | references (reference : Reference)
  deriving DecidableEq, Repr

/-- Says one thing more about a column. -/
def apply (fields : FieldSet) : Step → FieldSet
  | .notNull => { fields with nullable := false }
  | .nullable => { fields with nullable := true }
  | .unique => { fields with unique := true }
  | .primaryKey => { fields with pk := true }
  | .default value => { fields with default := some value }
  | .check clause => { fields with check := some clause }
  | .references reference => { fields with fk := some reference }

/-! ## Explicit fields -/

/-- The value of the first of `keys` that is present. -/
def select? (raw : Mapping) (keys : List String) : Option Json :=
  (selectKey? raw.keys keys).bind raw.get?

theorem select?_eq_findSome? (raw : Mapping) (keys : List String) :
    select? raw keys = keys.findSome? raw.get? := by
  unfold select? selectKey?
  induction keys with
  | nil => rfl
  | cons key keys ih =>
    rw [List.find?_cons, List.findSome?_cons, Mapping.contains_keys]
    cases h : raw.get? key with
    | none => simpa using ih
    | some value => simp [h]

/-- The value that a mapping gives for a field, or the current one if it gives none. -/
def explicit {α : Type} (field : ColumnField) (read? : Json → Option α) (current : α)
    (raw : Mapping) : Except ColumnError α :=
  match select? raw field.keys with
  | none => .ok current
  | some value =>
    match read? value with
    | some given => .ok given
    | none => .error (.invalidField field)

def readName? : Json → Option String
  | .string name => some (normalizeName name)
  | _ => none

def readFlag? : Json → Option Bool
  | .bool value => some value
  | _ => none

/-- Sets the fields that a mapping gives. The first one that is ill-typed, in the order of
`ColumnField`, is told. -/
def override (fields : FieldSet) (raw : Mapping) : Except ColumnError FieldSet := do
  let name ← explicit .name readName? fields.name raw
  let nullable ← explicit .nullable readFlag? fields.nullable raw
  let unique ← explicit .unique readFlag? fields.unique raw
  let pk ← explicit .primaryKey readFlag? fields.pk raw
  let default ← explicit .default DefaultValue.optionalOfJson? fields.default raw
  let check ← explicit .check Json.optionalString? fields.check raw
  let fk ← explicit .foreignKey Reference.optionalOfJson? fields.fk raw
  return { name, dtype := fields.dtype, nullable, unique, default, check, pk, fk }

end FieldSet

end SchemaPhrase
