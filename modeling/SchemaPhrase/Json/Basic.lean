import SchemaPhrase.Json.Number

/-!
# Documents

`Json` is the form in which columns and tables come in and go out. An object is a list of fields;
a `Mapping` that was read or built here has its keys in order and each once, and the form written
for a column or a table keeps the order of its declaration. Only look-ups (`Mapping.get?`) decide
what a mapping means.
-/

set_option autoImplicit false

namespace SchemaPhrase

inductive Json where
  | null
  | bool (value : Bool)
  | number (value : Number)
  | string (value : String)
  | array (items : List Json)
  | object (fields : List (String × Json))

namespace Json

/-- The kinds of document that messages name. -/
inductive Kind where
  | null
  | boolean
  | number
  | string
  | array
  | mapping
  deriving DecidableEq, Repr

/-- The name of a kind in a message. -/
def Kind.name : Kind → String
  | null => "null"
  | boolean => "boolean"
  | number => "number"
  | string => "string"
  | array => "array"
  | mapping => "mapping"

def kind : Json → Kind
  | null => .null
  | bool _ => .boolean
  | number _ => .number
  | string _ => .string
  | array _ => .array
  | object _ => .mapping

/-- A 64-bit integer as a document. -/
def int (value : Int64) : Json :=
  number (.integer value.toInt)

/-- A document or `null`. -/
def ofOption {α : Type} (write : α → Json) : Option α → Json
  | some value => write value
  | none => null

def isNull : Json → Bool
  | null => true
  | _ => false

end Json

/-- The fields of an object. -/
abbrev Mapping := List (String × Json)

namespace Mapping

/-- The value of a key. -/
def get? : Mapping → String → Option Json
  | [], _ => none
  | (k, value) :: rest, key => if k = key then some value else get? rest key

/-- The keys in order. -/
def keys (fields : Mapping) : List String :=
  fields.map Prod.fst

/-- Sets a key, in place of its old value or else before the first greater key. -/
def insert (key : String) (value : Json) : Mapping → Mapping
  | [] => [(key, value)]
  | (k, v) :: rest =>
    if key < k then (key, value) :: (k, v) :: rest
    else if key = k then (key, value) :: rest
    else (k, v) :: insert key value rest

/-- The mapping with the given fields, the last value of a key counting. -/
def ofFields (fields : List (String × Json)) : Mapping :=
  fields.foldl (fun mapping field => mapping.insert field.1 field.2) []

/-- The mapping with every field of `changes` set. -/
def overwrite (mapping changes : Mapping) : Mapping :=
  changes.foldl (fun mapping field => mapping.insert field.1 field.2) mapping

theorem get?_insert (fields : Mapping) (key : String) (value : Json) (k : String) :
    (fields.insert key value).get? k = if key = k then some value else fields.get? k := by
  induction fields with
  | nil => simp [insert, get?]
  | cons field rest ih =>
    obtain ⟨k', v⟩ := field
    unfold insert
    split
    · simp [get?]
    · split
      · next h => subst h; by_cases h : key = k <;> simp [get?, h]
      · next hne =>
        by_cases h : k' = k
        · subst h; simp [get?, hne]
        · simp [get?, h, ih]

/-- A key is listed exactly if it has a value. -/
theorem contains_keys (fields : Mapping) (key : String) :
    fields.keys.contains key = (fields.get? key).isSome := by
  induction fields with
  | nil => rfl
  | cons field rest ih =>
    obtain ⟨k, v⟩ := field
    have ih : (List.map Prod.fst rest).contains key = (get? rest key).isSome := ih
    by_cases h : k = key
    · simp [keys, get?, h]
    · have hne : (key == k) = false := by simpa using Ne.symm h
      simp only [keys, get?, List.map_cons, List.contains_cons, hne, Bool.false_or, h, if_false, ih]

end Mapping

end SchemaPhrase
