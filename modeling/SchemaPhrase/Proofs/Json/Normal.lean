import SchemaPhrase.Json.Decode
import SchemaPhrase.Proofs.Json.Mapping

/-!
# Documents with their mappings in order

A document that is written in the order of a declaration comes back with the keys of every object
in order: `Json.normal` is what comes back. Documents whose objects are ordered all the way down
are left as they are (`normal_object_eq_self`), and the fields of an object keep their values
(`get?_normalFields`).
-/

set_option autoImplicit false

namespace SchemaPhrase.Json

mutual

/-- The document with the keys of every object in order and each once. -/
def normal : Json → Json
  | array items => array (normalItems items)
  | object fields => object (Mapping.ofFields (normalFields fields))
  | other => other

def normalItems : List Json → List Json
  | [] => []
  | item :: items => normal item :: normalItems items

def normalFields : List (String × Json) → List (String × Json)
  | [] => []
  | (key, value) :: fields => (key, normal value) :: normalFields fields

end

theorem normalItems_eq_map (items : List Json) : normalItems items = items.map normal := by
  induction items with
  | nil => simp [normalItems]
  | cons item items ih => simp [normalItems, ih]

theorem normalFields_eq_map (fields : List (String × Json)) :
    normalFields fields = fields.map fun field => (field.1, normal field.2) := by
  induction fields with
  | nil => simp [normalFields]
  | cons field fields ih => simp [normalFields, ih]

theorem keys_normalFields (fields : List (String × Json)) :
    Mapping.keys (normalFields fields) = Mapping.keys fields := by
  simp [normalFields_eq_map, Mapping.keys]

theorem get?_normalFields (fields : List (String × Json)) (key : String) :
    Mapping.get? (normalFields fields) key = (Mapping.get? fields key).map normal := by
  induction fields with
  | nil => simp [normalFields, Mapping.get?]
  | cons field fields ih =>
    obtain ⟨k, value⟩ := field
    by_cases he : k = key <;> simp [normalFields, Mapping.get?, he, ih]

theorem get?_normal {fields : List (String × Json)} (h : (Mapping.keys fields).Nodup)
    (key : String) :
    Mapping.get? (Mapping.ofFields (normalFields fields)) key =
      (Mapping.get? fields key).map normal := by
  rw [Mapping.get?_ofFields (by rwa [keys_normalFields]), get?_normalFields]

/-- **An ordered object** whose values are normal is normal. -/
theorem normal_object_eq_self {fields : Mapping} (h : fields.Ordered)
    (hvalues : ∀ field ∈ fields, normal field.2 = field.2) :
    normal (object fields) = object fields := by
  have hmap : normalFields fields = fields := by
    rw [normalFields_eq_map]
    refine (List.map_congr_left fun field hf => ?_).trans (List.map_id fields)
    exact Prod.ext rfl (hvalues field hf)
  rw [normal, hmap, Mapping.ofFields_eq_self h]

theorem normal_ofOption {α : Type} {write : α → Json}
    (h : ∀ value, (write value).normal = write value) (value? : Option α) :
    (ofOption write value?).normal = ofOption write value? := by
  cases value? with
  | none => rfl
  | some value => exact h value

theorem normal_ofStrings (texts : List String) : (ofStrings texts).normal = ofStrings texts := by
  rw [ofStrings, normal, normalItems_eq_map, List.map_map]
  rfl

end SchemaPhrase.Json
