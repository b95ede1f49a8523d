import SchemaPhrase.Column.Fields
import SchemaPhrase.Proofs.Json.Mapping
import SchemaPhrase.Proofs.Traced

/-!
# Explicit fields of several mappings

Fields that are set from one mapping and then from another are set from the first overwritten by
the second (`override_overwrite`), as long as both write every field under its own key (`OwnKeys`).
For one field this is `explicit_overwrite`: what the second mapping gives counts, else what the
first one gave.
-/

set_option autoImplicit false

namespace SchemaPhrase

/-- No field stands under its other key. -/
def OwnKeys (raw : Mapping) : Prop :=
  ∀ field : ColumnField, raw.get? field.capitalizedKey = none

namespace FieldSet

theorem select?_keys (raw : Mapping) (field : ColumnField) :
    select? raw field.keys = (raw.get? field.key).or (raw.get? field.capitalizedKey) := by
  rw [select?_eq_findSome?, ColumnField.keys, List.findSome?_cons]
  cases raw.get? field.key with
  | some value => rfl
  | none => cases h : raw.get? field.capitalizedKey <;> simp [h]

theorem select?_of_ownKeys {raw : Mapping} (h : OwnKeys raw) (field : ColumnField) :
    select? raw field.keys = raw.get? field.key := by
  rw [select?_keys, h field, Option.or_none]

/-- An alias that alone is present is selected, wherever it stands among the aliases. -/
theorem select?_of_only {raw : Mapping} {aliases : List String} {own : String} (h : own ∈ aliases)
    (hother : ∀ key ∈ aliases, key ≠ own → raw.get? key = none) :
    select? raw aliases = raw.get? own := by
  rw [select?_eq_findSome?]
  induction aliases with
  | nil => cases h
  | cons key aliases ih =>
    have ihother : ∀ k ∈ aliases, k ≠ own → raw.get? k = none := fun k hk =>
      hother k (List.mem_cons_of_mem _ hk)
    rw [List.findSome?_cons]
    by_cases he : key = own
    · subst he
      cases hget : raw.get? key with
      | some value => rfl
      | none =>
        show aliases.findSome? raw.get? = none
        rw [List.findSome?_eq_none_iff]
        intro k hk
        by_cases hk' : k = key
        · rw [hk', hget]
        · exact ihother k hk hk'
    · rw [hother key List.mem_cons_self he]
      exact ih ((List.mem_cons.1 h).resolve_left (Ne.symm he)) ihother

theorem explicit_of_absent {α : Type} {field : ColumnField} {read? : Json → Option α}
    {raw : Mapping} (current : α) (h : select? raw field.keys = none) :
    explicit field read? current raw = .ok current := by
  simp only [explicit, h]

section
variable {base changes : Mapping} (hnodup : changes.keys.Nodup) (hbase : OwnKeys base)
  (hchanges : OwnKeys changes)
include hnodup hbase hchanges

theorem ownKeys_overwrite : OwnKeys (base.overwrite changes) := by
  intro field
  rw [Mapping.get?_overwrite hnodup, hchanges field, hbase field, Option.or_none]

theorem explicit_overwrite {α : Type} {field : ColumnField} {read? : Json → Option α}
    {current given : α} (h : explicit field read? current base = .ok given) :
    explicit field read? current (base.overwrite changes) =
      explicit field read? given changes := by
  have hselect : select? (base.overwrite changes) field.keys =
      (changes.get? field.key).or (base.get? field.key) := by
    rw [select?_of_ownKeys (ownKeys_overwrite hnodup hbase hchanges), Mapping.get?_overwrite hnodup]
  have hlater := select?_of_ownKeys hchanges field
  cases hget : changes.get? field.key with
  | some value =>
    rw [hget] at hselect hlater
    simp only [explicit, hselect, hlater, Option.some_or]
  | none =>
    rw [hget, Option.none_or, ← select?_of_ownKeys hbase field] at hselect
    rw [hget] at hlater
    rw [explicit_of_absent given hlater, ← h]
    simp only [explicit, hselect]

end

/-- Fields are set one by one, and the type stays. -/
theorem override_eq_ok {fields changed : FieldSet} {raw : Mapping} :
    fields.override raw = .ok changed ↔
      explicit .name readName? fields.name raw = .ok changed.name ∧
      explicit .nullable readFlag? fields.nullable raw = .ok changed.nullable ∧
      explicit .unique readFlag? fields.unique raw = .ok changed.unique ∧
      explicit .primaryKey readFlag? fields.pk raw = .ok changed.pk ∧
      explicit .default DefaultValue.optionalOfJson? fields.default raw = .ok changed.default ∧
      explicit .check Json.optionalString? fields.check raw = .ok changed.check ∧
      explicit .foreignKey Reference.optionalOfJson? fields.fk raw = .ok changed.fk ∧
      changed.dtype = fields.dtype := by
  constructor
  · intro h
    obtain ⟨name, hname, h⟩ := bind_eq_ok.1 h
    obtain ⟨nullable, hnullable, h⟩ := bind_eq_ok.1 h
    obtain ⟨unique, hunique, h⟩ := bind_eq_ok.1 h
    obtain ⟨pk, hpk, h⟩ := bind_eq_ok.1 h
    obtain ⟨default, hdefault, h⟩ := bind_eq_ok.1 h
    obtain ⟨check, hcheck, h⟩ := bind_eq_ok.1 h
    obtain ⟨fk, hfk, h⟩ := bind_eq_ok.1 h
    cases h
    exact ⟨hname, hnullable, hunique, hpk, hdefault, hcheck, hfk, rfl⟩
  · rintro ⟨hname, hnullable, hunique, hpk, hdefault, hcheck, hfk, hdtype⟩
    rw [override, hname, hnullable, hunique, hpk, hdefault, hcheck, hfk]
    cases changed
    cases hdtype
    rfl

/-- The fields with another type. -/
def withType (fields : FieldSet) (dtype : DataType) : FieldSet := { fields with dtype }

theorem override_withType (fields : FieldSet) (dtype : DataType) (raw : Mapping) :
    (fields.withType dtype).override raw = (·.withType dtype) <$> fields.override raw := by
  simp only [override, withType, map_bind, map_pure]

/-- **Setting fields twice** is setting them from the one mapping overwritten by the other. -/
theorem override_overwrite {base changes : Mapping} (hnodup : changes.keys.Nodup)
    (hbase : OwnKeys base) (hchanges : OwnKeys changes) {fields merged : FieldSet}
    (h : fields.override base = .ok merged) :
    fields.override (base.overwrite changes) = merged.override changes := by
  obtain ⟨hname, hnullable, hunique, hpk, hdefault, hcheck, hfk, hdtype⟩ := override_eq_ok.1 h
  unfold override
  rw [explicit_overwrite hnodup hbase hchanges hname,
    explicit_overwrite hnodup hbase hchanges hnullable,
    explicit_overwrite hnodup hbase hchanges hunique,
    explicit_overwrite hnodup hbase hchanges hpk,
    explicit_overwrite hnodup hbase hchanges hdefault,
    explicit_overwrite hnodup hbase hchanges hcheck,
    explicit_overwrite hnodup hbase hchanges hfk, hdtype]

end FieldSet

end SchemaPhrase
