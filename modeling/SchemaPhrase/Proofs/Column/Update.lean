import Mathlib.Data.List.Basic
import SchemaPhrase.Proofs.Column.Override
import SchemaPhrase.Proofs.Column.RoundTrip

/-!
# Changes against building anew

Changing a column comes to the same as building one anew from its mapping with the changes written
over it (`Reachable.updated_eq_ofMapping`). A phrase among the changes says every field but the
name and the reference, so only those two are kept of the old mapping. The two sides agree in their
events, in the column and in the cause of a failure.

Both sides start from fields of their own, but the mapping that is written over gives each field
that the changes do not (`override_toMapping`, `override_kept`), so what is set in the end is the
same.
-/

set_option autoImplicit false

namespace SchemaPhrase

/-- The data type may stand under `dtype`, and no alias of it is a key of another field. -/
structure ColumnSettings.Separate (settings : ColumnSettings) : Prop where
  dtype : "dtype" ∈ settings.dtypeAliases
  fields : ∀ field : ColumnField, ∀ key ∈ field.keys, key ∉ settings.dtypeAliases

/-- Changes that name every field by its own key, and the data type by `dtype`. Keys that mean
nothing may stand among them. -/
structure PlainChanges (settings : ColumnSettings) (changes : Mapping) : Prop where
  nodup : changes.keys.Nodup
  ownKeys : OwnKeys changes
  dtype : ∀ key ∈ settings.dtypeAliases, key ≠ "dtype" → changes.get? key = none

namespace Column

/-- The fields of a column that a phrase does not say. -/
def keptKeys : List String := ["name", "fk"]

/-! ## What the old mapping gives -/

theorem get?_toMapping_of_notMem {column : Column} (hvalid : column.Valid) {key : String}
    (h : key ∉ writtenKeys) : column.toMapping.get? key = none := by
  have hkeys := (writes_toMapping hvalid).keys key
  rw [Mapping.contains_keys, Bool.eq_iff_iff] at hkeys
  cases hget : column.toMapping.get? key with
  | none => rfl
  | some value => simp_all

theorem ownKeys_toMapping {column : Column} (hvalid : column.Valid) :
    OwnKeys column.toMapping := by
  intro field
  refine get?_toMapping_of_notMem hvalid ?_
  cases field <;> decide

theorem get?_kept (column : Column) (key : String) :
    (column.toMapping.restrict keptKeys).get? key =
      if key ∈ keptKeys then column.toMapping.get? key else none :=
  Mapping.get?_restrict keptKeys column.toMapping key

theorem ownKeys_kept (column : Column) : OwnKeys (column.toMapping.restrict keptKeys) := by
  intro field
  rw [get?_kept, if_neg]
  cases field <;> decide

section
variable {column : Column} (hvalid : column.Valid) {changes : Mapping}
  (hnodup : changes.keys.Nodup) (hchanges : OwnKeys changes)
include hvalid hnodup hchanges

/-- Whatever the type says, the old mapping and the changes set the fields that the changes set on
the old column. -/
theorem override_toMapping (fields : FieldSet) :
    fields.override (column.toMapping.overwrite changes) =
      { column.fields with dtype := fields.dtype }.override changes :=
  FieldSet.override_overwrite hnodup (ownKeys_toMapping hvalid) hchanges
    (override_of_writes (writes_toMapping hvalid) fields)

/-- With only the name and the reference kept, the other fields stay as the phrase says. -/
theorem override_kept (said : FieldSet) :
    said.override ((column.toMapping.restrict keptKeys).overwrite changes) =
      { said with name := column.fields.name, fk := column.fields.fk }.override changes := by
  have hw := writes_toMapping hvalid
  have hkept : ∀ key ∈ keptKeys, (column.toMapping.restrict keptKeys).get? key =
      column.toMapping.get? key := fun key hk => (get?_kept column key).trans (if_pos hk)
  have hstays : ∀ {α : Type} {field : ColumnField} {read? : Json → Option α} {current : α},
      field.key ∉ keptKeys →
      FieldSet.explicit field read? current (column.toMapping.restrict keptKeys) =
        .ok current := by
    intro α field read? current hf
    apply FieldSet.explicit_of_absent
    rw [FieldSet.select?_of_ownKeys (ownKeys_kept column), get?_kept, if_neg hf]
  refine FieldSet.override_overwrite hnodup (ownKeys_kept column) hchanges
    (FieldSet.override_eq_ok.2 ?_)
  refine ⟨explicit_of_get? ?_, hstays (by decide), hstays (by decide), hstays (by decide),
    hstays (by decide), hstays (by decide), explicit_of_get? ?_, rfl⟩
  · exact (congrArg (·.bind FieldSet.readName?) (hkept "name" (by decide))).trans hw.name
  · exact (congrArg (·.bind Reference.optionalOfJson?) (hkept "fk" (by decide))).trans hw.fk

end

/-! ## The data type -/

section
variable {column : Column} (hvalid : column.Valid) {settings : ColumnSettings}
  (hs : settings.Separate) {changes : Mapping} (hc : PlainChanges settings changes)

include hs in
theorem notMem_writtenKeys {key : String} (hk : key ∈ settings.dtypeAliases)
    (hne : key ≠ "dtype") : key ∉ writtenKeys := by
  have hall : ∀ written ∈ writtenKeys, written = "dtype" ∨
      written ∈ [ColumnField.name, .nullable, .unique, .primaryKey, .default, .check,
        .foreignKey].flatMap ColumnField.keys := by decide
  intro hw
  rcases hall key hw with rfl | hf
  · exact hne rfl
  · obtain ⟨field, -, hfield⟩ := List.mem_flatMap.1 hf
    exact hs.fields field key hfield hk

include hs hc in
theorem select?_changes : FieldSet.select? changes settings.dtypeAliases = changes.get? "dtype" :=
  FieldSet.select?_of_only hs.dtype hc.dtype

include hs hc in
theorem select?_overwrite {base : Mapping}
    (hbase : ∀ key, key ∉ writtenKeys → base.get? key = none) :
    FieldSet.select? (base.overwrite changes) settings.dtypeAliases =
      (changes.get? "dtype").or (base.get? "dtype") := by
  rw [← Mapping.get?_overwrite hc.nodup]
  refine FieldSet.select?_of_only hs.dtype fun key hk hne => ?_
  rw [Mapping.get?_overwrite hc.nodup, hc.dtype key hk hne,
    hbase key (notMem_writtenKeys hs hk hne), Option.or_none]

include hvalid in
theorem overrideNamed_overwrite {base : Mapping} (hnodup : changes.keys.Nodup)
    (hbase : base.get? "name" = column.toMapping.get? "name") (fields : FieldSet) :
    fields.overrideNamed (base.overwrite changes) = fields.override (base.overwrite changes) := by
  obtain ⟨name, hname, -⟩ := Option.bind_eq_some_iff.1 (writes_toMapping hvalid).name
  have hget : ((base.overwrite changes).get? "name").isSome = true := by
    rw [Mapping.get?_overwrite hnodup, hbase, hname]
    cases changes.get? "name" <;> rfl
  have hselect : (FieldSet.select? (base.overwrite changes) ColumnField.name.keys).isNone =
      false := by
    rw [FieldSet.select?_keys]
    cases hfound : (base.overwrite changes).get? ColumnField.name.key with
    | none => exact absurd (hfound ▸ hget) (by simp)
    | some value => rfl
  rw [FieldSet.overrideNamed, hselect]
  rfl

end

/-! ## The two ways to the same fields -/

/-- The run that sets the changes and checks what comes out. -/
def finish (changes : Mapping) (settings : ColumnSettings) (fields : FieldSet) :
    Traced ColumnError Column := do
  let changed ← .lift (fields.override changes)
  changed.validate settings

section
variable {column : Column} (hvalid : column.Valid) {settings : ColumnSettings}
  (hs : settings.Separate) {changes : Mapping} (hc : PlainChanges settings changes)
include hvalid hs hc

theorem ofMapping_toMapping_overwrite {datatype : Json}
    (hselect : (changes.get? "dtype").or (column.toMapping.get? "dtype") = some datatype) :
    ofMapping (column.toMapping.overwrite changes) settings = (do
      let said ← FieldSet.ofDatatype datatype
      finish changes settings { column.fields with dtype := said.dtype }) := by
  have habsent : ∀ key, key ∉ writtenKeys → column.toMapping.get? key = none := fun _ =>
    get?_toMapping_of_notMem hvalid
  rw [ofMapping, FieldSet.normalize, select?_overwrite hs hc habsent, hselect]
  show (FieldSet.ofDatatype datatype >>= fun said => _) >>= _ = _
  rw [bind_assoc]
  refine congrArg (FieldSet.ofDatatype datatype >>= ·) (funext fun said => ?_)
  rw [overrideNamed_overwrite hvalid hc.nodup rfl, override_toMapping hvalid hc.nodup hc.ownKeys]
  rfl

theorem ofMapping_kept_overwrite {datatype : Json}
    (hdtype : changes.get? "dtype" = some datatype) :
    ofMapping ((column.toMapping.restrict keptKeys).overwrite changes) settings = (do
      let said ← FieldSet.ofDatatype datatype
      finish changes settings
        { said with name := column.fields.name, fk := column.fields.fk }) := by
  have habsent : ∀ key, key ∉ writtenKeys →
      (column.toMapping.restrict keptKeys).get? key = none := by
    intro key hk
    rw [get?_kept, get?_toMapping_of_notMem hvalid hk, ite_self]
  have hname : (column.toMapping.restrict keptKeys).get? "name" =
      column.toMapping.get? "name" := (get?_kept column "name").trans (if_pos (by decide))
  rw [ofMapping, FieldSet.normalize, select?_overwrite hs hc habsent, hdtype, Option.some_or]
  show (FieldSet.ofDatatype datatype >>= fun said => _) >>= _ = _
  rw [bind_assoc]
  refine congrArg (FieldSet.ofDatatype datatype >>= ·) (funext fun said => ?_)
  rw [overrideNamed_overwrite hvalid hc.nodup hname, override_kept hvalid hc.nodup hc.ownKeys]
  rfl

end

/-! ## Changes -/

theorem updated_eq_bind (column : Column) (changes : Mapping) (settings : ColumnSettings) :
    column.updated changes settings = column.rebased changes settings >>= finish changes settings :=
  rfl

theorem ofDatatype_of_kind {datatype : Json} (hmapping : datatype.kind ≠ .mapping)
    (hstring : datatype.kind ≠ .string) :
    FieldSet.ofDatatype datatype = .fail (.unsupportedDatatype datatype.kind) := by
  cases datatype with
  | object fields => exact absurd rfl hmapping
  | string text => exact absurd rfl hstring
  | _ => rfl

theorem fail_bind {α β : Type} (cause : ColumnError) (next : α → Traced ColumnError β) :
    (Traced.fail cause >>= next) = .fail cause := rfl

section
variable {column : Column} (hvalid : column.Valid) {settings : ColumnSettings}
  (hs : settings.Separate) {changes : Mapping} (hc : PlainChanges settings changes)
include hvalid hs hc

theorem updated_of_get?_none (h : changes.get? "dtype" = none) :
    column.updated changes settings =
      ofMapping (column.toMapping.overwrite changes) settings := by
  obtain ⟨fields, hfields, hdtype⟩ := (writes_toMapping hvalid).dtype
  have hselect : (changes.get? "dtype").or (column.toMapping.get? "dtype") =
      some (.object fields) := by rw [h, Option.none_or, hfields]
  have hsaid : FieldSet.ofDatatype (.object fields) =
      .lift (.ok (.ofType "" column.fields.dtype)) := by
    show Traced.lift ((DataType.ofMapping fields).mapError ColumnError.dataType) >>= _ = _
    rw [hdtype]
    exact Traced.lift_ok_bind column.fields.dtype _
  rw [ofMapping_toMapping_overwrite hvalid hs hc hselect, hsaid, Traced.lift_ok_bind,
    updated_eq_bind, rebased, select?_changes hs hc, h]
  exact pure_bind column.fields _

theorem updated_of_get?_object {fields : Mapping}
    (h : changes.get? "dtype" = some (.object fields)) :
    column.updated changes settings =
      ofMapping (column.toMapping.overwrite changes) settings := by
  have hselect : (changes.get? "dtype").or (column.toMapping.get? "dtype") =
      some (.object fields) := by rw [h, Option.some_or]
  rw [ofMapping_toMapping_overwrite hvalid hs hc hselect, updated_eq_bind, rebased,
    select?_changes hs hc, h]
  simp only [FieldSet.ofDatatype, bind_assoc, pure_bind]
  rfl

theorem updated_of_get?_string {phrase : String}
    (h : changes.get? "dtype" = some (.string phrase)) :
    column.updated changes settings =
      ofMapping ((column.toMapping.restrict keptKeys).overwrite changes) settings := by
  rw [ofMapping_kept_overwrite hvalid hs hc h, updated_eq_bind, rebased, select?_changes hs hc, h]
  simp only [bind_assoc, pure_bind]

omit hvalid in
theorem updated_of_kind {datatype : Json} (h : changes.get? "dtype" = some datatype)
    (hmapping : datatype.kind ≠ .mapping) (hstring : datatype.kind ≠ .string) :
    column.updated changes settings = .fail (.unsupportedDatatype datatype.kind) := by
  have hfail := ofDatatype_of_kind hmapping hstring
  rw [updated_eq_bind, rebased, select?_changes hs hc, h]
  cases datatype with
  | object fields => exact absurd rfl hmapping
  | _ => simp only [hfail, fail_bind]

end

/-- **Changing is building anew.** Without a phrase among the changes, the changed column is the one
that its mapping describes with the changes written over it; with a phrase, the one that its name
and its reference describe with the changes over them. Any other data type is refused on every
way. -/
theorem Reachable.updated_eq_ofMapping {column : Column} (h : Reachable column)
    {settings : ColumnSettings} (hs : settings.Separate) {changes : Mapping}
    (hc : PlainChanges settings changes) :
    (changes.get? "dtype" = none ∨ (∃ fields, changes.get? "dtype" = some (.object fields)) →
      column.updated changes settings =
        ofMapping (column.toMapping.overwrite changes) settings) ∧
    (∀ phrase, changes.get? "dtype" = some (.string phrase) →
      column.updated changes settings =
        ofMapping ((column.toMapping.restrict keptKeys).overwrite changes) settings) ∧
    ∀ datatype, changes.get? "dtype" = some datatype → datatype.kind ≠ .mapping →
      datatype.kind ≠ .string →
      column.updated changes settings = .fail (.unsupportedDatatype datatype.kind) ∧
      ofMapping (column.toMapping.overwrite changes) settings =
        .fail (.unsupportedDatatype datatype.kind) ∧
      ofMapping ((column.toMapping.restrict keptKeys).overwrite changes) settings =
        .fail (.unsupportedDatatype datatype.kind) := by
  refine ⟨?_, fun phrase => updated_of_get?_string h.valid hs hc, ?_⟩
  · rintro (hnone | ⟨fields, hfields⟩)
    · exact updated_of_get?_none h.valid hs hc hnone
    · exact updated_of_get?_object h.valid hs hc hfields
  · intro datatype hget hmapping hstring
    have hfail := ofDatatype_of_kind hmapping hstring
    have hselect : (changes.get? "dtype").or (column.toMapping.get? "dtype") = some datatype := by
      rw [hget, Option.some_or]
    refine ⟨updated_of_kind hs hc hget hmapping hstring, ?_, ?_⟩
    · rw [ofMapping_toMapping_overwrite h.valid hs hc hselect, hfail, fail_bind]
    · rw [ofMapping_kept_overwrite h.valid hs hc hget, hfail, fail_bind]

/-- A unique column that becomes a serial one: the phrase resets what it does not say. -/
theorem updated_eq_ofMapping_serial :
    ∃ column : Column,
      (parse "user id" "varchar( 20 ) not null unique" .standard).result = .ok column ∧
      ColumnSettings.Separate ⟨["type", "dtype"], .reject⟩ ∧
      PlainChanges ⟨["type", "dtype"], .reject⟩
        [("check", .string "check(x > 0)"), ("dtype", .string "serial"), ("note", .null)] ∧
      column.updated
          [("check", .string "check(x > 0)"), ("dtype", .string "serial"), ("note", .null)]
          ⟨["type", "dtype"], .reject⟩ =
        ofMapping ((column.toMapping.restrict keptKeys).overwrite
          [("check", .string "check(x > 0)"), ("dtype", .string "serial"), ("note", .null)])
          ⟨["type", "dtype"], .reject⟩ ∧
      (column.updated
          [("check", .string "check(x > 0)"), ("dtype", .string "serial"), ("note", .null)]
          ⟨["type", "dtype"], .reject⟩).result =
        .ok ⟨"userid", .plain .integer, false, false, some (.text Phrase.serialDefault),
          some "check(x > 0)", false, none⟩ := by
  have hparse : (parse "user id" "varchar( 20 ) not null unique" .standard).result =
      .ok ⟨"userid", .character .varchar 20, false, true, none, none, false, none⟩ := by
    decide +kernel
  have hs : ColumnSettings.Separate ⟨["type", "dtype"], .reject⟩ := by
    refine ⟨by decide, fun field => ?_⟩
    cases field <;> decide
  have hc : PlainChanges ⟨["type", "dtype"], .reject⟩
      [("check", .string "check(x > 0)"), ("dtype", .string "serial"), ("note", .null)] := by
    refine ⟨by decide, fun field => ?_, ?_⟩
    · cases field <;> rfl
    · intro key hk hne
      obtain rfl : key = "type" := by simp_all
      rfl
  obtain ⟨-, hphrase, -⟩ := Reachable.updated_eq_ofMapping (.parse hparse) hs hc
  exact ⟨_, hparse, hs, hc, hphrase "serial" rfl, by decide +kernel⟩

end Column

end SchemaPhrase
