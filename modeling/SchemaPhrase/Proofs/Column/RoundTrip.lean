import SchemaPhrase.Proofs.Column.Invariant
import SchemaPhrase.Proofs.Constraint
import SchemaPhrase.Proofs.DataType.Codec

/-!
# Columns written and read back

`Reachable.roundTrip`: the written form of every column is read back as that column, under any
settings that take the data type from `dtype`, and the form in the order of the declaration is the
same mapping.

What is needed of a mapping is that it gives every field of the column, and no other key
(`Writes`); then no field is left to the data type, and the check has nothing to correct
(`ofMapping_of_writes`). Both written forms have the same fields but for the document of the
reference (`writtenFields`).
-/

set_option autoImplicit false

namespace SchemaPhrase

/-! ## Values read back -/

theorem DefaultValue.optionalOfJson?_document (value : Option DefaultValue) :
    optionalOfJson? (.ofOption document value) = some value := by
  cases value with
  | none => rfl
  | some value =>
    cases value with
    | text value => rfl
    | int value =>
      show ((Decimal.toInt64? value.toInt).map int).map some = _
      rw [Decimal.toInt64?_toInt]
      rfl

theorem normalizeName_of_forall {name : String} (h : ∀ c ∈ name.toList, Text.isBlank c = false) :
    normalizeName name = name := by
  rw [normalizeName, Text.squeeze, List.filter_eq_self.2 (by simpa using h), String.ofList_toList]

namespace Column

theorem get?_referenceMapping (reference : Reference) (key : String) :
    (referenceMapping (some reference)).get? key =
      Mapping.get? [("table", .string reference.table), ("column", .string reference.column)]
        key :=
  Mapping.get?_ofFields (by simp [Mapping.keys]) key

theorem optionalOfJson?_referenceMapping (reference : Option Reference) :
    Reference.optionalOfJson? (.object (referenceMapping reference)) = some reference := by
  cases reference with
  | none => rfl
  | some reference =>
    exact Reference.optionalOfJson?_of_get? (get?_referenceMapping reference "table")
      (get?_referenceMapping reference "column")

/-! ## Mappings that say what a column is -/

/-- The keys under which a column is written. -/
def writtenKeys : List String :=
  ["name", "dtype", "nullable", "unique", "default", "check", "pk", "fk"]

/-- A mapping that gives every field of a column under its own key, and nothing else. -/
structure Writes (raw : Mapping) (column : Column) : Prop where
  keys : ∀ key, raw.keys.contains key = writtenKeys.contains key
  dtype : ∃ fields, raw.get? "dtype" = some (.object fields) ∧
    DataType.ofMapping fields = .ok column.fields.dtype
  name : (raw.get? "name").bind FieldSet.readName? = some column.fields.name
  nullable : (raw.get? "nullable").bind FieldSet.readFlag? = some column.fields.nullable
  unique : (raw.get? "unique").bind FieldSet.readFlag? = some column.fields.unique
  pk : (raw.get? "pk").bind FieldSet.readFlag? = some column.fields.pk
  default : (raw.get? "default").bind DefaultValue.optionalOfJson? = some column.fields.default
  check : (raw.get? "check").bind Json.optionalString? = some column.fields.check
  fk : (raw.get? "fk").bind Reference.optionalOfJson? = some column.fields.fk

theorem explicit_of_get? {α : Type} {field : ColumnField} {read? : Json → Option α}
    {current given : α} {raw : Mapping} (h : (raw.get? field.key).bind read? = some given) :
    FieldSet.explicit field read? current raw = .ok given := by
  obtain ⟨value, hvalue, hread⟩ := Option.bind_eq_some_iff.1 h
  have hselect : FieldSet.select? raw field.keys = some value := by
    rw [FieldSet.select?_eq_findSome?, ColumnField.keys, List.findSome?_cons, hvalue]
  simp only [FieldSet.explicit, hselect, hread]

section
variable {raw : Mapping} {column : Column} (hw : Writes raw column)
include hw

/-- Every field but the type is given, whatever the data type says. -/
theorem override_of_writes (fields : FieldSet) :
    fields.override raw = .ok { column.fields with dtype := fields.dtype } := by
  unfold FieldSet.override
  rw [explicit_of_get? hw.name, explicit_of_get? hw.nullable, explicit_of_get? hw.unique,
    explicit_of_get? hw.pk, explicit_of_get? hw.default, explicit_of_get? hw.check,
    explicit_of_get? hw.fk]
  rfl

theorem normalize_of_writes {settings : ColumnSettings}
    (hs : selectKey? writtenKeys settings.dtypeAliases = some "dtype") :
    FieldSet.normalize raw settings = .lift (.ok column.fields) := by
  obtain ⟨fields, hfields, hdtype⟩ := hw.dtype
  have hselect : FieldSet.select? raw settings.dtypeAliases = some (.object fields) := by
    have hkeys : raw.keys.contains = writtenKeys.contains := funext hw.keys
    rw [FieldSet.select?, selectKey?, hkeys]
    exact (congrArg (Option.bind · raw.get?) hs).trans hfields
  obtain ⟨name, hname, -⟩ := Option.bind_eq_some_iff.1 hw.name
  have hnamed : FieldSet.select? raw ColumnField.name.keys = some name := by
    rw [FieldSet.select?_eq_findSome?]
    simp [ColumnField.keys, ColumnField.key, hname]
  have hoverride : (FieldSet.ofType "" column.fields.dtype).overrideNamed raw =
      .ok column.fields := by
    rw [FieldSet.overrideNamed, hnamed]
    exact override_of_writes hw _
  have hread : FieldSet.ofDatatype (.object fields) =
      .lift (.ok (.ofType "" column.fields.dtype)) := by
    show Traced.lift ((DataType.ofMapping fields).mapError ColumnError.dataType) >>= _ = _
    rw [hdtype]
    exact Traced.lift_ok_bind column.fields.dtype _
  simp only [FieldSet.normalize, hselect, hread, Traced.lift_ok_bind, hoverride]

/-- **A mapping that says what a valid column is** is read as that column. -/
theorem ofMapping_of_writes (hvalid : column.Valid) {settings : ColumnSettings}
    (hs : selectKey? writtenKeys settings.dtypeAliases = some "dtype") :
    ofMapping raw settings = .lift (.ok column) := by
  rw [ofMapping, normalize_of_writes hw hs, Traced.lift_ok_bind, validate_of_valid hvalid]

end

/-! ## The written forms -/

/-- The fields of a written column, with a document for the reference. -/
def writtenFields (column : Column) (fk : Json) : List (String × Json) :=
  [("name", .string column.fields.name), ("dtype", .object column.fields.dtype.toMapping),
    ("nullable", .bool column.fields.nullable), ("unique", .bool column.fields.unique),
    ("default", .ofOption DefaultValue.document column.fields.default),
    ("check", .ofOption .string column.fields.check), ("pk", .bool column.fields.pk), ("fk", fk)]

theorem keys_writtenFields (column : Column) (fk : Json) :
    Mapping.keys (writtenFields column fk) = writtenKeys := rfl

theorem nodup_writtenKeys : writtenKeys.Nodup := by decide

theorem writes_of_get? {column : Column} (hvalid : column.Valid) {fk : Json}
    (hfk : Reference.optionalOfJson? fk = some column.fields.fk) {raw : Mapping}
    (h : ∀ key, raw.get? key = Mapping.get? (writtenFields column fk) key) :
    Writes raw column := by
  constructor
  · intro key
    rw [Mapping.contains_keys, h, ← Mapping.contains_keys, keys_writtenFields]
  · rw [h]
    exact ⟨_, rfl, DataType.ofMapping_toMapping hvalid.dtype⟩
  · rw [h]
    exact congrArg some (normalizeName_of_forall hvalid.name)
  · rw [h]
    rfl
  · rw [h]
    rfl
  · rw [h]
    rfl
  · rw [h]
    exact DefaultValue.optionalOfJson?_document _
  · rw [h]
    exact Json.optionalString?_ofOption _
  · rw [h]
    exact hfk

theorem writes_toMapping {column : Column} (h : column.Valid) : Writes column.toMapping column :=
  writes_of_get? h (optionalOfJson?_referenceMapping _)
    (Mapping.get?_ofFields (keys_writtenFields _ _ ▸ nodup_writtenKeys))

theorem writes_document {column : Column} (h : column.Valid) :
    Writes (writtenFields column (Reference.optionalDocument column.fields.fk)) column :=
  writes_of_get? h (Reference.optionalOfJson?_document _) fun _ => rfl

theorem normal_optionalDocument (reference : Option Reference) :
    (Reference.optionalDocument reference).normal = .object (referenceMapping reference) := by
  cases reference <;> rfl

/-- **The form in the order of the declaration** is the same mapping. -/
theorem normal_document (column : Column) : column.document.normal = column.toJson := by
  have hfields : Json.normalFields
      (writtenFields column (Reference.optionalDocument column.fields.fk)) =
      writtenFields column (.object (referenceMapping column.fields.fk)) := by
    have hdefault : (Json.ofOption DefaultValue.document column.fields.default).normal =
        .ofOption DefaultValue.document column.fields.default :=
      Json.normal_ofOption (fun value => by cases value <;> rfl) _
    have hcheck : (Json.ofOption .string column.fields.check).normal =
        .ofOption .string column.fields.check :=
      Json.normal_ofOption (fun _ => rfl) _
    rw [Json.normalFields_eq_map]
    simp only [writtenFields, List.map_cons, List.map_nil, hdefault, hcheck,
      DataType.normal_toMapping, normal_optionalDocument]
    rfl
  show Json.object (Mapping.ofFields (Json.normalFields
    (writtenFields column (Reference.optionalDocument column.fields.fk)))) = _
  rw [hfields]
  rfl

/-- **Round trip.** Every column is read back from its written form, under any settings that take
the data type from `dtype`, and from the form in the order of the declaration under the standard
ones. -/
theorem Reachable.roundTrip {column : Column} (h : Reachable column) :
    (∀ settings : ColumnSettings, selectKey? writtenKeys settings.dtypeAliases = some "dtype" →
      Column.ofJson column.toJson settings = .lift (.ok column)) ∧
    column.document.normal = column.toJson ∧
    Column.ofJson column.document .standard = .lift (.ok column) ∧
    Column.ofJson column.document.normal .standard = .lift (.ok column) := by
  have hstandard : selectKey? writtenKeys ColumnSettings.standard.dtypeAliases = some "dtype" := by
    decide
  have hread : ∀ settings : ColumnSettings,
      selectKey? writtenKeys settings.dtypeAliases = some "dtype" →
      Column.ofJson column.toJson settings = .lift (.ok column) := fun _ hs =>
    ofMapping_of_writes (writes_toMapping h.valid) h.valid hs
  refine ⟨hread, normal_document column, ?_, ?_⟩
  · exact ofMapping_of_writes (writes_document h.valid) h.valid hstandard
  · rw [normal_document]
    exact hread _ hstandard

/-- A key with a reference, read back where `dtype` is neither the first alias nor the last. -/
theorem roundTrip_reference :
    ∃ column : Column,
      (([.primaryKey, .references ⟨"accounts", "id"⟩].foldl FieldSet.apply
        (.ofType "account id" (.exact .numeric 19 0))).validate .standard).result = .ok column ∧
      selectKey? writtenKeys ["type", "dtype", "name"] = some "dtype" ∧
      Column.ofJson column.toJson ⟨["type", "dtype", "name"], .reject⟩ = .lift (.ok column) ∧
      column.document.normal = column.toJson ∧
      Column.ofJson column.document .standard = .lift (.ok column) ∧
      Column.ofJson column.document.normal .standard = .lift (.ok column) := by
  have hdtype : DataType.ofJson (.string "numeric(19, 0)") = .ok (.exact .numeric 19 0) := by
    decide +kernel
  have hbuild : (([.primaryKey, .references ⟨"accounts", "id"⟩].foldl FieldSet.apply
      (.ofType "account id" (.exact .numeric 19 0))).validate .standard).result =
        .ok ⟨"accountid", .exact .numeric 19 0, false, false, none, none, true,
          some ⟨"accounts", "id"⟩⟩ := rfl
  have halias : selectKey? writtenKeys ["type", "dtype", "name"] = some "dtype" := by decide
  obtain ⟨hread, hforms⟩ := Reachable.roundTrip (.build hdtype hbuild)
  exact ⟨_, hbuild, halias, hread ⟨["type", "dtype", "name"], .reject⟩ halias, hforms⟩

end Column

end SchemaPhrase
