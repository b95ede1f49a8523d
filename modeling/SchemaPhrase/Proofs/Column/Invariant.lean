import Mathlib.Data.List.Basic
import SchemaPhrase.Column.Basic
import SchemaPhrase.Proofs.DataType.Resolve

/-!
# Columns are valid on every path

A column is made by a phrase, by a document or by a builder, and then changed any number of times,
each time under settings of its own (`Reachable`).

* `Reachable.valid`: every such column is `Valid`: no key and no default is nullable, the name has
  no blanks and the type is well-formed;
* `validate_of_valid`: a valid column stays as it is when it is checked again, under any settings.

The paths share two facts about fields that are not checked yet (`FieldSet.Clean`); what `validate`
adds is the same for all of them (`valid_of_validate`).
-/

set_option autoImplicit false

namespace SchemaPhrase

/-! ## Fields before they are checked -/

namespace FieldSet

/-- What holds of the fields before they are checked against each other. -/
structure Clean (fields : FieldSet) : Prop where
  name : ∀ c ∈ fields.name.toList, Text.isBlank c = false
  dtype : fields.dtype.WellFormed

theorem isBlank_of_mem_normalizeName {name : String} {c : Char}
    (h : c ∈ (normalizeName name).toList) : Text.isBlank c = false := by
  rw [normalizeName, String.toList_ofList, Text.squeeze, List.mem_filter] at h
  simpa using h.2

theorem clean_ofType (name : String) {dtype : DataType} (h : dtype.WellFormed) :
    (ofType name dtype).Clean :=
  ⟨fun _ => isBlank_of_mem_normalizeName, h⟩

theorem Clean.apply {fields : FieldSet} (h : fields.Clean) (step : Step) :
    (fields.apply step).Clean := by
  cases step <;> exact ⟨h.name, h.dtype⟩

theorem Clean.foldl_apply {fields : FieldSet} (h : fields.Clean) (steps : List Step) :
    (steps.foldl FieldSet.apply fields).Clean := by
  induction steps generalizing fields with
  | nil => exact h
  | cons step steps ih => exact ih (h.apply step)

theorem result_typeOfPhrase (phrase : String) :
    (typeOfPhrase phrase).result = (DataType.parse phrase).mapError .dataType := by
  have htold : ∀ dtype, (tellFallback phrase dtype).result = .ok () := by
    intro dtype
    simp only [tellFallback]
    split <;> rfl
  unfold typeOfPhrase
  simp only [Traced.result_bind, Traced.result_lift, htold, Traced.result_pure]
  cases DataType.parse phrase <;> rfl

theorem clean_ofPhrase {name phrase : String} {fields : FieldSet}
    (h : (ofPhrase name phrase).result = .ok fields) : fields.Clean := by
  unfold ofPhrase at h
  obtain ⟨parsed, -, h⟩ := Traced.result_bind_eq_ok.1 h
  obtain ⟨dtype, hdtype, h⟩ := Traced.result_bind_eq_ok.1 h
  cases h
  refine ⟨fun _ => isBlank_of_mem_normalizeName, ?_⟩
  rw [result_typeOfPhrase] at hdtype
  exact DataType.wellFormed_of_parse (mapError_eq_ok.1 hdtype)

theorem clean_ofDatatype {datatype : Json} {fields : FieldSet}
    (h : (ofDatatype datatype).result = .ok fields) : fields.Clean := by
  unfold ofDatatype at h
  split at h
  · exact clean_ofPhrase h
  · obtain ⟨dtype, hdtype, h⟩ := Traced.result_bind_eq_ok.1 h
    cases h
    exact clean_ofType "" (DataType.wellFormed_of_ofMapping (mapError_eq_ok.1 hdtype))
  · cases h

theorem explicit_cases {α : Type} {field : ColumnField} {read? : Json → Option α}
    {current given : α} {raw : Mapping} (h : explicit field read? current raw = .ok given) :
    given = current ∨ ∃ value, read? value = some given := by
  unfold explicit at h
  split at h
  · exact .inl (Except.ok.inj h).symm
  · next value _ =>
    split at h
    · next hread => exact .inr ⟨value, Except.ok.inj h ▸ hread⟩
    · cases h

/-- **Explicit fields** keep the type; a name that is given loses its blanks. -/
theorem Clean.override {fields changed : FieldSet} {raw : Mapping} (h : fields.Clean)
    (ho : fields.override raw = .ok changed) : changed.Clean := by
  unfold FieldSet.override at ho
  obtain ⟨name, hname, ho⟩ := bind_eq_ok.1 ho
  obtain ⟨nullable, -, ho⟩ := bind_eq_ok.1 ho
  obtain ⟨unique, -, ho⟩ := bind_eq_ok.1 ho
  obtain ⟨pk, -, ho⟩ := bind_eq_ok.1 ho
  obtain ⟨default, -, ho⟩ := bind_eq_ok.1 ho
  obtain ⟨check, -, ho⟩ := bind_eq_ok.1 ho
  obtain ⟨fk, -, ho⟩ := bind_eq_ok.1 ho
  cases ho
  refine ⟨?_, h.dtype⟩
  rcases explicit_cases hname with rfl | ⟨value, hvalue⟩
  · exact h.name
  · unfold readName? at hvalue
    split at hvalue
    · cases hvalue
      exact fun _ => isBlank_of_mem_normalizeName
    · cases hvalue

theorem clean_normalize {raw : Mapping} {settings : ColumnSettings} {fields : FieldSet}
    (h : (normalize raw settings).result = .ok fields) : fields.Clean := by
  unfold normalize at h
  split at h
  · cases h
  · obtain ⟨said, hsaid, h⟩ := Traced.result_bind_eq_ok.1 h
    have h : said.overrideNamed raw = .ok fields := h
    unfold overrideNamed at h
    split at h
    · cases h
    · exact (clean_ofDatatype hsaid).override h

theorem settleKey_cases {fields settled : FieldSet} {settings : ColumnSettings}
    (h : (fields.settleKey settings).result = .ok settled) :
    fields.pk = true ∧ settled = { fields with nullable := false } ∨
      ¬ (fields.pk = true ∧ fields.nullable = true) ∧ settled = fields := by
  unfold settleKey at h
  split at h
  · next hkey =>
    rw [Bool.and_eq_true] at hkey
    split at h
    · obtain ⟨_, -, h⟩ := Traced.result_bind_eq_ok.1 h
      cases h
      exact .inl ⟨hkey.1, rfl⟩
    · cases h
  · next hkey =>
    rw [Bool.and_eq_true] at hkey
    cases h
    exact .inr ⟨hkey, rfl⟩

end FieldSet

/-! ## Valid columns -/

namespace Column

/-- **What holds of every column**, whatever path it came on. -/
structure Valid (column : Column) : Prop where
  pk : column.fields.pk = true → column.fields.nullable = false
  default : column.fields.default.isSome = true → column.fields.nullable = false
  name : ∀ c ∈ column.fields.name.toList, Text.isBlank c = false
  dtype : column.fields.dtype.WellFormed

theorem Valid.clean {column : Column} (h : column.Valid) : column.fields.Clean :=
  ⟨h.name, h.dtype⟩

theorem valid_of_validate {fields : FieldSet} {settings : ColumnSettings} {column : Column}
    (hclean : fields.Clean) (h : (fields.validate settings).result = .ok column) :
    column.Valid := by
  unfold FieldSet.validate at h
  obtain ⟨settled, hsettled, h⟩ := Traced.result_bind_eq_ok.1 h
  split at h
  · cases h
  · next hdefault =>
    cases h
    have hpk : settled.pk = true → settled.nullable = false := by
      rcases FieldSet.settleKey_cases hsettled with ⟨-, rfl⟩ | ⟨hkey, rfl⟩
      · exact fun _ => rfl
      · exact fun hpk => Bool.eq_false_iff.2 fun hnull => hkey ⟨hpk, hnull⟩
    have hsettledClean : settled.Clean := by
      rcases FieldSet.settleKey_cases hsettled with ⟨-, rfl⟩ | ⟨-, rfl⟩
      · exact ⟨hclean.name, hclean.dtype⟩
      · exact hclean
    refine ⟨hpk, fun hsome => ?_, hsettledClean.name, hsettledClean.dtype⟩
    exact Bool.eq_false_iff.2 fun hnull => hdefault (by rw [hsome, hnull]; rfl)

/-- **A valid column is not touched by a check**, under any settings. -/
theorem validate_of_valid {column : Column} (h : column.Valid) (settings : ColumnSettings) :
    column.fields.validate settings = .lift (.ok column) := by
  have hkey : (column.fields.pk && column.fields.nullable) = false := by
    cases hpk : column.fields.pk with
    | false => rfl
    | true => exact h.pk hpk
  have hdefault : (column.fields.default.isSome && column.fields.nullable) = false := by
    cases hsome : column.fields.default.isSome with
    | false => rfl
    | true => exact h.default hsome
  unfold FieldSet.validate FieldSet.settleKey
  rw [hkey]
  show Traced.bind _ _ = _
  simp [Traced.bind, hdefault]
  rfl

/-- A nullable key is told and made non-null, under settings that correct it. -/
theorem validate_of_corrected {fields : FieldSet} {settings : ColumnSettings}
    (hpk : fields.pk = true) (hnull : fields.nullable = true)
    (hpolicy : settings.pkNullable = .correct) :
    fields.validate settings =
      ⟨[.corrected fields.name], .ok ⟨{ fields with nullable := false }⟩⟩ := by
  have hsettle : fields.settleKey settings =
      ⟨[.corrected fields.name], .ok { fields with nullable := false }⟩ := by
    rw [FieldSet.settleKey, hpk, hnull, hpolicy]
    rfl
  rw [FieldSet.validate, hsettle]
  show Traced.bind _ _ = _
  simp [Traced.bind]

/-- **The check leaves fields alone** that it does not refuse, but for a key that it corrects. -/
theorem validate_cases {fields : FieldSet} {settings : ColumnSettings} {column : Column}
    (h : (fields.validate settings).result = .ok column) :
    column.fields = fields ∨
      (fields.pk = true ∧ fields.nullable = true ∧ settings.pkNullable = .correct ∧
        column.fields = { fields with nullable := false }) := by
  obtain ⟨settled, hsettled, h⟩ := Traced.result_bind_eq_ok.1 h
  have hcolumn : column.fields = settled := by
    split at h
    · cases h
    · cases h
      rfl
  rcases FieldSet.settleKey_cases hsettled with ⟨hpk, rfl⟩ | ⟨-, rfl⟩
  · cases hnull : fields.nullable with
    | false => exact .inl (hcolumn.trans (by rw [← hnull]))
    | true =>
      cases hpolicy : settings.pkNullable with
      | correct => exact .inr ⟨hpk, rfl, rfl, hcolumn⟩
      | reject =>
        rw [FieldSet.settleKey, hpk, hnull, hpolicy] at hsettled
        cases hsettled
  · exact .inl hcolumn

/-! ## Paths to a column -/

theorem valid_of_parse {name phrase : String} {settings : ColumnSettings} {column : Column}
    (h : (parse name phrase settings).result = .ok column) : column.Valid := by
  obtain ⟨fields, hfields, h⟩ := Traced.result_bind_eq_ok.1 h
  exact valid_of_validate (FieldSet.clean_ofPhrase hfields) h

theorem valid_of_ofJson {document : Json} {settings : ColumnSettings} {column : Column}
    (h : (ofJson document settings).result = .ok column) : column.Valid := by
  unfold ofJson at h
  split at h
  · obtain ⟨fields, hfields, h⟩ := Traced.result_bind_eq_ok.1 h
    exact valid_of_validate (FieldSet.clean_normalize hfields) h
  · cases h

/-- The fields that changes start from are those of the column or of a type that was read. -/
theorem clean_rebased {column : Column} {changes : Mapping} {settings : ColumnSettings}
    {fields : FieldSet} (hvalid : column.Valid)
    (h : (column.rebased changes settings).result = .ok fields) : fields.Clean := by
  unfold rebased at h
  split at h
  · cases h
    exact hvalid.clean
  · obtain ⟨dtype, hdtype, h⟩ := Traced.result_bind_eq_ok.1 h
    cases h
    exact ⟨hvalid.name, DataType.wellFormed_of_ofMapping (mapError_eq_ok.1 hdtype)⟩
  · obtain ⟨said, hsaid, h⟩ := Traced.result_bind_eq_ok.1 h
    cases h
    exact ⟨hvalid.name, (FieldSet.clean_ofDatatype hsaid).dtype⟩

theorem valid_of_updated {column changed : Column} {changes : Mapping} {settings : ColumnSettings}
    (hvalid : column.Valid) (h : (column.updated changes settings).result = .ok changed) :
    changed.Valid := by
  obtain ⟨rebased, hrebased, h⟩ := Traced.result_bind_eq_ok.1 h
  obtain ⟨fields, hfields, h⟩ := Traced.result_bind_eq_ok.1 h
  exact valid_of_validate ((clean_rebased hvalid hrebased).override hfields) h

/-- The columns that can be had: from a phrase, from a document, from a builder over a type that
was read or over a phrase, and from another one by changes. Every step has settings of its own. -/
inductive Reachable : Column → Prop
  | parse {name phrase : String} {settings : ColumnSettings} {column : Column} :
    (Column.parse name phrase settings).result = .ok column → Reachable column
  | ofJson {document : Json} {settings : ColumnSettings} {column : Column} :
    (Column.ofJson document settings).result = .ok column → Reachable column
  | build {name : String} {document : Json} {dtype : DataType} {steps : List FieldSet.Step}
      {settings : ColumnSettings} {column : Column} :
    DataType.ofJson document = .ok dtype →
    ((steps.foldl FieldSet.apply (.ofType name dtype)).validate settings).result = .ok column →
    Reachable column
  | buildPhrase {name phrase : String} {fields : FieldSet} {steps : List FieldSet.Step}
      {settings : ColumnSettings} {column : Column} :
    (FieldSet.ofPhrase name phrase).result = .ok fields →
    ((steps.foldl FieldSet.apply fields).validate settings).result = .ok column → Reachable column
  | updated {column changed : Column} {changes : Mapping} {settings : ColumnSettings} :
    Reachable column → (column.updated changes settings).result = .ok changed → Reachable changed

theorem Reachable.valid {column : Column} (h : Reachable column) : column.Valid := by
  induction h with
  | parse h => exact valid_of_parse h
  | ofJson h => exact valid_of_ofJson h
  | build hdtype h =>
    have hwf := DataType.wellFormed_of_ofJson hdtype
    exact valid_of_validate ((FieldSet.clean_ofType _ hwf).foldl_apply _) h
  | buildPhrase hphrase h =>
    exact valid_of_validate ((FieldSet.clean_ofPhrase hphrase).foldl_apply _) h
  | updated _ h ih => exact valid_of_updated ih h

/-- **Every column on every path is valid**, and no other settings make it invalid. -/
theorem Reachable.valid_and_stable {column : Column} (h : Reachable column) :
    column.Valid ∧ ∀ settings, column.fields.validate settings = .lift (.ok column) :=
  ⟨h.valid, validate_of_valid h.valid⟩

/-- A serial key, renamed under settings that refuse nullable keys. -/
theorem valid_and_stable_serial :
    ∃ column changed : Column,
      (parse "i d" "serial primary key" .standard).result = .ok column ∧
      (column.updated [("ColumnName", .string "row id")] ⟨["dtype"], .reject⟩).result = .ok changed ∧
      changed.Valid ∧ ∀ settings, changed.fields.validate settings = .lift (.ok changed) := by
  let key (name : String) : Column :=
    ⟨name, .plain .integer, false, false, some (.text Phrase.serialDefault), none, true, none⟩
  have hparse : (parse "i d" "serial primary key" .standard).result = .ok (key "id") := by
    decide +kernel
  have hchange : ((key "id").updated [("ColumnName", .string "row id")]
      ⟨["dtype"], .reject⟩).result = .ok (key "rowid") := by
    decide +kernel
  exact ⟨key "id", key "rowid", hparse, hchange,
    (Reachable.updated (.parse hparse) hchange).valid_and_stable⟩

end Column

end SchemaPhrase
