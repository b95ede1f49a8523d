import SchemaPhrase.Proofs.Column.Update

/-!
# What of a mapping is read

A column mapping is read through eight look-ups: the data type under the first of its aliases that
is there (`FirstPresent`), and each other field under its own key or else under the capitalized one
(`fieldValue`). `read_through_lookups`: mappings in which the eight give the same cannot be told
apart, whatever else they hold, and where the data types are two mappings that both describe a type,
only the type can differ.

Neither the fields that are set nor the check look at the type (`FieldSet.override_withType`,
`FieldSet.validate_withType`), so a run with another type is the same run with the type exchanged at
its end.
-/

set_option autoImplicit false

namespace SchemaPhrase

/-! ## Look-ups -/

/-- What a mapping has under the first of some keys that is there; none if it has none of them. -/
inductive FirstPresent (raw : Mapping) : List String → Option Json → Prop
  | absent {keys : List String} : (∀ key ∈ keys, raw.get? key = none) → FirstPresent raw keys none
  | present {before after : List String} {key : String} {value : Json} :
    (∀ earlier ∈ before, raw.get? earlier = none) → raw.get? key = some value →
    FirstPresent raw (before ++ key :: after) (some value)

/-- What a mapping gives for a field: under its own key, or else under the capitalized one. -/
def fieldValue (raw : Mapping) (field : ColumnField) : Option Json :=
  match raw.get? field.key with
  | some value => some value
  | none => raw.get? field.capitalizedKey

/-- The seven fields besides the data type are given alike. -/
def SameFields (raw other : Mapping) : Prop :=
  ∀ field, fieldValue raw field = fieldValue other field

/-- The data type is given alike, or is absent from both. -/
def SameDatatype (settings : ColumnSettings) (raw other : Mapping) : Prop :=
  ∃ datatype, FirstPresent raw settings.dtypeAliases datatype ∧
    FirstPresent other settings.dtypeAliases datatype

theorem firstPresent_iff {raw : Mapping} {keys : List String} {found : Option Json} :
    FirstPresent raw keys found ↔ FieldSet.select? raw keys = found := by
  rw [FieldSet.select?_eq_findSome?]
  constructor
  · intro h
    cases h with
    | absent hnone => exact List.findSome?_eq_none_iff.2 hnone
    | present hbefore hkey => exact List.findSome?_eq_some_iff.2 ⟨_, _, _, rfl, hkey, hbefore⟩
  · intro h
    cases found with
    | none => exact .absent (List.findSome?_eq_none_iff.1 h)
    | some value =>
      obtain ⟨before, key, after, rfl, hkey, hbefore⟩ := List.findSome?_eq_some_iff.1 h
      exact .present hbefore hkey

theorem SameDatatype.select?_eq {settings : ColumnSettings} {raw other : Mapping}
    (h : SameDatatype settings raw other) :
    FieldSet.select? raw settings.dtypeAliases = FieldSet.select? other settings.dtypeAliases := by
  obtain ⟨datatype, hraw, hother⟩ := h
  rw [firstPresent_iff.1 hraw, firstPresent_iff.1 hother]

theorem select?_field (raw : Mapping) (field : ColumnField) :
    FieldSet.select? raw field.keys = fieldValue raw field := by
  rw [FieldSet.select?_keys, fieldValue]
  cases raw.get? field.key <;> rfl

theorem SameFields.select?_eq {raw other : Mapping} (h : SameFields raw other)
    (field : ColumnField) :
    FieldSet.select? raw field.keys = FieldSet.select? other field.keys := by
  rw [select?_field, select?_field, h field]

/-! ## Setting what is looked up -/

namespace FieldSet

section
variable {raw other : Mapping} (h : SameFields raw other)
include h

theorem explicit_congr {α : Type} (field : ColumnField) (read? : Json → Option α) (current : α) :
    explicit field read? current raw = explicit field read? current other := by
  rw [explicit, explicit, h.select?_eq field]

theorem override_congr (fields : FieldSet) : fields.override raw = fields.override other := by
  simp only [override, explicit_congr h]

theorem overrideNamed_congr (fields : FieldSet) :
    fields.overrideNamed raw = fields.overrideNamed other := by
  rw [overrideNamed, overrideNamed, h.select?_eq .name, override_congr h]

end

theorem overrideNamed_withType (fields : FieldSet) (dtype : DataType) (raw : Mapping) :
    (fields.withType dtype).overrideNamed raw =
      (·.withType dtype) <$> fields.overrideNamed raw := by
  unfold overrideNamed
  split
  · rfl
  · exact override_withType fields dtype raw

end FieldSet

/-- The column with another type. -/
def Column.withType (column : Column) (dtype : DataType) : Column :=
  ⟨column.fields.withType dtype⟩

namespace FieldSet

theorem settleKey_withType (fields : FieldSet) (dtype : DataType) (settings : ColumnSettings) :
    (fields.withType dtype).settleKey settings =
      (·.withType dtype) <$> fields.settleKey settings := by
  show (if fields.pk && fields.nullable then _ else _) = _
  unfold settleKey
  split
  · cases settings.pkNullable with
    | correct => simp only [map_bind, map_pure, withType]
    | reject => rfl
  · rfl

theorem validate_withType (fields : FieldSet) (dtype : DataType) (settings : ColumnSettings) :
    (fields.withType dtype).validate settings =
      (·.withType dtype) <$> fields.validate settings := by
  simp only [validate, settleKey_withType, map_bind, bind_map_left]
  refine congrArg (fields.settleKey settings >>= ·) (funext fun settled => ?_)
  show (if settled.default.isSome && settled.nullable then _ else _) = _
  split <;> rfl

/-- A mapping that describes a type says nothing else, so the fields are those that are given. -/
theorem normalize_of_object {raw fields : Mapping} {settings : ColumnSettings} {dtype : DataType}
    (h : FirstPresent raw settings.dtypeAliases (some (.object fields)))
    (hdtype : DataType.ofMapping fields = .ok dtype) :
    normalize raw settings = .lift ((ofType "" dtype).overrideNamed raw) := by
  have hsaid : ofDatatype (.object fields) = .lift (.ok (ofType "" dtype)) := by
    show Traced.lift ((DataType.ofMapping fields).mapError ColumnError.dataType) >>= _ = _
    rw [hdtype]
    exact Traced.lift_ok_bind dtype _
  simp only [normalize, firstPresent_iff.1 h, hsaid, Traced.lift_ok_bind]

/-- The fields are the same, but for the type. -/
def SameButType (fields other : FieldSet) : Prop :=
  other = fields.withType other.dtype

theorem sameButType_withType (fields : FieldSet) (dtype : DataType) :
    fields.SameButType (fields.withType dtype) := rfl

end FieldSet

/-! ## Runs told apart -/

namespace Traced

variable {ε α β : Type}

/-- Two runs with the same events that fail for the same cause or give related values. -/
structure Related (rel : α → α → Prop) (run other : Traced ε α) : Prop where
  events : run.events = other.events
  result : (∃ cause, run.result = .error cause ∧ other.result = .error cause) ∨
    ∃ value found, run.result = .ok value ∧ other.result = .ok found ∧ rel value found

theorem related_map {rel : α → α → Prop} {f : α → α} (h : ∀ value, rel value (f value))
    (run : Traced ε α) : Related rel run (f <$> run) := by
  rw [map_eq_pure_bind]
  refine ⟨(events_bind_pure run f).symm, ?_⟩
  rw [result_bind]
  cases run.result with
  | error cause => exact .inl ⟨cause, rfl, rfl⟩
  | ok value => exact .inr ⟨value, f value, rfl, rfl, h value⟩

theorem lift_map (f : α → α) (result : Except ε α) :
    (lift (f <$> result) : Traced ε α) = f <$> lift result := by
  cases result with
  | error cause => rfl
  | ok value => exact (map_pure f value).symm

end Traced

namespace Column

/-- Nothing that reads a mapping tells the two apart, neither to build a column from it nor to
change one. -/
structure Indistinct (settings : ColumnSettings) (raw other : Mapping) : Prop where
  normalize : FieldSet.normalize raw settings = FieldSet.normalize other settings
  ofMapping : ofMapping raw settings = ofMapping other settings
  updated : ∀ column : Column, column.updated raw settings = column.updated other settings

/-- What reads a mapping fails for both for the same cause, or only the type differs. -/
structure IndistinctButType (settings : ColumnSettings) (raw other : Mapping) : Prop where
  normalize : Traced.Related FieldSet.SameButType (FieldSet.normalize raw settings)
    (FieldSet.normalize other settings)
  ofMapping : Traced.Related (fun column found => column.fields.SameButType found.fields)
    (ofMapping raw settings) (ofMapping other settings)
  updated : ∀ column : Column,
    Traced.Related (fun column found => column.fields.SameButType found.fields)
      (column.updated raw settings) (column.updated other settings)

section
variable {settings : ColumnSettings} {raw other : Mapping} (h : SameFields raw other)

theorem finish_withType (fields : FieldSet) (dtype : DataType) :
    finish raw settings (fields.withType dtype) =
      (·.withType dtype) <$> finish raw settings fields := by
  simp only [finish, FieldSet.override_withType, Traced.lift_map, bind_map_left, map_bind,
    FieldSet.validate_withType]

/-- Changes that give a mapping for the type replace the type, and then set what is given. -/
theorem updated_of_object {fields : Mapping} {dtype : DataType} (column : Column)
    (hraw : FirstPresent raw settings.dtypeAliases (some (.object fields)))
    (hdtype : DataType.ofMapping fields = .ok dtype) :
    column.updated raw settings = finish raw settings (column.fields.withType dtype) := by
  rw [updated_eq_bind, rebased, firstPresent_iff.1 hraw]
  show Traced.lift ((DataType.ofMapping fields).mapError ColumnError.dataType) >>= _ >>= _ = _
  rw [hdtype]
  exact (bind_assoc _ _ _).trans ((Traced.lift_ok_bind dtype _).trans (pure_bind _ _))

include h

theorem finish_congr : finish raw settings = finish other settings := by
  funext fields
  rw [finish, finish, FieldSet.override_congr h]

theorem indistinct_of_same (hdtype : SameDatatype settings raw other) :
    Indistinct settings raw other := by
  have hnormalize : FieldSet.normalize raw settings = FieldSet.normalize other settings := by
    simp only [FieldSet.normalize, hdtype.select?_eq, FieldSet.overrideNamed_congr h]
  refine ⟨hnormalize, ?_, fun column => ?_⟩
  · rw [Column.ofMapping, Column.ofMapping, hnormalize]
  · rw [updated_eq_bind, updated_eq_bind, rebased, rebased, hdtype.select?_eq, finish_congr h]

theorem indistinctButType_of_object {fields others : Mapping} {dtype otherType : DataType}
    (hraw : FirstPresent raw settings.dtypeAliases (some (.object fields)))
    (hother : FirstPresent other settings.dtypeAliases (some (.object others)))
    (hdtype : DataType.ofMapping fields = .ok dtype)
    (hotherType : DataType.ofMapping others = .ok otherType) :
    IndistinctButType settings raw other := by
  have hnormalize : FieldSet.normalize other settings =
      (·.withType otherType) <$> FieldSet.normalize raw settings := by
    rw [FieldSet.normalize_of_object hraw hdtype, FieldSet.normalize_of_object hother hotherType,
      ← Traced.lift_map, ← FieldSet.overrideNamed_withType, FieldSet.overrideNamed_congr h]
    rfl
  have hbuild : Column.ofMapping other settings =
      (·.withType otherType) <$> Column.ofMapping raw settings := by
    simp only [Column.ofMapping, hnormalize, bind_map_left, map_bind, FieldSet.validate_withType]
  have hupdate : ∀ column : Column, column.updated other settings =
      (·.withType otherType) <$> column.updated raw settings := by
    intro column
    rw [updated_of_object column hraw hdtype, updated_of_object column hother hotherType,
      ← finish_congr h]
    exact finish_withType (column.fields.withType dtype) otherType
  refine ⟨?_, ?_, fun column => ?_⟩
  · rw [hnormalize]
    exact Traced.related_map (fun said => said.sameButType_withType otherType) _
  · rw [hbuild]
    exact Traced.related_map (fun built => built.fields.sameButType_withType otherType) _
  · rw [hupdate]
    exact Traced.related_map (fun changed => changed.fields.sameButType_withType otherType) _

end

end Column

/-! ## Keys that do not count -/

/-- Wherever a key stands among some keys, an earlier one of them is there. So does a key that is
none of them. -/
def Shadowed (raw : Mapping) (keys : List String) (key : String) : Prop :=
  ∀ before after, keys = before ++ key :: after → ∃ earlier ∈ before, (raw.get? earlier).isSome

theorem shadowed_of_notMem {raw : Mapping} {keys : List String} {key : String} (h : key ∉ keys) :
    Shadowed raw keys key := by
  rintro before after rfl
  exact absurd (List.mem_append_right before List.mem_cons_self) h

theorem shadowed_of_present {raw : Mapping} {front back : List String} {earlier key : String}
    (h : (raw.get? earlier).isSome) (hkey : key ∉ front ++ [earlier]) :
    Shadowed raw (front ++ earlier :: back) key := by
  intro before after hkeys
  refine ⟨earlier, ?_, h⟩
  rw [List.mem_append, List.mem_singleton, not_or] at hkey
  rcases List.append_eq_append_iff.1 hkeys with ⟨gap, rfl, hback⟩ | ⟨gap, rfl, hback⟩
  · cases gap with
    | nil => exact absurd (List.cons.inj hback).1.symm hkey.2
    | cons first gap => simp [(List.cons.inj hback).1]
  · cases gap with
    | nil => exact absurd (List.cons.inj hback).1 hkey.2
    | cons first gap => simp [(List.cons.inj hback).1] at hkey

theorem Shadowed.ne {raw : Mapping} {before after : List String} {key first : String}
    (h : Shadowed raw (before ++ first :: after) key)
    (hbefore : ∀ earlier ∈ before, raw.get? earlier = none) : key ≠ first := by
  rintro rfl
  obtain ⟨earlier, hmem, hsome⟩ := h before after rfl
  rw [hbefore earlier hmem] at hsome
  cases hsome

theorem FirstPresent.insert {raw : Mapping} {keys : List String} {found : Option Json}
    {key : String} (h : FirstPresent raw keys found) (hs : Shadowed raw keys key) (value : Json) :
    FirstPresent (raw.insert key value) keys found := by
  have hnone : ∀ {before after : List String}, keys = before ++ after →
      (∀ earlier ∈ before, raw.get? earlier = none) →
      ∀ earlier ∈ before, (raw.insert key value).get? earlier = none := by
    intro before after hkeys hbefore earlier hmem
    obtain ⟨front, back, rfl⟩ := List.append_of_mem hmem
    have hfront : ∀ other ∈ front, raw.get? other = none := fun other ho =>
      hbefore other (List.mem_append_left _ ho)
    rw [List.append_assoc, List.cons_append] at hkeys
    rw [Mapping.get?_insert, if_neg ((hkeys ▸ hs).ne hfront), hbefore earlier hmem]
  cases h with
  | absent habsent => exact .absent (hnone (List.append_nil _).symm habsent)
  | present hbefore hkey =>
    refine .present (hnone rfl hbefore) ?_
    rw [Mapping.get?_insert, if_neg (hs.ne hbefore), hkey]

theorem firstPresent_select? (raw : Mapping) (keys : List String) :
    FirstPresent raw keys (FieldSet.select? raw keys) :=
  firstPresent_iff.2 rfl

theorem SameDatatype.of_shadowed {settings : ColumnSettings} {raw : Mapping} {key : String}
    (h : Shadowed raw settings.dtypeAliases key) (value : Json) :
    SameDatatype settings raw (raw.insert key value) :=
  ⟨_, firstPresent_select? raw _, (firstPresent_select? raw _).insert h value⟩

theorem SameFields.of_shadowed {raw : Mapping} {key : String}
    (h : ∀ field : ColumnField, Shadowed raw field.keys key) (value : Json) :
    SameFields raw (raw.insert key value) := by
  intro field
  rw [← select?_field, ← select?_field]
  exact (firstPresent_iff.1 ((firstPresent_select? raw _).insert (h field) value)).symm

theorem ColumnField.eq_of_mem_keys {field other : ColumnField} {key : String}
    (h : key ∈ field.keys) (ho : key ∈ other.keys) : field = other := by
  have hall : ∀ found ∈ field.keys, found ∈ other.keys → field = other := by
    cases field <;> cases other <;> decide
  exact hall key h ho

/-- The two keys of a field can be exchanged where the mapping has neither. -/
theorem sameFields_insert_keys {raw : Mapping} {field : ColumnField} (value : Json)
    (hown : raw.get? field.key = none) :
    SameFields (raw.insert field.key value) (raw.insert field.capitalizedKey value) := by
  have hne : field.capitalizedKey ≠ field.key := by cases field <;> decide
  intro other
  by_cases he : field = other
  · subst he
    simp [fieldValue, Mapping.get?_insert, hne, hown]
  · have hkey : ∀ key ∈ field.keys, ∀ found ∈ other.keys, key ≠ found := by
      rintro key hk found hf rfl
      exact he (ColumnField.eq_of_mem_keys hk hf)
    simp only [ColumnField.keys, List.forall_mem_cons] at hkey
    simp [fieldValue, Mapping.get?_insert, hkey]

namespace Column

/-- **A mapping is read through its eight look-ups only.** Mappings in which they give the same
cannot be told apart. Where the data types are two mappings that both describe a type, what comes
out fails for the same cause or differs in the type at most. So a key that means nothing may be
set, or one behind another that is there, and a field may stand under either of its keys. -/
theorem read_through_lookups (settings : ColumnSettings) :
    (∀ raw other, SameFields raw other → SameDatatype settings raw other →
      Indistinct settings raw other) ∧
    (∀ raw other fields others dtype otherType, SameFields raw other →
      FirstPresent raw settings.dtypeAliases (some (.object fields)) →
      FirstPresent other settings.dtypeAliases (some (.object others)) →
      DataType.ofMapping fields = .ok dtype → DataType.ofMapping others = .ok otherType →
      IndistinctButType settings raw other) ∧
    (∀ raw key value, Shadowed raw settings.dtypeAliases key →
      (∀ field : ColumnField, Shadowed raw field.keys key) →
      Indistinct settings raw (raw.insert key value)) ∧
    ∀ (raw : Mapping) (field : ColumnField) value, raw.get? field.key = none →
      (∀ key ∈ field.keys, key ∉ settings.dtypeAliases) →
      Indistinct settings (raw.insert field.key value) (raw.insert field.capitalizedKey value) := by
  refine ⟨fun raw other => indistinct_of_same, ?_, ?_, ?_⟩
  · intro raw other fields others dtype otherType h
    exact indistinctButType_of_object h
  · intro raw key value hdtype hfields
    exact indistinct_of_same (.of_shadowed hfields value) (.of_shadowed hdtype value)
  · intro raw field value hown haliases
    have hset : ∀ key ∈ field.keys, FirstPresent (raw.insert key value) settings.dtypeAliases
        (FieldSet.select? raw settings.dtypeAliases) := fun key hk =>
      (firstPresent_select? raw _).insert (shadowed_of_notMem (haliases key hk)) value
    refine indistinct_of_same (sameFields_insert_keys value hown) ⟨_, hset _ ?_, hset _ ?_⟩
    · exact List.mem_cons_self
    · exact List.mem_cons_of_mem _ List.mem_cons_self

/-- A key under an alias of the data type that is a key of a field, too. -/
theorem read_through_lookups_alias :
    let settings : ColumnSettings := ⟨["type", "dtype", "Nullable"], .correct⟩
    let raw : Mapping := [("dtype", .object [("type", .string "text")]), ("name", .string "row id"),
      ("nullable", .bool true), ("pk", .bool true)]
    let other : Mapping := [("ColumnName", .string "row id"),
      ("dtype", .object [("type", .string "text")]), ("note", .null), ("nullable", .bool true),
      ("pk", .bool true)]
    let retyped : Mapping := [("name", .string "row id"), ("nullable", .bool true),
      ("pk", .bool true), ("type", .object [("type", .string "int")])]
    (SameFields raw other ∧ SameDatatype settings raw other ∧ Indistinct settings raw other) ∧
    (SameFields raw retyped ∧ IndistinctButType settings raw retyped ∧
      (ofMapping raw settings).result =
        .ok ⟨"rowid", .plain .text, false, false, none, none, true, none⟩ ∧
      (ofMapping retyped settings).result =
        .ok ⟨"rowid", .plain .integer, false, false, none, none, true, none⟩) ∧
    (Shadowed raw settings.dtypeAliases "Nullable" ∧
      Indistinct settings raw (raw.insert "Nullable" (.string "no"))) ∧
    Indistinct settings (raw.insert "unique" (.bool true)) (raw.insert "Unique" (.bool true)) := by
  intro settings raw other retyped
  have hother : SameFields raw other := fun field => by cases field <;> rfl
  have hretyped : SameFields raw retyped := fun field => by cases field <;> rfl
  have hdtype : FirstPresent raw settings.dtypeAliases
      (some (.object [("type", .string "text")])) := firstPresent_iff.2 rfl
  have hsame : SameDatatype settings raw other := ⟨_, hdtype, firstPresent_iff.2 rfl⟩
  have halias : Shadowed raw settings.dtypeAliases "Nullable" :=
    @shadowed_of_present raw ["type"] ["Nullable"] "dtype" "Nullable" rfl (by decide)
  have hown : Shadowed raw ColumnField.nullable.keys "Nullable" :=
    @shadowed_of_present raw [] ["Nullable"] "nullable" "Nullable" rfl (by decide)
  have hfields : ∀ field : ColumnField, Shadowed raw field.keys "Nullable" := by
    intro field
    cases field with
    | nullable => exact hown
    | _ => exact shadowed_of_notMem (by decide)
  obtain ⟨hread, htype, hset, hkeys⟩ := read_through_lookups settings
  refine ⟨⟨hother, hsame, hread raw other hother hsame⟩, ⟨hretyped, ?_, by decide +kernel,
    by decide +kernel⟩, ⟨halias, hset raw _ _ halias hfields⟩, hkeys raw .unique _ rfl (by decide)⟩
  exact htype raw retyped _ _ (.plain .text) (.plain .integer) hretyped hdtype
    (firstPresent_iff.2 rfl) (by decide +kernel) (by decide +kernel)

end Column

end SchemaPhrase
