import SchemaPhrase.Proofs.Column.Construction

/-!
# Changes one after another

Two changes made one after the other are one change, the second mapping written over the first
(`updated_updated`), unless the first one made a key that had to be corrected. The check of the
first change then leaves the fields as they were set (`fields_of_validate`), so the second one sets
its fields over those of the first: the type by `changedType_overwrite`, all others by
`FieldSet.override_overwrite`. A phrase among the changes would reset what the first one set, so the
data type is left alone or given as a mapping.
-/

set_option autoImplicit false

namespace SchemaPhrase

/-- Changes under the keys that a column is written with. The data type is a mapping if it is
there. -/
structure FieldChanges (changes : Mapping) : Prop where
  nodup : changes.keys.Nodup
  keys : ∀ key ∈ changes.keys, key ∈ Column.writtenKeys
  dtype : ∀ datatype, changes.get? "dtype" = some datatype → datatype.kind = .mapping

theorem FieldChanges.get?_of_notMem {changes : Mapping} (h : FieldChanges changes) {key : String}
    (hkey : key ∉ Column.writtenKeys) : changes.get? key = none :=
  Mapping.get?_eq_none_iff.2 fun hmem => hkey (h.keys key hmem)

theorem FieldChanges.plain {changes : Mapping} (h : FieldChanges changes)
    {settings : ColumnSettings} (hs : settings.Separate) : PlainChanges settings changes where
  nodup := h.nodup
  ownKeys field := h.get?_of_notMem field.capitalizedKey_notMem_writtenKeys
  dtype _ hk hne := h.get?_of_notMem (Column.notMem_writtenKeys hs hk hne)

section
variable {first second : Mapping} (hfirst : FieldChanges first) (hsecond : FieldChanges second)
include hfirst hsecond

theorem FieldChanges.dtype_overwrite {datatype : Json}
    (h : (first.overwrite second).get? "dtype" = some datatype) : datatype.kind = .mapping := by
  rw [Mapping.get?_overwrite hsecond.nodup, Option.or_eq_some_iff] at h
  rcases h with h | ⟨-, h⟩
  · exact hsecond.dtype datatype h
  · exact hfirst.dtype datatype h

theorem FieldChanges.select?_overwrite {settings : ColumnSettings} (hs : settings.Separate) :
    FieldSet.select? (first.overwrite second) settings.dtypeAliases =
      (first.overwrite second).get? "dtype" := by
  refine FieldSet.select?_of_only hs.dtype fun key hk hne => ?_
  rw [Mapping.get?_overwrite hsecond.nodup, (hsecond.plain hs).dtype key hk hne,
    (hfirst.plain hs).dtype key hk hne, Option.or_none]

end

namespace Column

/-- The type that changes leave, where they give no phrase. -/
def changedType (current : DataType) (changes : Mapping) : Except ColumnError DataType :=
  match changes.get? "dtype" with
  | some (.object fields) => (DataType.ofMapping fields).mapError .dataType
  | _ => .ok current

/-- **The later type counts**, where both changes give one. -/
theorem changedType_overwrite {first second : Mapping} (hsecond : FieldChanges second)
    {current given : DataType} (h : changedType current first = .ok given) :
    changedType current (first.overwrite second) = changedType given second := by
  have hget := @Mapping.get?_overwrite first second hsecond.nodup "dtype"
  cases hdtype : second.get? "dtype" with
  | none =>
    rw [hdtype, Option.none_or] at hget
    rw [changedType, hget, ← changedType, h, changedType, hdtype]
  | some datatype =>
    rw [hdtype, Option.some_or] at hget
    have hkind := hsecond.dtype datatype hdtype
    cases datatype with
    | object fields => simp only [changedType, hget, hdtype]
    | _ => cases hkind

/-- Changes without a phrase exchange the type and then set what else is given. -/
theorem updated_eq_changedType {settings : ColumnSettings} {changes : Mapping}
    (hselect : FieldSet.select? changes settings.dtypeAliases = changes.get? "dtype")
    (hdtype : ∀ datatype, changes.get? "dtype" = some datatype → datatype.kind = .mapping)
    (column : Column) :
    column.updated changes settings = (do
      let dtype ← .lift (changedType column.fields.dtype changes)
      finish changes settings (column.fields.withType dtype)) := by
  rw [updated_eq_bind, rebased, hselect, changedType]
  cases hget : changes.get? "dtype" with
  | none => exact (pure_bind _ _).trans (Traced.lift_ok_bind _ _).symm
  | some datatype =>
    have hkind := hdtype datatype hget
    cases datatype with
    | object fields =>
      simp only [bind_assoc, pure_bind]
      rfl
    | _ => cases hkind

/-- Fields that pass the check stay as they were set, where it corrects no key. -/
theorem fields_of_validate {fields : FieldSet} {settings : ColumnSettings} {column : Column}
    (h : (fields.validate settings).result = .ok column)
    (hkey : settings.pkNullable = .reject ∨ column.fields.pk = false) : column.fields = fields := by
  rcases validate_cases h with hsame | ⟨hpk, -, hcorrect, hfields⟩
  · exact hsame
  · rcases hkey with hreject | hnone
    · rw [hcorrect] at hreject
      cases hreject
    · rw [hfields] at hnone
      exact absurd hpk (Bool.eq_false_iff.1 hnone)

/-- **Changes compose.** A column that was changed and is changed again is the column changed once
by both, the second mapping written over the first, and fails as that does. A key that the first
change had corrected is left out: the correction would stay when the key is taken back. -/
theorem updated_updated {column changed : Column} {settings : ColumnSettings}
    (hs : settings.Separate) {first second : Mapping} (hfirst : FieldChanges first)
    (hsecond : FieldChanges second) (h : (column.updated first settings).result = .ok changed)
    (hkey : settings.pkNullable = .reject ∨ changed.fields.pk = false) :
    changed.updated second settings = column.updated (first.overwrite second) settings := by
  have hplain := hfirst.plain hs
  have hplain' := hsecond.plain hs
  -- what the first change leaves is not checked away
  rw [updated_eq_changedType (select?_changes hs hplain) hfirst.dtype] at h
  obtain ⟨dtype, htype, h⟩ := Traced.result_bind_eq_ok.1 h
  obtain ⟨fields, hset, h⟩ := Traced.result_bind_eq_ok.1 h
  have hset : (column.fields.withType dtype).override first = .ok fields := hset
  rw [updated_eq_changedType (select?_changes hs hplain') hsecond.dtype,
    updated_eq_changedType (hfirst.select?_overwrite hsecond hs)
      (fun _ => hfirst.dtype_overwrite hsecond), fields_of_validate h hkey]
  obtain ⟨-, -, -, -, -, -, -, hdtype⟩ := FieldSet.override_eq_ok.1 hset
  have hdtype : fields.dtype = dtype := hdtype
  rw [changedType_overwrite hsecond htype, hdtype]
  -- whichever type comes next, the second change sets its fields over those of the first
  refine congrArg (Traced.lift (changedType dtype second) >>= ·) (funext fun next => ?_)
  have hmerged : (column.fields.withType next).override first = .ok (fields.withType next) := by
    show ((column.fields.withType dtype).withType next).override first = _
    rw [FieldSet.override_withType, hset]
    rfl
  rw [finish, finish, FieldSet.override_overwrite hsecond.nodup hplain.ownKeys hplain'.ownKeys
    hmerged]

/-- A type and a default, of which the default is taken back. -/
theorem updated_updated_default :
    let settings : ColumnSettings := ⟨["type", "dtype"], .correct⟩
    let first : Mapping := [("default", .string "0.5"),
      ("dtype", .object [("precision", .string " +9"), ("type", .string "decimal")])]
    let second : Mapping := [("default", .null), ("nullable", .bool true)]
    ∃ column changed : Column,
      (parse "unit price" "numeric(9, 2) not null" .standard).result = .ok column ∧
      settings.Separate ∧ FieldChanges first ∧ FieldChanges second ∧
      (column.updated first settings).result = .ok changed ∧ changed.fields.pk = false ∧
      changed.updated second settings = column.updated (first.overwrite second) settings ∧
      (column.updated (first.overwrite second) settings).result =
        .ok ⟨"unitprice", .exact .decimal 9 DataType.unset, true, false, none, none, false,
          none⟩ := by
  intro settings first second
  have hparse : (parse "unit price" "numeric(9, 2) not null" .standard).result =
      .ok ⟨"unitprice", .exact .numeric 9 2, false, false, none, none, false, none⟩ := by
    decide +kernel
  have hs : settings.Separate := by
    refine ⟨by decide, fun field => ?_⟩
    cases field <;> decide
  have hfirst : FieldChanges first := by
    refine ⟨by decide, by decide, fun datatype h => ?_⟩
    cases h
    rfl
  have hsecond : FieldChanges second :=
    ⟨by decide, by decide, fun datatype h => nomatch h⟩
  have hchange : (Column.updated
      ⟨"unitprice", .exact .numeric 9 2, false, false, none, none, false, none⟩ first
      settings).result =
      .ok ⟨"unitprice", .exact .decimal 9 DataType.unset, false, false, some (.text "0.5"), none,
        false, none⟩ := by
    decide +kernel
  exact ⟨_, _, hparse, hs, hfirst, hsecond, hchange, rfl,
    updated_updated hs hfirst hsecond hchange (.inr rfl), by decide +kernel⟩

/-- A column that is made a key becomes non-null, and stays so when it is no key any more. -/
example :
    let column (nullable pk : Bool) : Column :=
      ⟨"id", .plain .integer, nullable, false, none, none, pk, none⟩
    ((column true false).updated [("pk", .bool true)] .standard).result = .ok (column false true) ∧
      ((column false true).updated [("pk", .bool false)] .standard).result =
        .ok (column false false) ∧
      ((column true false).updated (Mapping.overwrite [("pk", .bool true)] [("pk", .bool false)])
        .standard).result = .ok (column true false) := by
  decide +kernel

end Column

end SchemaPhrase
