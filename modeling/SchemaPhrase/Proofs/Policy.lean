import SchemaPhrase.Proofs.Table.FixedPoint

/-!
# Refusing nullable keys restricts correcting them

Two runs over the same input, under the same aliases, of which one refuses a nullable key and the
other corrects it (`refusing_restricts_correcting`). A column that the first run gives the second
one gives too, a failure of the second one is that of the first, and only a key that is corrected
is refused (`Column.Restricts`).

The policy is read by the check alone, and there the two runs part (`restricts_validate`). A key
that is corrected is not nullable any more, so its default cannot make the second run fail, too.
What precedes the check is one run for both (`Restricts.bind`). Over the columns of a table the
first run may stop at an earlier column than the second, so a failure keeps its cause only up to a
refused key (`Table.Restricts`).
-/

set_option autoImplicit false

namespace SchemaPhrase

/-- Settings under which a nullable key is refused. -/
def ColumnSettings.refusing (aliases : List String) : ColumnSettings := ⟨aliases, .reject⟩

/-- Settings under which a nullable key is corrected. -/
def ColumnSettings.correcting (aliases : List String) : ColumnSettings := ⟨aliases, .correct⟩

/-! ## Columns -/

namespace Column

/-- The strict run gives what the lenient one does, but for keys that the lenient one corrects. -/
structure Restricts (strict lenient : Except ColumnError Column) : Prop where
  accepted : ∀ column, strict = .ok column → lenient = .ok column
  rejected : ∀ cause, lenient = .error cause → strict = .error cause
  refused : ∀ column cause, lenient = .ok column → strict = .error cause →
    cause = .nullablePrimaryKey ∧ column.fields.pk = true ∧ column.fields.nullable = false

theorem Restricts.refl (result : Except ColumnError Column) : Restricts result result := by
  refine ⟨fun _ h => h, fun _ h => h, fun column cause hok herror => ?_⟩
  rw [hok] at herror
  cases herror

/-- A key that the lenient run corrects. -/
theorem Restricts.of_corrected {column : Column} (hpk : column.fields.pk = true)
    (hnull : column.fields.nullable = false) :
    Restricts (.error .nullablePrimaryKey) (.ok column) := by
  constructor
  · intro _ hok
    cases hok
  · intro _ herror
    cases herror
  · intro _ _ hok herror
    cases hok
    cases herror
    exact ⟨rfl, hpk, hnull⟩

/-- What precedes may fail, for both runs alike. -/
theorem Restricts.bind {α : Type} (run : Traced ColumnError α)
    {strict lenient : α → Traced ColumnError Column}
    (h : ∀ value, Restricts (strict value).result (lenient value).result) :
    Restricts (run >>= strict).result (run >>= lenient).result := by
  rw [Traced.result_bind, Traced.result_bind]
  cases run.result with
  | error cause => exact .refl (.error cause)
  | ok value => exact h value

section
variable (aliases : List String)

/-- **The check** is where the policy counts. -/
theorem restricts_validate (fields : FieldSet) :
    Restricts (fields.validate (.refusing aliases)).result
      (fields.validate (.correcting aliases)).result := by
  cases hkey : fields.pk && fields.nullable with
  | false =>
    have hsame : fields.validate (.refusing aliases) = fields.validate (.correcting aliases) := by
      simp only [FieldSet.validate, FieldSet.settleKey, hkey, Bool.false_eq_true, if_false]
    rw [hsame]
    exact .refl _
  | true =>
    have hstrict : (fields.validate (.refusing aliases)).result = .error .nullablePrimaryKey := by
      simp only [FieldSet.validate, FieldSet.settleKey, hkey, ColumnSettings.refusing, if_true,
        Traced.result_bind, Traced.result_fail]
      rfl
    have hlenient : (fields.validate (.correcting aliases)).result =
        .ok ⟨{ fields with nullable := false }⟩ := by
      simp only [FieldSet.validate, FieldSet.settleKey, hkey, ColumnSettings.correcting, if_true,
        Traced.result_bind, Traced.result_emit, Except.bind, Traced.result_pure, Bool.and_false,
        Bool.false_eq_true, if_false]
    rw [hstrict, hlenient]
    exact .of_corrected (Bool.and_eq_true _ _ ▸ hkey).1 rfl

theorem restricts_ofJson (document : Json) :
    Restricts (ofJson document (.refusing aliases)).result
      (ofJson document (.correcting aliases)).result := by
  cases document with
  | object raw =>
    have hsame : FieldSet.normalize raw (.refusing aliases) =
        FieldSet.normalize raw (.correcting aliases) := rfl
    show Restricts (ofMapping raw _).result (ofMapping raw _).result
    rw [ofMapping, ofMapping, hsame]
    exact .bind _ (restricts_validate aliases)
  | _ => exact .refl _

theorem restricts_updated (column : Column) (changes : Mapping) :
    Restricts (column.updated changes (.refusing aliases)).result
      (column.updated changes (.correcting aliases)).result := by
  have hsame : column.rebased changes (.refusing aliases) =
      column.rebased changes (.correcting aliases) := rfl
  rw [updated, updated, hsame]
  exact .bind _ fun fields => .bind _ (restricts_validate aliases)

end

end Column

/-! ## Tables -/

namespace Table

/-- The strict run gives what the lenient one does, or it stops at a column with a key that it
refuses. -/
def Restricts {α : Type} (strict lenient : Except TableError α) : Prop :=
  strict = lenient ∨ ∃ index, strict = .error (.column index .nullablePrimaryKey)

theorem Restricts.of_column {strict lenient : Except ColumnError Column}
    (h : Column.Restricts strict lenient) (index : Nat) :
    Restricts (strict.mapError (TableError.column index))
      (lenient.mapError (TableError.column index)) := by
  cases hstrict : strict with
  | ok column =>
    rw [h.accepted column hstrict]
    exact .inl rfl
  | error cause =>
    cases hlenient : lenient with
    | ok column =>
      obtain ⟨rfl, -⟩ := h.refused column cause hlenient hstrict
      exact .inr ⟨index, rfl⟩
    | error other =>
      have hsame := (h.rejected other hlenient).symm.trans hstrict
      cases hsame
      exact .inl rfl

/-- Both parts of a run may stop at a refused key. -/
theorem Restricts.bind {α β : Type} {strict lenient : Traced TableError α}
    {nextStrict nextLenient : α → Traced TableError β}
    (h : Restricts strict.result lenient.result)
    (hnext : ∀ value, Restricts (nextStrict value).result (nextLenient value).result) :
    Restricts (strict >>= nextStrict).result (lenient >>= nextLenient).result := by
  rw [Traced.result_bind, Traced.result_bind]
  rcases h with h | ⟨index, h⟩
  · rw [h]
    cases lenient.result with
    | error cause => exact .inl rfl
    | ok value => exact hnext value
  · rw [h]
    exact .inr ⟨index, rfl⟩

section
variable (aliases : List String)

theorem restricts_readColumns (index : Nat) (items : List Json) :
    Restricts (readColumns (.refusing aliases) index items).result
      (readColumns (.correcting aliases) index items).result := by
  induction items generalizing index with
  | nil => exact .inl rfl
  | cons item items ih =>
    refine .bind (.of_column (Column.restricts_ofJson aliases item) index) fun column => ?_
    exact .bind (ih (index + 1)) fun columns => .inl rfl

theorem restricts_ofJson (document : Json) :
    Restricts (ofJson document (.refusing aliases)).result
      (ofJson document (.correcting aliases)).result := by
  have hcolumns : ∀ raw : Mapping, Restricts (columnsOf raw (.refusing aliases)).result
      (columnsOf raw (.correcting aliases)).result := by
    intro raw
    unfold columnsOf
    split
    · exact .inl rfl
    · exact .inl rfl
    · exact restricts_readColumns aliases 0 _
    · exact .inl rfl
  cases document with
  | object raw =>
    show Restricts (ofMapping raw _).result (ofMapping raw _).result
    unfold ofMapping
    split
    · exact .inl rfl
    · exact .bind (hcolumns raw) fun columns => .inl rfl
    · exact .inl rfl
  | _ => exact .inl rfl

end

end Table

/-- **Refusing restricts correcting**, under any aliases. A column that is read or changed comes out
the same way, fails for the same cause, or is a key that one run refuses and the other makes
non-null. A table that the strict run gives the lenient one gives too, and what the lenient one
rejects the strict one rejects, for the same cause or for a refused key. -/
theorem refusing_restricts_correcting (aliases : List String) :
    (∀ document, Column.Restricts (Column.ofJson document (.refusing aliases)).result
      (Column.ofJson document (.correcting aliases)).result) ∧
    (∀ (column : Column) changes,
      Column.Restricts (column.updated changes (.refusing aliases)).result
        (column.updated changes (.correcting aliases)).result) ∧
    (∀ document table, (Table.ofJson document (.refusing aliases)).result = .ok table →
      (Table.ofJson document (.correcting aliases)).result = .ok table) ∧
    (∀ document cause, (Table.ofJson document (.correcting aliases)).result = .error cause →
      ∃ other, (Table.ofJson document (.refusing aliases)).result = .error other ∧
        (other = cause ∨ ∃ index, other = .column index .nullablePrimaryKey)) ∧
    ∀ document table cause, (Table.ofJson document (.correcting aliases)).result = .ok table →
      (Table.ofJson document (.refusing aliases)).result = .error cause →
      ∃ index, cause = .column index .nullablePrimaryKey := by
  refine ⟨Column.restricts_ofJson aliases, Column.restricts_updated aliases, ?_, ?_, ?_⟩
  · intro document table hok
    rcases Table.restricts_ofJson aliases document with hsame | ⟨index, hrefused⟩
    · exact hsame ▸ hok
    · rw [hrefused] at hok
      cases hok
  · intro document cause herror
    rcases Table.restricts_ofJson aliases document with hsame | ⟨index, hrefused⟩
    · exact ⟨cause, hsame.trans herror, .inl rfl⟩
    · exact ⟨_, hrefused, .inr ⟨index, rfl⟩⟩
  · intro document table cause hok herror
    rcases Table.restricts_ofJson aliases document with hsame | ⟨index, hrefused⟩
    · rw [hsame, hok] at herror
      cases herror
    · rw [hrefused] at herror
      cases herror
      exact ⟨index, rfl⟩

/-- A table whose second column is a key that nothing says not to be null. -/
theorem refusing_restricts_correcting_key :
    let document : Json := .object [("name", .string "users"), ("schemas", .array [
      .object [("dtype", .string "text"), ("name", .string "mail")],
      .object [("dtype", .string "integer"), ("name", .string "id"), ("pk", .bool true)]])]
    ∃ table, (Table.ofJson document (.correcting ["dtype"])).result = .ok table ∧
      table.pk = ⟨some "id_pk", ["id"]⟩ ∧
      (Table.ofJson document (.refusing ["dtype"])).result =
        .error (.column 1 .nullablePrimaryKey) ∧
      ∃ index, TableError.column 1 .nullablePrimaryKey = .column index .nullablePrimaryKey := by
  intro document
  let mail : Column := ⟨"mail", .plain .text, true, false, none, none, false, none⟩
  let id : Column := ⟨"id", .plain .integer, false, false, none, none, true, none⟩
  have hlenient : (Table.ofJson document (.correcting ["dtype"])).result =
      .ok ⟨"users", [mail, id], ⟨some "id_pk", ["id"]⟩, []⟩ := by
    decide +kernel
  have hstrict : (Table.ofJson document (.refusing ["dtype"])).result =
      .error (.column 1 .nullablePrimaryKey) := by
    decide +kernel
  obtain ⟨-, -, -, -, hrefused⟩ := refusing_restricts_correcting ["dtype"]
  exact ⟨_, hlenient, rfl, hstrict, hrefused document _ _ hlenient hstrict⟩

end SchemaPhrase
