import SchemaPhrase.Proofs.Column.Invariant
import SchemaPhrase.Proofs.DataType.ErrorSet
import SchemaPhrase.Proofs.Phrase.Verbatim

/-!
# Columns from phrases alone

A phrase never says two things about a column that exclude each other: what it says to be nullable
is no key and has no default (`nullable_iff_of_parsePhrase`). So the check has nothing to correct or
refuse, the settings do not matter, and the column is what the phrase says
(`Column.parse_eq_bind`). What is left to go wrong is the check clause and the arguments of the data
type (`ColumnError.OfPhrase`).
-/

set_option autoImplicit false

namespace SchemaPhrase

/-- The causes for which a phrase is no column. -/
inductive ColumnError.OfPhrase (phrase : String) : ColumnError → Prop
  | malformedCheckClause : OfPhrase phrase (.malformedCheckClause phrase)
  | dataType {cause : DataTypeError} : cause.OfArgument → OfPhrase phrase (.dataType cause)

theorem Nullability.isNullable_iff {marker : Nullability} :
    marker.isNullable = true ↔ marker = .null := by
  cases marker <;> simp [isNullable]

/-- **A phrase says that a column is nullable** if the marker that counts is `null`, and neither a
key nor a default is there. -/
theorem nullable_iff_of_parsePhrase {phrase : String} {parsed : ParsedPhrase}
    (h : (parsePhrase phrase).result = .ok parsed) :
    parsed.nullable = true ↔
      parsed.nullability = .null ∧ parsed.pk = false ∧ parsed.default = none := by
  obtain ⟨rest, check, -, hparsed⟩ :=
    Phrase.eq_assemble_of_takeApart? (Phrase.result_parsePhrase_eq_ok.1 h)
  have hnullable : parsed.nullable =
      (parsed.default.isNone && !parsed.pk && parsed.nullability.isNullable) := by
    rw [hparsed]
    rfl
  rw [hnullable, Bool.and_eq_true, Bool.and_eq_true, Bool.not_eq_true', Option.isNone_iff_eq_none,
    Nullability.isNullable_iff]
  exact ⟨fun ⟨⟨hdefault, hpk⟩, hmarker⟩ => ⟨hmarker, hpk, hdefault⟩,
    fun ⟨hmarker, hpk, hdefault⟩ => ⟨⟨hdefault, hpk⟩, hmarker⟩⟩

namespace FieldSet

theorem valid_of_ofPhrase {name phrase : String} {fields : FieldSet}
    (h : (ofPhrase name phrase).result = .ok fields) : Column.Valid ⟨fields⟩ := by
  have hclean := clean_ofPhrase h
  obtain ⟨parsed, hparsed, h⟩ := Traced.result_bind_eq_ok.1 h
  obtain ⟨dtype, -, h⟩ := Traced.result_bind_eq_ok.1 h
  cases h
  have hnullable := nullable_iff_of_parsePhrase hparsed
  refine ⟨fun hpk => ?_, fun hdefault => ?_, hclean.name, hclean.dtype⟩
  · rw [Bool.eq_false_iff]
    intro hnull
    have hkey : parsed.pk = true := hpk
    rw [(hnullable.1 hnull).2.1] at hkey
    cases hkey
  · rw [Bool.eq_false_iff]
    intro hnull
    have hsome : (parsed.default.map DefaultValue.text).isSome = true := hdefault
    rw [(hnullable.1 hnull).2.2] at hsome
    cases hsome

theorem ofPhrase_of_error {name phrase : String} {cause : ColumnError}
    (h : (ofPhrase name phrase).result = .error cause) : cause.OfPhrase phrase := by
  obtain h | ⟨parsed, -, h⟩ := Traced.result_bind_eq_error.1 h
  · unfold parsePhrase at h
    split at h
    · cases h
      exact .malformedCheckClause
    · obtain h | ⟨_, -, h⟩ := Traced.result_bind_eq_error.1 h
      · cases h
      · cases h
  · obtain h | ⟨dtype, -, h⟩ := Traced.result_bind_eq_error.1 h
    · rw [result_typeOfPhrase, mapError_eq_error] at h
      obtain ⟨reason, hreason, rfl⟩ := h
      exact .dataType (DataType.ofArgument_of_parse hreason)
    · cases h

theorem corrected_notMem_ofPhrase (name phrase column : String) :
    Event.corrected column ∉ (ofPhrase name phrase).events := by
  have hphrase : Event.corrected column ∉ (parsePhrase phrase).events := by
    unfold parsePhrase
    split
    · exact List.not_mem_nil
    · intro h
      obtain h | ⟨_, -, h⟩ := Traced.mem_events_bind.1 h
      · cases List.mem_singleton.1 h
      · cases h
  have htype : ∀ text, Event.corrected column ∉ (typeOfPhrase text).events := by
    intro text h
    obtain h | ⟨dtype, -, h⟩ := Traced.mem_events_bind.1 h
    · cases h
    obtain h | ⟨_, -, h⟩ := Traced.mem_events_bind.1 h
    · simp only [tellFallback] at h
      split at h
      · cases List.mem_singleton.1 h
      · cases h
    · cases h
  intro h
  obtain h | ⟨parsed, -, h⟩ := Traced.mem_events_bind.1 h
  · exact hphrase h
  obtain h | ⟨dtype, -, h⟩ := Traced.mem_events_bind.1 h
  · exact htype parsed.dtype h
  · cases h

end FieldSet

namespace Column

/-- **The check changes nothing** about what a phrase says. -/
theorem parse_eq_bind (name phrase : String) (settings : ColumnSettings) :
    parse name phrase settings =
      FieldSet.ofPhrase name phrase >>= fun fields => .lift (.ok ⟨fields⟩) :=
  Traced.bind_congr_of_ok fun _ h => validate_of_valid (FieldSet.valid_of_ofPhrase h) settings

/-- **A phrase alone never conflicts.** It says that a column is nullable only if it says neither
that it is a key nor what its default is. So under any settings the column is what the phrase says,
nothing is corrected, and only a malformed check clause or an argument of the data type makes the
phrase fail. -/
theorem parse_conflict_free (phrase : String) :
    (∀ parsed, (parsePhrase phrase).result = .ok parsed →
      (parsed.nullable = true ↔
        parsed.nullability = .null ∧ parsed.pk = false ∧ parsed.default = none)) ∧
    ∀ name,
      (∀ settings other, parse name phrase settings = parse name phrase other) ∧
      ∀ settings,
        (∀ cause, (parse name phrase settings).result = .error cause →
          cause ≠ .nullablePrimaryKey ∧ cause ≠ .nullableWithDefault ∧ cause.OfPhrase phrase) ∧
        (∀ column, Event.corrected column ∉ (parse name phrase settings).events) ∧
        ∀ column, (parse name phrase settings).result = .ok column ↔
          (FieldSet.ofPhrase name phrase).result = .ok column.fields := by
  refine ⟨fun parsed => nullable_iff_of_parsePhrase, fun name => ⟨fun settings other => ?_,
    fun settings => ?_⟩⟩
  · rw [parse_eq_bind, parse_eq_bind]
  · rw [parse_eq_bind]
    refine ⟨fun cause h => ?_, fun column h => ?_, fun column => ?_⟩
    · obtain h | ⟨_, -, h⟩ := Traced.result_bind_eq_error.1 h
      · have hphrase := FieldSet.ofPhrase_of_error h
        refine ⟨?_, ?_, hphrase⟩ <;> rintro rfl <;> cases hphrase
      · cases h
    · obtain h | ⟨_, -, h⟩ := Traced.mem_events_bind.1 h
      · exact FieldSet.corrected_notMem_ofPhrase name phrase column h
      · cases h
    · rw [Traced.result_bind_eq_ok]
      refine ⟨fun ⟨fields, hfields, h⟩ => ?_, fun h => ⟨column.fields, h, rfl⟩⟩
      cases h
      exact hfields

/-- A key that is said to be nullable and has a default, and a phrase whose argument is too
large. -/
theorem parse_conflict_free_key :
    (parsePhrase "serial null primary key").result = .ok
      { dtype := "integer", nullability := .null, nullable := false, unique := false, pk := true,
        default := some Phrase.serialDefault, check := none } ∧
    parse "id" "serial null primary key" ⟨[], .reject⟩ =
      parse "id" "serial null primary key" ⟨["dtype"], .correct⟩ ∧
    (∀ column, Event.corrected column ∉
      (parse "id" "serial null primary key" ⟨["dtype"], .correct⟩).events) ∧
    (parse "at" "timestamp(7) null" .standard).result =
      .error (.dataType (.outOfRange .precision 7 6)) ∧
    ColumnError.OfPhrase "timestamp(7) null" (.dataType (.outOfRange .precision 7 6)) := by
  have hfails : (parse "at" "timestamp(7) null" .standard).result =
      .error (.dataType (.outOfRange .precision 7 6)) := by
    decide +kernel
  obtain ⟨-, hkey⟩ := parse_conflict_free "serial null primary key"
  obtain ⟨hsame, hruns⟩ := hkey "id"
  obtain ⟨-, hargument⟩ := parse_conflict_free "timestamp(7) null"
  refine ⟨by decide +kernel, hsame _ _, (hruns _).2.1, hfails, ?_⟩
  exact ((hargument "at").2 .standard).1 _ hfails |>.2.2

end Column

end SchemaPhrase
