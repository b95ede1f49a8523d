import SchemaPhrase.Cli.Run
import SchemaPhrase.Proofs.Column.Invariant
import SchemaPhrase.Proofs.DataType.Spelling
import SchemaPhrase.Proofs.Phrase.Passes

/-!
# Phrases that only name a type

A phrase without keywords can be read as a type or as a column. The column's reading collapses the
phrase first, so its type is that of the collapsed phrase, and nothing else is said about the
column (`FieldSet.result_ofPhrase`). The two readings agree where the collapse does not matter:
between single blanks that do not hide the time zone (`FieldSet.ofPhrase_reads_type`). Two blanks
side by side part a name from its arguments (`FieldSet.ofPhrase_reads_more`).
-/

set_option autoImplicit false

namespace SchemaPhrase

open Text

/-- In lower case and collapsed, the phrase has no keyword in it. -/
def KeywordFree (phrase : String) : Prop :=
  ∀ key ∈ Phrase.keywords, occurs key (collapse (lowercaseUnquoted phrase.toList)) = false

instance (phrase : String) : Decidable (KeywordFree phrase) := by
  unfold KeywordFree
  infer_instance

/-- What a phrase says that is nothing but a type. -/
def ParsedPhrase.ofType (dtype : String) : ParsedPhrase :=
  { dtype, nullability := .null, nullable := true, unique := false, pk := false, default := none,
    check := none }

section
variable {phrase : String} (h : KeywordFree phrase)
include h

theorem KeywordFree.not_infix {key : List Char} (hk : key ∈ Phrase.keywords) :
    ¬ key <:+: collapse (lowercaseUnquoted phrase.toList) :=
  occurs_eq_false_iff.1 (h key hk)

theorem KeywordFree.untouched : Phrase.Untouched (lowercaseUnquoted phrase.toList) where
  null hi := h.not_infix (by decide) (infix_collapse (by decide) (forall_mem_of_all (by decide)) hi)
  unique := h.not_infix (by decide)
  primaryKey := h.not_infix (by decide)
  serial := h.not_infix (by decide)

theorem KeywordFree.takeApart?_eq :
    Phrase.takeApart? phrase.toList =
      some (.ofType (String.ofList (collapse (lowercaseUnquoted phrase.toList)))) := by
  have hcheck : occurs Phrase.checkKey (collapse (lowercaseUnquoted phrase.toList)) = false :=
    h _ (by decide)
  have hkey : ¬ "default".toList <:+: collapse (lowercaseUnquoted phrase.toList) :=
    h.not_infix (by decide)
  rw [Phrase.takeApart?, Phrase.takeModifiers_of_untouched h.untouched]
  simp only [Phrase.takeCheck?, hcheck, Bool.false_eq_true, if_false, Option.map_some,
    Phrase.assemble, Phrase.takeDefault_absent hkey]
  rfl

theorem KeywordFree.result_parsePhrase :
    (parsePhrase phrase).result =
      .ok (.ofType (String.ofList (collapse (lowercaseUnquoted phrase.toList)))) :=
  Phrase.result_parsePhrase_eq_ok.2 h.takeApart?_eq

end

/-- What the passes leave is in other letter case, and collapsed. -/
theorem parse_lowercaseUnquoted (phrase : String) :
    DataType.parse (String.ofList (collapse (lowercaseUnquoted phrase.toList))) =
      DataType.parse (collapseWhitespace phrase) := by
  refine DataType.parse_eq_of_foldCase ?_
  rw [collapseWhitespace, String.toList_ofList, String.toList_ofList, ← collapse_foldCase,
    foldCase_lowercaseUnquoted, collapse_foldCase]

namespace FieldSet

theorem result_ofPhrase {phrase : String} (name : String) (h : KeywordFree phrase) :
    (ofPhrase name phrase).result =
      ((DataType.parse (collapseWhitespace phrase)).mapError .dataType).map (ofType name) := by
  rw [ofPhrase, Traced.result_bind, h.result_parsePhrase]
  show (typeOfPhrase _ >>= _).result = _
  rw [Traced.result_bind, result_typeOfPhrase]
  show ((DataType.parse (String.ofList (collapse (lowercaseUnquoted phrase.toList)))).mapError
    _).bind _ = _
  rw [parse_lowercaseUnquoted]
  cases DataType.parse (collapseWhitespace phrase) <;> rfl

end FieldSet

/-- The data type in what a command writes. -/
def Cli.Outcome.shownType? (outcome : Cli.Outcome) : Option Json :=
  match outcome.result with
  | .ok ⟨.object fields, _⟩ => Mapping.get? fields "dtype"
  | _ => none

theorem shownType?_dtypeOutcome (phrase : String) :
    (Cli.dtypeOutcome phrase).shownType? =
      (DataType.parse phrase).toOption.map fun type => .object type.toMapping := by
  unfold Cli.dtypeOutcome Cli.Outcome.ofTraced
  rw [Traced.result_lift]
  cases DataType.parse phrase <;> rfl

theorem shownType?_columnOutcome (settings : ColumnSettings) (name phrase : String) :
    (Cli.columnOutcome settings name phrase).shownType? =
      (Column.parse name phrase settings).result.toOption.map fun column =>
        .object column.fields.dtype.toMapping := by
  unfold Cli.columnOutcome Cli.Outcome.ofTraced
  cases (Column.parse name phrase settings).result <;> rfl

theorem KeywordFree.shownType?_eq {phrase : String} (h : KeywordFree phrase)
    (settings : ColumnSettings) (name : String) :
    (Cli.columnOutcome settings name phrase).shownType? =
      (Cli.dtypeOutcome (collapseWhitespace phrase)).shownType? := by
  rw [shownType?_columnOutcome, shownType?_dtypeOutcome, Column.parse, Traced.result_bind,
    FieldSet.result_ofPhrase name h]
  cases DataType.parse (collapseWhitespace phrase) <;> rfl

namespace FieldSet

/-- **A phrase without keywords** gives a column of the type of the collapsed phrase, with nothing
else said about it, and fails as that type does. Where single blanks part the words and the collapse
does not bring out a time zone, this is the type of the phrase itself. -/
theorem ofPhrase_reads_type (name phrase : String) (h : KeywordFree phrase) :
    (ofPhrase name phrase).result =
        ((DataType.parse (collapseWhitespace phrase)).mapError .dataType).map (ofType name) ∧
      (∀ settings, (Cli.columnOutcome settings name phrase).shownType? =
        (Cli.dtypeOutcome (collapseWhitespace phrase)).shownType?) ∧
      (SinglySpaced phrase.toList →
        (occurs DataType.timezoneText (lowerText phrase.toList) =
          occurs DataType.timezoneText (lowerText (collapse phrase.toList))) →
        (ofPhrase name phrase).result =
            ((DataType.parse phrase).mapError .dataType).map (ofType name) ∧
          ∀ settings, (Cli.columnOutcome settings name phrase).shownType? =
            (Cli.dtypeOutcome phrase).shownType?) := by
  have hresult := result_ofPhrase name h
  have hshown := fun settings => h.shownType?_eq settings name
  refine ⟨hresult, hshown, fun hspaced hzone => ?_⟩
  have hparse := DataType.parse_collapseWhitespace hspaced hzone
  refine ⟨by rw [hresult, hparse], fun settings => ?_⟩
  rw [hshown, shownType?_dtypeOutcome, shownType?_dtypeOutcome, hparse]

/-- A timestamp in capitals, with single blanks. -/
theorem ofPhrase_reads_type_timestamp :
    KeywordFree " Timestamp (3) WITH TIME ZONE" ∧
      SinglySpaced " Timestamp (3) WITH TIME ZONE".toList ∧
      (ofPhrase "at" " Timestamp (3) WITH TIME ZONE").result =
        .ok (ofType "at" (.timestamp 3 true)) ∧
      (Cli.columnOutcome .standard "at" " Timestamp (3) WITH TIME ZONE").shownType? =
        (Cli.dtypeOutcome " Timestamp (3) WITH TIME ZONE").shownType? := by
  have hfree : KeywordFree " Timestamp (3) WITH TIME ZONE" := by decide +kernel
  have hspaced : SinglySpaced " Timestamp (3) WITH TIME ZONE".toList := by decide +kernel
  have hzone : occurs DataType.timezoneText (lowerText " Timestamp (3) WITH TIME ZONE".toList) =
      occurs DataType.timezoneText
        (lowerText (collapse " Timestamp (3) WITH TIME ZONE".toList)) := by
    decide +kernel
  have hparse : DataType.parse " Timestamp (3) WITH TIME ZONE" = .ok (.timestamp 3 true) := by
    decide +kernel
  obtain ⟨hresult, hshown⟩ := (ofPhrase_reads_type "at" _ hfree).2.2 hspaced hzone
  rw [hparse] at hresult
  exact ⟨hfree, hspaced, hresult, hshown _⟩

/-- **A collapse can bring out arguments or a time zone.** Two blanks part a name from its
arguments, and a tab hides the time zone, until the phrase is read as a column. -/
theorem ofPhrase_reads_more :
    (KeywordFree "varchar  (20)" ∧
      DataType.parse "varchar  (20)" = .ok (.character .varchar DataType.unset) ∧
      (ofPhrase "a" "varchar  (20)").result = .ok (ofType "a" (.character .varchar 20))) ∧
    KeywordFree "timestamp with\ttime zone" ∧
      DataType.parse "timestamp with\ttime zone" = .ok (.timestamp DataType.unset false) ∧
      (ofPhrase "a" "timestamp with\ttime zone").result =
        .ok (ofType "a" (.timestamp DataType.unset true)) := by
  have hlength : DataType.parse (collapseWhitespace "varchar  (20)") =
      .ok (.character .varchar 20) := by
    decide +kernel
  have hzone : DataType.parse (collapseWhitespace "timestamp with\ttime zone") =
      .ok (.timestamp DataType.unset true) := by
    decide +kernel
  have hfree : KeywordFree "varchar  (20)" := by decide +kernel
  have hfree' : KeywordFree "timestamp with\ttime zone" := by decide +kernel
  have hresult := result_ofPhrase "a" hfree
  have hresult' := result_ofPhrase "a" hfree'
  rw [hlength] at hresult
  rw [hzone] at hresult'
  exact ⟨⟨hfree, by decide +kernel, hresult⟩, hfree', by decide +kernel, hresult'⟩

end FieldSet

end SchemaPhrase
