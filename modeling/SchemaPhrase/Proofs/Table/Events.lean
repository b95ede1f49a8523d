import SchemaPhrase.Proofs.Column.Events
import SchemaPhrase.Proofs.Table.Stages

/-!
# What a table tells

A table tells what its columns tell, in their order. The first column that fails is the last one
that is attempted (`Attempted`), and tells what it did until then. Without a name or a list of
columns nothing is attempted, and what is wrong with the table as a whole is found in silence.
Together with the events of one column this is the whole trace (`events_exact`).
-/

set_option autoImplicit false

namespace SchemaPhrase.Table

/-! ## The columns that are attempted -/

/-- The items that are read as columns: all of them, or those through the first that fails. -/
inductive Attempted (settings : ColumnSettings) (items : List Json) : List Json → Prop
  | all {columns : List Column} : ReadsAll settings items columns → Attempted settings items items
  | through {index : Nat} {cause : ColumnError} : FirstFailure settings items index cause →
    Attempted settings items (items.take (index + 1))

section
variable {settings : ColumnSettings} {item : Json} {items attempted : List Json}

theorem attempted_nil_iff : Attempted settings [] attempted ↔ attempted = [] := by
  refine ⟨fun h => ?_, ?_⟩
  · cases h with
    | all _ => rfl
    | through hfirst => exact List.take_nil
  · rintro rfl
    exact .all .nil

theorem attempted_cons_iff :
    Attempted settings (item :: items) attempted ↔
      (∃ cause, (Column.ofJson item settings).result = .error cause ∧ attempted = [item]) ∨
        ∃ column rest, (Column.ofJson item settings).result = .ok column ∧
          Attempted settings items rest ∧ attempted = item :: rest := by
  constructor
  · intro h
    cases h with
    | all hreads =>
      obtain ⟨column, columns, hcolumn, hrest, -⟩ := List.forall₂_cons_left_iff.1 hreads
      exact .inr ⟨column, items, hcolumn, .all hrest, rfl⟩
    | @through index cause hfirst =>
      cases index with
      | zero => exact .inl ⟨cause, firstFailure_zero.1 hfirst, rfl⟩
      | succ index =>
        obtain ⟨⟨column, hcolumn⟩, hrest⟩ := firstFailure_succ.1 hfirst
        exact .inr ⟨column, _, hcolumn, .through hrest, rfl⟩
  · rintro (⟨cause, hfails, rfl⟩ | ⟨column, rest, hcolumn, hrest, rfl⟩)
    · exact .through (firstFailure_zero.2 hfails)
    · cases hrest with
      | all hreads => exact .all (.cons hcolumn hreads)
      | through hfirst => exact .through (firstFailure_succ.2 ⟨⟨column, hcolumn⟩, hfirst⟩)

theorem exists_attempted (settings : ColumnSettings) (items : List Json) :
    ∃ attempted, Attempted settings items attempted := by
  induction items with
  | nil => exact ⟨[], attempted_nil_iff.2 rfl⟩
  | cons item items ih =>
    cases hitem : (Column.ofJson item settings).result with
    | error cause => exact ⟨_, attempted_cons_iff.2 (.inl ⟨cause, hitem, rfl⟩)⟩
    | ok column =>
      obtain ⟨rest, hrest⟩ := ih
      exact ⟨_, attempted_cons_iff.2 (.inr ⟨column, rest, hitem, hrest, rfl⟩)⟩

theorem events_readColumns_cons (start : Nat) :
    (readColumns settings start (item :: items)).events =
      (Column.ofJson item settings).events ++
        match (Column.ofJson item settings).result with
        | .ok _ => (readColumns settings (start + 1) items).events
        | .error _ => [] := by
  rw [readColumns, Traced.events_bind, Traced.events_mapError, Traced.result_mapError]
  cases (Column.ofJson item settings).result with
  | error cause => rfl
  | ok column => exact congrArg _ (Traced.events_bind_pure _ _)

theorem Attempted.events_eq {start : Nat} (h : Attempted settings items attempted) :
    (readColumns settings start items).events =
      attempted.flatMap fun item => (Column.ofJson item settings).events := by
  induction items generalizing start attempted with
  | nil =>
    rw [attempted_nil_iff.1 h]
    rfl
  | cons item items ih =>
    rw [events_readColumns_cons]
    rcases attempted_cons_iff.1 h with ⟨cause, hfails, rfl⟩ | ⟨column, rest, hcolumn, hrest, rfl⟩
    · rw [hfails, List.flatMap_singleton, List.append_nil]
    · rw [hcolumn, List.flatMap_cons, ih hrest]

theorem forall₂_documentTrace_iff {told : List (List Event)} :
    List.Forall₂ (Column.DocumentTrace settings) items told ↔
      told = items.map fun item => (Column.ofJson item settings).events := by
  constructor
  · intro h
    induction h with
    | nil => rfl
    | cons htold _ ih => rw [Column.documentTrace_iff.1 htold, ih, List.map_cons]
  · rintro rfl
    rw [List.forall₂_map_right_iff, List.forall₂_same]
    exact fun _ _ => Column.documentTrace_iff.2 rfl

end

/-! ## The events of a table -/

/-- **The events of a table**, from its document. -/
inductive Trace (settings : ColumnSettings) : Json → List Event → Prop
  | notAMapping {document : Json} : (∀ raw, document ≠ .object raw) → Trace settings document []
  | unnamed {raw : Mapping} : (∀ name, raw.get? TableField.name.key ≠ some (.string name)) →
    Trace settings (.object raw) []
  | misfits {raw : Mapping} : Misfits raw .schemas items? → Trace settings (.object raw) []
  | columns {raw : Mapping} {name : String} {items attempted : List Json}
      {told : List (List Event)} :
    raw.get? TableField.name.key = some (.string name) → Lists raw items →
    Attempted settings items attempted →
    List.Forall₂ (Column.DocumentTrace settings) attempted told →
    Trace settings (.object raw) told.flatten

section
variable {raw : Mapping} {settings : ColumnSettings}

/-- After the columns nothing is told. -/
theorem events_ofMapping_of_name {name : String}
    (h : raw.get? TableField.name.key = some (.string name)) :
    (ofMapping raw settings).events = (columnsOf raw settings).events := by
  rw [ofMapping_of_name h]
  exact Traced.events_bind_of_silent fun _ => Traced.events_lift _

theorem events_ofMapping_of_unnamed
    (h : ∀ name, raw.get? TableField.name.key ≠ some (.string name)) :
    (ofMapping raw settings).events = [] := by
  unfold ofMapping
  split
  · rfl
  · next name hname => exact absurd hname (h name)
  · rfl

theorem trace_ofMapping : Trace settings (.object raw) (ofMapping raw settings).events := by
  by_cases hname : ∃ name, raw.get? TableField.name.key = some (.string name)
  · obtain ⟨name, hname⟩ := hname
    rw [events_ofMapping_of_name hname]
    rcases misfits_or_lists raw with hmisfits | ⟨items, hlists⟩
    · rw [hmisfits.columnsOf_eq]
      exact .misfits hmisfits
    · obtain ⟨attempted, hattempted⟩ := exists_attempted settings items
      rw [hlists.columnsOf_eq, hattempted.events_eq, List.flatMap_def]
      exact .columns hname hlists hattempted (forall₂_documentTrace_iff.2 rfl)
  · rw [not_exists] at hname
    rw [events_ofMapping_of_unnamed hname]
    exact .unnamed hname

/-- **The events of a table document** are these, and no others. -/
theorem trace_iff {document : Json} {events : List Event} :
    Trace settings document events ↔ events = (ofJson document settings).events := by
  constructor
  · intro h
    cases h with
    | notAMapping hother =>
      cases document with
      | object raw => exact absurd rfl (hother raw)
      | _ => rfl
    | unnamed hunnamed => exact (events_ofMapping_of_unnamed hunnamed).symm
    | @misfits raw hmisfits =>
      show [] = (ofMapping raw settings).events
      by_cases hname : ∃ name, raw.get? TableField.name.key = some (.string name)
      · obtain ⟨name, hname⟩ := hname
        rw [events_ofMapping_of_name hname, hmisfits.columnsOf_eq, Traced.events_fail]
      · exact (events_ofMapping_of_unnamed (not_exists.1 hname)).symm
    | @columns raw name items attempted told hname hlists hattempted htold =>
      show told.flatten = (ofMapping raw settings).events
      rw [events_ofMapping_of_name hname, hlists.columnsOf_eq, hattempted.events_eq,
        forall₂_documentTrace_iff.1 htold, List.flatMap_def]
  · rintro rfl
    cases document with
    | object raw => exact trace_ofMapping
    | _ => exact .notAMapping nofun

end

end SchemaPhrase.Table

namespace SchemaPhrase

/-- **No event is lost, added or out of order.** A column mapping tells the phrase, the name that
is not known and the correction, each exactly if there is one; a correction is there exactly if the
column is not as nullable as its fields; and a table tells what its columns tell, through the first
one that fails. -/
theorem events_exact (settings : ColumnSettings) :
    (∀ raw events,
      Column.Trace raw settings events ↔ events = (Column.ofMapping raw settings).events) ∧
    (∀ raw event, Column.CorrectionTold raw settings event ↔ ∃ fields column,
      (FieldSet.normalize raw settings).result = .ok fields ∧
      (Column.ofMapping raw settings).result = .ok column ∧
      column.fields.nullable ≠ fields.nullable ∧ event = .corrected fields.name) ∧
    ∀ document events,
      Table.Trace settings document events ↔ events = (Table.ofJson document settings).events :=
  ⟨fun _ _ => Column.trace_iff, fun _ _ => Column.correctionTold_iff, fun _ _ => Table.trace_iff⟩

/-- The second column fails after it told its phrase; the third is not read. -/
example :
    let column (name phrase : String) : Json :=
      .object [("dtype", .string phrase), ("name", .string name), ("nullable", .bool true)]
    (Table.ofJson (.object [("name", .string "t"), ("schemas", .array
      [column "k" "My  Type( 7 ) primary key", column "d" "int default 5", column "x" "text"])])
      .standard).events =
    [.phrase "My  Type( 7 ) primary key" "my type( 7 )", .fallback "my", .corrected "k",
      .phrase "int default 5" "int"] := by
  decide +kernel

end SchemaPhrase
