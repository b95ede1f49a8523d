import Mathlib.Data.List.Nodup
import SchemaPhrase.Proofs.Traced
import SchemaPhrase.Table.Basic

/-!
# Tables of columns

`ofColumns_iff`: a list of columns makes a table exactly if their names are distinct. Otherwise the
name that is told stands at the least index whose name stands at an earlier one, too
(`IsFirstRepeat`). What the table derives from its columns is stated in `Derived`: one primary key
over the key columns and one foreign key for each column with a reference, both in table order, and
look-ups by name that find every column.

The search for a repeated name goes through the list once and remembers the names that it has
passed; `firstDuplicate?_eq_some_iff` says what it finds, whichever names it starts with.
-/

set_option autoImplicit false

namespace SchemaPhrase.Table

/-! ## Repeated names -/

/-- `name` stands at the least index whose name stands at an earlier one, too. -/
def IsFirstRepeat (names : List String) (name : String) : Prop :=
  ∃ index : Nat, names[index]? = some name ∧ (∃ earlier < index, names[earlier]? = some name) ∧
    ∀ other < index, ∀ earlier < other, names[earlier]? ≠ names[other]?

theorem firstDuplicate?_eq_none_iff {seen names : List String} :
    firstDuplicate? seen names = none ↔ names.Nodup ∧ ∀ name ∈ names, name ∉ seen := by
  induction names generalizing seen with
  | nil => simp [firstDuplicate?]
  | cons name names ih =>
    by_cases hseen : name ∈ seen
    · have hrepeat : ¬ ∀ other ∈ name :: names, other ∉ seen :=
        fun h => h name List.mem_cons_self hseen
      simp [firstDuplicate?, hseen]
    · rw [firstDuplicate?, if_neg (by simpa using hseen), ih, List.nodup_cons]
      simp only [List.mem_cons, not_or, forall_eq_or_imp]
      constructor
      · rintro ⟨hnodup, hall⟩
        exact ⟨⟨fun hm => (hall name hm).1 rfl, hnodup⟩, hseen, fun other ho => (hall other ho).2⟩
      · rintro ⟨⟨hnot, hnodup⟩, -, hall⟩
        refine ⟨hnodup, fun other ho => ⟨?_, hall other ho⟩⟩
        rintro rfl
        exact hnot ho

/-- **The search stops at the first name** that stands in `seen` or earlier in the list. -/
theorem firstDuplicate?_eq_some_iff {seen names : List String} {name : String} :
    firstDuplicate? seen names = some name ↔
      ∃ before after, names = before ++ name :: after ∧ (name ∈ seen ∨ name ∈ before) ∧
        before.Nodup ∧ ∀ other ∈ before, other ∉ seen := by
  induction names generalizing seen with
  | nil => simp [firstDuplicate?]
  | cons first names ih =>
    by_cases hseen : first ∈ seen
    · rw [firstDuplicate?, if_pos (by simpa using hseen), Option.some.injEq]
      constructor
      · rintro rfl
        exact ⟨[], names, rfl, .inl hseen, List.nodup_nil, List.forall_mem_nil _⟩
      · rintro ⟨before, after, hnames, -, -, hfresh⟩
        cases before with
        | nil => exact (List.cons.inj hnames).1
        | cons other before =>
          obtain ⟨rfl, -⟩ := List.cons.inj hnames
          exact absurd hseen (hfresh first List.mem_cons_self)
    · rw [firstDuplicate?, if_neg (by simpa using hseen), ih]
      constructor
      · rintro ⟨before, after, rfl, hname, hnodup, hfresh⟩
        refine ⟨first :: before, after, rfl, ?_, ?_, ?_⟩
        · rw [List.mem_cons] at hname ⊢
          tauto
        · exact List.nodup_cons.2 ⟨fun hm => hfresh first hm List.mem_cons_self, hnodup⟩
        · refine List.forall_mem_cons.2 ⟨hseen, fun other ho hm => ?_⟩
          exact hfresh other ho (List.mem_cons_of_mem _ hm)
      · rintro ⟨before, after, hnames, hname, hnodup, hfresh⟩
        cases before with
        | nil =>
          obtain ⟨rfl, -⟩ := List.cons.inj hnames
          exact absurd (hname.resolve_right List.not_mem_nil) hseen
        | cons other before =>
          obtain ⟨rfl, rfl⟩ := List.cons.inj hnames
          obtain ⟨hfirst, hnodup⟩ := List.nodup_cons.1 hnodup
          refine ⟨before, after, rfl, ?_, hnodup, fun other ho hm => ?_⟩
          · rw [List.mem_cons] at hname ⊢
            tauto
          · rcases List.mem_cons.1 hm with rfl | hm
            · exact hfirst ho
            · exact hfresh other (List.mem_cons_of_mem _ ho) hm

/-- The index of a first repeat parts the list: the names before it are distinct, and the repeated
one is among them. -/
theorem isFirstRepeat_iff {names : List String} {name : String} :
    IsFirstRepeat names name ↔
      ∃ before after, names = before ++ name :: after ∧ name ∈ before ∧ before.Nodup := by
  constructor
  · rintro ⟨index, hname, ⟨earlier, hlt, hearlier⟩, hleast⟩
    obtain ⟨hindex, hget⟩ := List.getElem?_eq_some_iff.1 hname
    refine ⟨names.take index, names.drop (index + 1), ?_, ?_, ?_⟩
    · rw [← hget, List.getElem_cons_drop, List.take_append_drop]
    · refine List.mem_iff_getElem?.2 ⟨earlier, ?_⟩
      rw [List.getElem?_take_of_lt hlt, hearlier]
    · refine List.nodup_iff_getElem?_ne_getElem?.2 fun i j hij hj => ?_
      rw [List.length_take] at hj
      have hj : j < index := by omega
      rw [List.getElem?_take_of_lt hj, List.getElem?_take_of_lt (Nat.lt_trans hij hj)]
      exact hleast j hj i hij
  · rintro ⟨before, after, rfl, hmem, hnodup⟩
    obtain ⟨earlier, hearlier⟩ := List.mem_iff_getElem?.1 hmem
    have hlt : earlier < before.length := (List.getElem?_eq_some_iff.1 hearlier).1
    refine ⟨before.length, by simp, ⟨earlier, hlt, ?_⟩, fun other ho i hi => ?_⟩
    · rw [List.getElem?_append_left hlt, hearlier]
    · rw [List.getElem?_append_left ho, List.getElem?_append_left (Nat.lt_trans hi ho)]
      exact List.nodup_iff_getElem?_ne_getElem?.1 hnodup i other hi ho

theorem firstDuplicate?_nil_eq_some_iff {names : List String} {name : String} :
    firstDuplicate? [] names = some name ↔ IsFirstRepeat names name := by
  rw [firstDuplicate?_eq_some_iff, isFirstRepeat_iff]
  simp

theorem firstDuplicate?_nil_eq_none_iff {names : List String} :
    firstDuplicate? [] names = none ↔ names.Nodup := by
  rw [firstDuplicate?_eq_none_iff]
  simp

/-! ## What is derived -/

/-- A foreign key over a column, to where the column refers, with the derived name. -/
structure KeyOf (column : Column) (key : ForeignKey) : Prop where
  covers : key.column = column.fields.name
  refers : column.fields.fk = some key.reference
  name : key.name =
    column.fields.name ++ "_" ++ key.reference.table ++ "_" ++ key.reference.column ++ "_fk"

/-- **What a table derives from its columns**, and how it finds them. -/
structure Derived (columns : List Column) (table : Table) : Prop where
  kept : table.columns = columns
  pk_columns : table.pk.columns = (columns.filter (·.fields.pk)).map (·.fields.name)
  mem_pk : ∀ column ∈ columns, column.fields.name ∈ table.pk.columns ↔ column.fields.pk = true
  pk_name : table.pk.name =
    if table.pk.columns = [] then none else some ("_".intercalate table.pk.columns ++ "_pk")
  fk : List.Forall₂ KeyOf (columns.filter (·.fields.fk.isSome)) table.fk
  unique : ∀ column ∈ columns, ∀ other ∈ columns,
    column.fields.name = other.fields.name → column = other
  column? : ∀ name column,
    table.column? name = some column ↔ column ∈ columns ∧ column.fields.name = name

theorem forall₂_derivedForeignKeys (columns : List Column) :
    List.Forall₂ KeyOf (columns.filter (·.fields.fk.isSome)) (derivedForeignKeys columns) := by
  induction columns with
  | nil => exact .nil
  | cons column columns ih =>
    cases hfk : column.fields.fk with
    | none => simpa [derivedForeignKeys, hfk] using ih
    | some reference =>
      have hkey : KeyOf column (.ofColumn column.fields.name reference) := ⟨rfl, hfk, rfl⟩
      simpa [derivedForeignKeys, hfk] using List.Forall₂.cons hkey ih

theorem name_ofColumns (names : List String) :
    (PrimaryKey.ofColumns names).name =
      if names = [] then none else some ("_".intercalate names ++ "_pk") := by
  cases names <;> rfl

section
variable {columns : List Column} (hnodup : (columns.map (·.fields.name)).Nodup)
include hnodup

theorem eq_of_name_eq {column other : Column} (hc : column ∈ columns) (ho : other ∈ columns)
    (h : column.fields.name = other.fields.name) : column = other :=
  List.inj_on_of_nodup_map hnodup hc ho h

theorem name_mem_derivedPrimaryKey {column : Column} (hc : column ∈ columns) :
    column.fields.name ∈ (derivedPrimaryKey columns).columns ↔ column.fields.pk = true := by
  show _ ∈ (columns.filter (·.fields.pk)).map (·.fields.name) ↔ _
  rw [List.mem_map]
  constructor
  · rintro ⟨other, ho, hname⟩
    obtain ⟨hmem, hpk⟩ := List.mem_filter.1 ho
    rwa [← eq_of_name_eq hnodup hmem hc hname]
  · intro hpk
    exact ⟨column, List.mem_filter.2 ⟨hc, hpk⟩, rfl⟩

/-- **A look-up finds the column of the name**, of which there is only one. -/
theorem find?_name_eq_some_iff {name : String} {column : Column} :
    columns.find? (·.fields.name == name) = some column ↔
      column ∈ columns ∧ column.fields.name = name := by
  constructor
  · intro h
    exact ⟨List.mem_of_find?_eq_some h, by simpa using List.find?_some h⟩
  · rintro ⟨hc, rfl⟩
    cases hfind : columns.find? (·.fields.name == column.fields.name) with
    | none => simpa using List.find?_eq_none.1 hfind column hc
    | some other =>
      have hname : other.fields.name = column.fields.name := by simpa using List.find?_some hfind
      rw [eq_of_name_eq hnodup (List.mem_of_find?_eq_some hfind) hc hname]

end

theorem ofColumns_eq_ok_iff {name : String} {columns : List Column} {table : Table} :
    ofColumns name columns = .ok table ↔ (columns.map (·.fields.name)).Nodup ∧
      table = ⟨name, columns, derivedPrimaryKey columns, derivedForeignKeys columns⟩ := by
  rw [← firstDuplicate?_nil_eq_none_iff, ofColumns]
  cases firstDuplicate? [] (columns.map (·.fields.name)) with
  | none => simpa using eq_comm
  | some duplicate => simp

theorem ofColumns_eq_error_iff {name : String} {columns : List Column} {cause : TableError} :
    ofColumns name columns = .error cause ↔
      ∃ duplicate, cause = .duplicateColumn duplicate ∧
        IsFirstRepeat (columns.map (·.fields.name)) duplicate := by
  simp only [← firstDuplicate?_nil_eq_some_iff]
  unfold ofColumns
  cases firstDuplicate? [] (columns.map (·.fields.name)) with
  | none => simp
  | some duplicate => simp [eq_comm]

theorem derived_of_nodup (name : String) {columns : List Column}
    (hnodup : (columns.map (·.fields.name)).Nodup) :
    Derived columns
      ⟨name, columns, derivedPrimaryKey columns, derivedForeignKeys columns⟩ where
  kept := rfl
  pk_columns := rfl
  mem_pk _ hc := name_mem_derivedPrimaryKey hnodup hc
  pk_name := name_ofColumns _
  fk := forall₂_derivedForeignKeys columns
  unique _ hc _ ho := eq_of_name_eq hnodup hc ho
  column? _ _ := find?_name_eq_some_iff hnodup

/-- **A list of columns makes a table exactly if their names are distinct.** Otherwise the first
name that is repeated is told. The table holds the columns as they were given and derives its
constraints from them. -/
theorem ofColumns_iff (name : String) (columns : List Column) :
    ((∃ table, ofColumns name columns = .ok table) ↔ (columns.map (·.fields.name)).Nodup) ∧
      (∀ cause, ofColumns name columns = .error cause ↔
        ∃ duplicate, cause = .duplicateColumn duplicate ∧
          IsFirstRepeat (columns.map (·.fields.name)) duplicate) ∧
      ∀ table, ofColumns name columns = .ok table → table.name = name ∧ Derived columns table := by
  refine ⟨?_, fun cause => ofColumns_eq_error_iff, fun table h => ?_⟩
  · simp only [ofColumns_eq_ok_iff, exists_and_left, exists_eq, and_true]
  · obtain ⟨hnodup, rfl⟩ := ofColumns_eq_ok_iff.1 h
    exact ⟨rfl, derived_of_nodup name hnodup⟩

/-- A table with a key over two of its columns and a reference. -/
theorem ofColumns_iff_orders :
    let tenant : Column := ⟨"tenant", .plain .integer, false, false, none, none, true, none⟩
    let note : Column :=
      ⟨"note", .plain .text, true, false, none, none, false, some ⟨"notes", "id"⟩⟩
    let id : Column := ⟨"id", .plain .bigint, false, false, none, none, true, none⟩
    ∃ table, ofColumns "orders" [tenant, note, id] = .ok table ∧
      table.pk = ⟨some "tenant_id_pk", ["tenant", "id"]⟩ ∧
      table.fk = [⟨"note_notes_id_fk", "note", ⟨"notes", "id"⟩⟩] ∧
      Derived [tenant, note, id] table := by
  intro tenant note id
  obtain ⟨haccepted, -, hderived⟩ := ofColumns_iff "orders" [tenant, note, id]
  obtain ⟨table, htable⟩ := haccepted.2 (by decide)
  have hrun : ofColumns "orders" [tenant, note, id] =
      .ok ⟨"orders", [tenant, note, id], ⟨some "tenant_id_pk", ["tenant", "id"]⟩,
        [⟨"note_notes_id_fk", "note", ⟨"notes", "id"⟩⟩]⟩ := by
    decide +kernel
  cases htable.symm.trans hrun
  exact ⟨_, htable, rfl, rfl, (hderived _ htable).2⟩

end SchemaPhrase.Table
