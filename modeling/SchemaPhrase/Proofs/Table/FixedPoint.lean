import SchemaPhrase.Proofs.Column.RoundTrip
import SchemaPhrase.Table.Basic

/-!
# Tables written and read back

`Built.fixedPoint`: a table that is written is read back as that table, under any settings that
take the data types from `dtype`, in the order of the declaration and with its keys in order.

The constraints come back as given ones and compete with those derived from the columns. `Valid`
states what decides that: a key over no columns and an empty list of foreign keys are the derived
ones, so that falling back to them changes nothing, and a key over columns has a name, so that none
is derived for it.
-/

set_option autoImplicit false

namespace SchemaPhrase

/-! ## What holds of every table -/

namespace Table

/-- **What holds of every table**: its columns are valid and have names of their own, and its
constraints are those of the columns if they say nothing. -/
structure Valid (table : Table) : Prop where
  columns : ∀ column ∈ table.columns, column.Valid
  unique : firstDuplicate? [] (table.columns.map (·.fields.name)) = none
  pk_name : table.pk.columns ≠ [] → table.pk.name.isSome = true
  pk_empty : table.pk.columns = [] → table.pk = derivedPrimaryKey table.columns
  fk_empty : table.fk = [] → derivedForeignKeys table.columns = []

theorem valid_of_ofColumns {name : String} {columns : List Column} {table : Table}
    (hcolumns : ∀ column ∈ columns, column.Valid) (h : ofColumns name columns = .ok table) :
    table.Valid ∧ table.columns = columns := by
  unfold ofColumns at h
  split at h
  · cases h
  · next hunique =>
    cases h
    exact ⟨⟨hcolumns, hunique, PrimaryKey.name_withName, fun _ => rfl, fun h => h⟩, rfl⟩

/-- A constraint that is given replaces the current one only if it says something. -/
theorem given_cases {α : Type} {field : TableField} {read? : Json → Option α} {isEmpty : α → Bool}
    {current result : α} {raw : Mapping} (h : given field read? isEmpty current raw = .ok result) :
    result = current ∨ isEmpty result = false ∧ ∃ document, read? document = some result := by
  unfold given at h
  split at h
  · exact .inl (Except.ok.inj h).symm
  · exact .inl (Except.ok.inj h).symm
  · next document _ _ =>
    split at h
    · next constraint hread =>
      have h := Except.ok.inj h
      split at h
      · exact .inl h.symm
      · next hempty =>
        subst h
        exact .inr ⟨Bool.not_eq_true _ ▸ hempty, document, hread⟩
    · cases h

theorem valid_of_assemble {name : String} {columns : List Column} {raw : Mapping} {table : Table}
    (hcolumns : ∀ column ∈ columns, column.Valid) (h : assemble name columns raw = .ok table) :
    table.Valid := by
  unfold assemble at h
  obtain ⟨derived, hderived, h⟩ := bind_eq_ok.1 h
  obtain ⟨pk, hpk, h⟩ := bind_eq_ok.1 h
  obtain ⟨fk, hfk, h⟩ := bind_eq_ok.1 h
  cases h
  obtain ⟨hvalid, -⟩ := valid_of_ofColumns hcolumns hderived
  refine ⟨hvalid.columns, hvalid.unique, ?_, ?_, ?_⟩
  · rcases given_cases hpk with rfl | ⟨-, document, hread⟩
    · exact hvalid.pk_name
    · exact PrimaryKey.name_of_ofJson? hread
  · rcases given_cases hpk with rfl | ⟨hempty, -⟩
    · exact hvalid.pk_empty
    · intro hnil
      have hne : pk.columns ≠ [] := by simpa [PrimaryKey.isEmpty] using hempty
      exact absurd hnil hne
  · rcases given_cases hfk with rfl | ⟨hempty, -⟩
    · exact hvalid.fk_empty
    · intro hnil
      have hne : fk ≠ [] := by simpa using hempty
      exact absurd hnil hne

theorem valid_of_readColumns {settings : ColumnSettings} {index : Nat} {items : List Json}
    {columns : List Column} (h : (readColumns settings index items).result = .ok columns) :
    ∀ column ∈ columns, column.Valid := by
  induction items generalizing index columns with
  | nil =>
    cases h
    exact List.forall_mem_nil _
  | cons item items ih =>
    obtain ⟨column, hcolumn, h⟩ := Traced.result_bind_eq_ok.1 h
    obtain ⟨others, hothers, h⟩ := Traced.result_bind_eq_ok.1 h
    cases h
    refine List.forall_mem_cons.2 ⟨?_, ih hothers⟩
    exact Column.valid_of_ofJson (Traced.result_mapError_eq_ok.1 hcolumn)

theorem valid_of_ofJson {document : Json} {settings : ColumnSettings} {table : Table}
    (h : (ofJson document settings).result = .ok table) : table.Valid := by
  unfold ofJson at h
  split at h
  · unfold ofMapping at h
    split at h
    · cases h
    · obtain ⟨columns, hcolumns, h⟩ := Traced.result_bind_eq_ok.1 h
      refine valid_of_assemble ?_ h
      unfold columnsOf at hcolumns
      split at hcolumns
      · cases hcolumns
        exact List.forall_mem_nil _
      · cases hcolumns
        exact List.forall_mem_nil _
      · exact valid_of_readColumns hcolumns
      · cases hcolumns
    · cases h
  · cases h

/-! ## Mappings that say what a table is -/

/-- A mapping that gives the name, the columns and the constraints of a table, so that they are
read back under some settings. -/
structure Writes (settings : ColumnSettings) (raw : Mapping) (table : Table) : Prop where
  name : raw.get? "name" = some (.string table.name)
  columns : ∃ write, raw.get? "schemas" = some (.array (table.columns.map write)) ∧
    ∀ column ∈ table.columns, Column.ofJson (write column) settings = .lift (.ok column)
  pk : ∃ fields, raw.get? "pk" = some (.object fields) ∧
    PrimaryKey.ofJson? (.object fields) = some (.withName table.pk.name table.pk.columns)
  fk : ∃ items, raw.get? "fk" = some (.array items) ∧
    ForeignKey.listOfJson? (.array items) = some table.fk

theorem readColumns_map {settings : ColumnSettings} {write : Column → Json} {columns : List Column}
    (h : ∀ column ∈ columns, Column.ofJson (write column) settings = .lift (.ok column))
    (index : Nat) : readColumns settings index (columns.map write) = .lift (.ok columns) := by
  induction columns generalizing index with
  | nil => rfl
  | cons column columns ih =>
    obtain ⟨hcolumn, hcolumns⟩ := List.forall_mem_cons.1 h
    rw [List.map_cons, readColumns, hcolumn]
    show Traced.lift (.ok column) >>= _ = _
    rw [Traced.lift_ok_bind, ih hcolumns, Traced.lift_ok_bind]
    rfl

section
variable {settings : ColumnSettings} {raw : Mapping} {table : Table}
  (hw : Writes settings raw table) (hvalid : table.Valid)
include hw hvalid

/-- A written key over no columns gives way to the derived one, which is the same. -/
theorem given_pk :
    given .pk PrimaryKey.ofJson? PrimaryKey.isEmpty (derivedPrimaryKey table.columns) raw =
      .ok table.pk := by
  obtain ⟨fields, hfields, hread⟩ := hw.pk
  have hget : raw.get? TableField.pk.key = some (.object fields) := hfields
  simp only [given, hget, hread]
  -- a key over no columns counts as not given, whatever its name is
  by_cases hcolumns : table.pk.columns = []
  · rw [if_pos (by simp [PrimaryKey.isEmpty, PrimaryKey.withName, hcolumns]),
      hvalid.pk_empty hcolumns]
  · rw [PrimaryKey.withName_self hvalid.pk_name hcolumns,
      if_neg (by simpa [PrimaryKey.isEmpty] using hcolumns)]

/-- Written foreign keys give way to the derived ones if there are none of either. -/
theorem given_fk :
    given .fk ForeignKey.listOfJson? List.isEmpty (derivedForeignKeys table.columns) raw =
      .ok table.fk := by
  obtain ⟨items, hitems, hread⟩ := hw.fk
  have hget : raw.get? TableField.fk.key = some (.array items) := hitems
  simp only [given, hget, hread]
  by_cases hnil : table.fk = []
  · rw [if_pos (by simp [hnil]), hvalid.fk_empty hnil, hnil]
  · rw [if_neg (by simpa using hnil)]

theorem assemble_of_writes : assemble table.name table.columns raw = .ok table := by
  unfold assemble ofColumns
  rw [hvalid.unique]
  show (given .pk _ _ (derivedPrimaryKey table.columns) raw >>= fun pk =>
    given .fk _ _ (derivedForeignKeys table.columns) raw >>= fun fk => _) = _
  rw [given_pk hw hvalid]
  show (given .fk _ _ (derivedForeignKeys table.columns) raw >>= fun fk => _) = _
  rw [given_fk hw hvalid]
  rfl

/-- **A mapping that says what a valid table is** is read as that table. -/
theorem ofMapping_of_writes : ofMapping raw settings = .lift (.ok table) := by
  obtain ⟨write, hschemas, hcolumns⟩ := hw.columns
  have hread : columnsOf raw settings = .lift (.ok table.columns) := by
    have hget : raw.get? TableField.schemas.key = some (.array (table.columns.map write)) :=
      hschemas
    simp only [columnsOf, hget]
    exact readColumns_map hcolumns 0
  have hget : raw.get? TableField.name.key = some (.string table.name) := hw.name
  simp only [ofMapping, hget, hread, Traced.lift_ok_bind, assemble_of_writes hw hvalid]

end

/-! ## The written forms -/

/-- The fields of a written table. -/
def writtenFields (table : Table) : List (String × Json) :=
  [("name", .string table.name), ("schemas", .array (table.columns.map Column.document)),
    ("pk", table.pk.document), ("fk", .array (table.fk.map ForeignKey.document))]

section
variable {settings : ColumnSettings} {table : Table} (hvalid : table.Valid)
  (hs : selectKey? Column.writtenKeys settings.dtypeAliases = some "dtype")
include hvalid hs

theorem writes_document : Writes settings table.writtenFields table := by
  refine ⟨rfl, ⟨Column.document, rfl, fun column hc => ?_⟩, ⟨_, rfl, ?_⟩, ⟨_, rfl, ?_⟩⟩
  · have hcolumn := hvalid.columns column hc
    exact Column.ofMapping_of_writes (Column.writes_document hcolumn) hcolumn hs
  · exact PrimaryKey.ofJson?_of_get? rfl rfl
  · exact mapM_map_eq_some fun key _ => ForeignKey.ofJson?_document key

theorem writes_normal :
    Writes settings (.ofFields (Json.normalFields table.writtenFields)) table := by
  have hnodup : (Mapping.keys table.writtenFields).Nodup := by
    simp [Mapping.keys, writtenFields]
  have hget := Json.get?_normal hnodup
  refine ⟨hget "name", ⟨fun column => column.document.normal, ?_, fun column hc => ?_⟩,
    ⟨_, hget "pk", ?_⟩, ⟨table.fk.map fun key => key.document.normal, ?_, ?_⟩⟩
  · rw [hget]
    show some (Json.array (Json.normalItems _)) = _
    rw [Json.normalItems_eq_map, List.map_map]
    rfl
  · have hcolumn := hvalid.columns column hc
    show Column.ofJson column.document.normal settings = _
    rw [Column.normal_document]
    exact Column.ofMapping_of_writes (Column.writes_toMapping hcolumn) hcolumn hs
  · exact PrimaryKey.ofJson?_normal_document _
  · rw [hget]
    show some (Json.array (Json.normalItems _)) = _
    rw [Json.normalItems_eq_map, List.map_map]
    rfl
  · exact mapM_map_eq_some fun key _ => ForeignKey.ofJson?_normal_document key

end

/-- The tables that can be had: from a document, and from a name and columns. -/
inductive Built : Table → Prop
  | ofJson {document : Json} {settings : ColumnSettings} {table : Table} :
    (Table.ofJson document settings).result = .ok table → Built table
  | ofColumns {name : String} {columns : List Column} {table : Table} :
    (∀ column ∈ columns, column.Reachable) → Table.ofColumns name columns = .ok table →
    Built table

theorem Built.valid {table : Table} (h : Built table) : table.Valid := by
  cases h with
  | ofJson h => exact valid_of_ofJson h
  | ofColumns hcolumns h =>
    exact (valid_of_ofColumns (fun column hc => (hcolumns column hc).valid) h).1

/-- **Writing and reading a table is a fixed point.** Every table is read back as it is, its
columns in order and its constraints with their names, under any settings that take the data types
from `dtype`; whether its keys are written in the order of the declaration or in order. -/
theorem Built.fixedPoint {table : Table} (h : Built table) {settings : ColumnSettings}
    (hs : selectKey? Column.writtenKeys settings.dtypeAliases = some "dtype") :
    Table.ofJson table.document settings = .lift (.ok table) ∧
      Table.ofJson table.document.normal settings = .lift (.ok table) :=
  ⟨ofMapping_of_writes (writes_document h.valid hs) h.valid,
    ofMapping_of_writes (writes_normal h.valid hs) h.valid⟩

/-- A table with a key that is given and named by derivation and a foreign key that is derived. -/
theorem fixedPoint_orders :
    ∃ table : Table,
      (Table.ofJson (.object [("name", .string "orders"),
        ("schemas", .array [
          .object [("name", .string "order id"), ("dtype", .string "serial primary key")],
          .object [("name", .string "account"), ("dtype", .string "bigint not null"),
            ("fk", .object [("table", .string "accounts"), ("column", .string "id")])]]),
        ("pk", .object [("columns", .ofStrings ["orderid", "account"])])])
        .standard).result = .ok table ∧
      table.pk.name = some "orderid_account_pk" ∧
      table.fk.map (·.name) = ["account_accounts_id_fk"] ∧
      selectKey? Column.writtenKeys ["type", "dtype", "name"] = some "dtype" ∧
      Table.ofJson table.document ⟨["type", "dtype", "name"], .reject⟩ = .lift (.ok table) ∧
      Table.ofJson table.document.normal ⟨["type", "dtype", "name"], .reject⟩ =
        .lift (.ok table) := by
  let table : Table :=
    { name := "orders"
      columns :=
        [⟨"orderid", .plain .integer, false, false, some (.text Phrase.serialDefault), none, true,
            none⟩,
          ⟨"account", .plain .bigint, false, false, none, none, false, some ⟨"accounts", "id"⟩⟩]
      pk := ⟨some "orderid_account_pk", ["orderid", "account"]⟩
      fk := [⟨"account_accounts_id_fk", "account", ⟨"accounts", "id"⟩⟩] }
  have hread : (Table.ofJson (.object [("name", .string "orders"),
      ("schemas", .array [
        .object [("name", .string "order id"), ("dtype", .string "serial primary key")],
        .object [("name", .string "account"), ("dtype", .string "bigint not null"),
          ("fk", .object [("table", .string "accounts"), ("column", .string "id")])]]),
      ("pk", .object [("columns", .ofStrings ["orderid", "account"])])])
      .standard).result = .ok table := by
    decide +kernel
  have halias : selectKey? Column.writtenKeys ["type", "dtype", "name"] = some "dtype" := by decide
  exact ⟨table, hread, rfl, rfl, halias,
    @Built.fixedPoint table (.ofJson hread) ⟨["type", "dtype", "name"], .reject⟩ halias⟩

end Table

end SchemaPhrase
