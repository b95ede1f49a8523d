import Mathlib.Data.List.Induction
import SchemaPhrase.Proofs.Column.Update

/-!
# One column, however it is built

A column is built from a name and a phrase, by the steps of a builder or from a mapping, and the
three agree in the column, in the cause of a failure and in the events
(`parse_and_build_eq_ofJson`).

What the steps say is a mapping: under the key of each field that a step is about stands what the
last such step says (`Tells`). Setting the fields of that mapping over some fields does what the
steps do to them (`override_of_tells`), so a mapping is built as its data type with the steps taken
after it (`ofMapping_of_tells`). A phrase is the case without steps.
-/

set_option autoImplicit false

namespace SchemaPhrase

namespace FieldSet

/-! ## What steps say -/

/-- The field that a step is about. -/
def Step.field : Step → ColumnField
  | .notNull | .nullable => .nullable
  | .unique => .unique
  | .primaryKey => .primaryKey
  | .default _ => .default
  | .check _ => .check
  | .references _ => .foreignKey

/-- What a step says, as it stands in a mapping. -/
def Step.value : Step → Json
  | .notNull => .bool false
  | .nullable | .unique | .primaryKey => .bool true
  | .default value => value.document
  | .check clause => .string clause
  | .references reference => reference.document

/-- What the last step about a field says, if there is one. -/
def lastValue? (steps : List Step) (field : ColumnField) : Option Json :=
  (steps.filter (·.field = field)).getLast?.map Step.value

@[simp] theorem lastValue?_nil (field : ColumnField) : lastValue? [] field = none := rfl

theorem lastValue?_concat (steps : List Step) (step : Step) (field : ColumnField) :
    lastValue? (steps ++ [step]) field =
      if step.field = field then some step.value else lastValue? steps field := by
  by_cases h : step.field = field
  · simp [lastValue?, List.filter_append, h]
  · simp [lastValue?, List.filter_append, h]

theorem name_foldl_apply (steps : List Step) (fields : FieldSet) :
    (steps.foldl apply fields).name = fields.name := by
  induction steps generalizing fields with
  | nil => rfl
  | cons step steps ih =>
    refine (ih (fields.apply step)).trans ?_
    cases step <;> rfl

theorem dtype_foldl_apply (steps : List Step) (fields : FieldSet) :
    (steps.foldl apply fields).dtype = fields.dtype := by
  induction steps generalizing fields with
  | nil => rfl
  | cons step steps ih =>
    refine (ih (fields.apply step)).trans ?_
    cases step <;> rfl

/-! ## One field -/

/-- What a step says about a field is read back as what the step makes of it, and the steps about
other fields leave it. -/
structure SaidBy {α : Type} (field : ColumnField) (read? : Json → Option α) (get : FieldSet → α) :
    Prop where
  said : ∀ (fields : FieldSet) (step : Step), step.field = field →
    read? step.value = some (get (fields.apply step))
  other : ∀ (fields : FieldSet) (step : Step), step.field ≠ field →
    get (fields.apply step) = get fields

theorem saidBy_nullable : SaidBy .nullable readFlag? FieldSet.nullable := by
  constructor <;> intro fields step hf <;> cases step
  all_goals first | rfl | cases hf | exact absurd rfl hf

theorem saidBy_unique : SaidBy .unique readFlag? FieldSet.unique := by
  constructor <;> intro fields step hf <;> cases step
  all_goals first | rfl | cases hf | exact absurd rfl hf

theorem saidBy_pk : SaidBy .primaryKey readFlag? FieldSet.pk := by
  constructor <;> intro fields step hf <;> cases step
  all_goals first | rfl | cases hf | exact absurd rfl hf

theorem saidBy_default : SaidBy .default DefaultValue.optionalOfJson? FieldSet.default := by
  constructor <;> intro fields step hf <;> cases step
  case said.default value => exact DefaultValue.optionalOfJson?_document (some value)
  all_goals first | rfl | cases hf | exact absurd rfl hf

theorem saidBy_check : SaidBy .check Json.optionalString? FieldSet.check := by
  constructor <;> intro fields step hf <;> cases step
  all_goals first | rfl | cases hf | exact absurd rfl hf

theorem saidBy_fk : SaidBy .foreignKey Reference.optionalOfJson? FieldSet.fk := by
  constructor <;> intro fields step hf <;> cases step
  all_goals first | rfl | cases hf | exact absurd rfl hf

theorem SaidBy.last {α : Type} {field : ColumnField} {read? : Json → Option α}
    {get : FieldSet → α} (h : SaidBy field read? get) (fields : FieldSet) (steps : List Step) :
    (match lastValue? steps field with
      | none => some (get fields)
      | some value => read? value) = some (get (steps.foldl apply fields)) := by
  induction steps using List.reverseRecOn with
  | nil => rfl
  | append_singleton steps step ih =>
    rw [lastValue?_concat, List.foldl_append, List.foldl_cons, List.foldl_nil]
    by_cases hf : step.field = field
    · rw [if_pos hf]
      exact h.said _ step hf
    · rw [if_neg hf, h.other _ step hf]
      exact ih

theorem SaidBy.explicit {α : Type} {field : ColumnField} {read? : Json → Option α}
    {get : FieldSet → α} (h : SaidBy field read? get) {raw : Mapping} {steps : List Step}
    (hraw : select? raw field.keys = lastValue? steps field) (fields : FieldSet) :
    explicit field read? (get fields) raw = .ok (get (steps.foldl apply fields)) := by
  have hlast := h.last fields steps
  unfold FieldSet.explicit
  rw [hraw]
  cases hvalue : lastValue? steps field with
  | none =>
    rw [hvalue] at hlast
    exact congrArg Except.ok (Option.some.inj hlast)
  | some value =>
    rw [hvalue] at hlast
    simp only [hlast]

/-! ## All fields -/

/-- A mapping that gives a name, a data type and what the last step about each field says, and
nothing else. -/
structure Tells (raw : Mapping) (name : String) (datatype : Json) (steps : List Step) : Prop where
  name : raw.get? "name" = some (.string name)
  dtype : raw.get? "dtype" = some datatype
  said : ∀ field ≠ ColumnField.name, raw.get? field.key = lastValue? steps field
  other : ∀ key ∉ Column.writtenKeys, raw.get? key = none

/-- The mapping of a name, a data type and steps; a later step about a field takes the place of the
ones before it. -/
def told (name : String) (datatype : Json) (steps : List Step) : Mapping :=
  .ofFields ([("name", .string name), ("dtype", datatype)] ++
    steps.map fun step => (step.field.key, step.value))

theorem told_nil (name : String) (datatype : Json) :
    told name datatype [] = Mapping.ofFields [("name", .string name), ("dtype", datatype)] := rfl

theorem told_concat (name : String) (datatype : Json) (steps : List Step) (step : Step) :
    told name datatype (steps ++ [step]) =
      (told name datatype steps).insert step.field.key step.value := by
  simp [told, Mapping.ofFields, List.foldl_append]

theorem Step.field_ne_name (step : Step) : step.field ≠ .name := by
  cases step <;> simp [Step.field]

end FieldSet

theorem ColumnField.key_ne_dtype (field : ColumnField) : field.key ≠ "dtype" := by
  cases field <;> simp [ColumnField.key]

theorem ColumnField.key_injective {field other : ColumnField} (h : field.key = other.key) :
    field = other := by
  cases field <;> cases other <;> first | rfl | simp [ColumnField.key] at h

theorem ColumnField.key_mem_writtenKeys (field : ColumnField) :
    field.key ∈ Column.writtenKeys := by
  cases field <;> decide

theorem ColumnField.capitalizedKey_notMem_writtenKeys (field : ColumnField) :
    field.capitalizedKey ∉ Column.writtenKeys := by
  cases field <;> decide

namespace FieldSet

/-- **The mapping of steps** tells what they say. -/
theorem tells_told (name : String) (datatype : Json) (steps : List Step) :
    Tells (told name datatype steps) name datatype steps := by
  induction steps using List.reverseRecOn with
  | nil =>
    have hget : ∀ key, (told name datatype []).get? key =
        Mapping.get? [("name", .string name), ("dtype", datatype)] key :=
      Mapping.get?_ofFields (by simp [Mapping.keys])
    refine ⟨hget "name", hget "dtype", fun field hne => ?_, fun key hk => ?_⟩
    · rw [hget]
      cases field with
      | name => exact absurd rfl hne
      | _ => rfl
    · rw [hget]
      simp only [Column.writtenKeys, List.mem_cons, not_or] at hk
      simp [Mapping.get?, Ne.symm hk.1, Ne.symm hk.2.1]
  | append_singleton steps step ih =>
    rw [told_concat]
    refine ⟨?_, ?_, fun field hne => ?_, fun key hk => ?_⟩
    · have hne : step.field.key ≠ ColumnField.name.key := fun h =>
        step.field_ne_name (ColumnField.key_injective h)
      exact (Mapping.get?_insert _ _ _ _).trans ((if_neg hne).trans ih.name)
    · rw [Mapping.get?_insert, if_neg step.field.key_ne_dtype]
      exact ih.dtype
    · rw [Mapping.get?_insert, lastValue?_concat, ih.said field hne]
      exact if_congr ⟨ColumnField.key_injective, congrArg _⟩ rfl rfl
    · have hne : step.field.key ≠ key := fun h => hk (h ▸ step.field.key_mem_writtenKeys)
      rw [Mapping.get?_insert, if_neg hne]
      exact ih.other key hk

section
variable {raw : Mapping} {name : String} {datatype : Json} {steps : List Step}
  (h : Tells raw name datatype steps)
include h

theorem Tells.ownKeys : OwnKeys raw := fun field =>
  h.other _ field.capitalizedKey_notMem_writtenKeys

theorem override_of_tells (fields : FieldSet) :
    fields.override raw =
      .ok (steps.foldl apply { fields with name := normalizeName name }) := by
  have hname : select? raw ColumnField.name.keys = some (.string name) :=
    (select?_of_ownKeys h.ownKeys _).trans h.name
  have hsaid : ∀ field ≠ ColumnField.name, select? raw field.keys = lastValue? steps field :=
    fun field hne => (select?_of_ownKeys h.ownKeys field).trans (h.said field hne)
  have hkept : explicit .name readName? fields.name raw =
      .ok (steps.foldl apply { fields with name := normalizeName name }).name := by
    rw [name_foldl_apply, explicit, hname]
    rfl
  refine override_eq_ok.2 ⟨hkept, ?_, ?_, ?_, ?_, ?_, ?_, dtype_foldl_apply _ _⟩
  · exact saidBy_nullable.explicit (hsaid _ (by decide)) { fields with name := normalizeName name }
  · exact saidBy_unique.explicit (hsaid _ (by decide)) { fields with name := normalizeName name }
  · exact saidBy_pk.explicit (hsaid _ (by decide)) { fields with name := normalizeName name }
  · exact saidBy_default.explicit (hsaid _ (by decide)) { fields with name := normalizeName name }
  · exact saidBy_check.explicit (hsaid _ (by decide)) { fields with name := normalizeName name }
  · exact saidBy_fk.explicit (hsaid _ (by decide)) { fields with name := normalizeName name }

end

end FieldSet

namespace Column

open FieldSet

/-! ## The three ways -/

/-- **A mapping** is its data type with the name and the steps that it tells of taken after it. -/
theorem ofMapping_of_tells {settings : ColumnSettings} (hs : settings.Separate) {raw : Mapping}
    {name : String} {datatype : Json} {steps : List Step} (h : Tells raw name datatype steps) :
    ofMapping raw settings = (do
      let said ← ofDatatype datatype
      (steps.foldl apply { said with name := normalizeName name }).validate settings) := by
  have hdtype : select? raw settings.dtypeAliases = some datatype := by
    rw [← h.dtype]
    exact select?_of_only hs.dtype fun key hk hne => h.other key (notMem_writtenKeys hs hk hne)
  have hname : (select? raw ColumnField.name.keys).isNone = false := by
    rw [(select?_of_ownKeys h.ownKeys .name).trans h.name]
    rfl
  rw [ofMapping, FieldSet.normalize, hdtype]
  show (ofDatatype datatype >>= fun said => _) >>= _ = _
  rw [bind_assoc]
  refine congrArg (ofDatatype datatype >>= ·) (funext fun said => ?_)
  rw [overrideNamed, hname, override_of_tells h said]
  exact Traced.lift_ok_bind _ _

/-- A phrase says the same fields whatever the name is. -/
theorem ofPhrase_eq_bind (name phrase : String) :
    ofPhrase name phrase = (do
      let said ← ofPhrase "" phrase
      return { said with name := normalizeName name }) := by
  simp only [ofPhrase, bind_assoc, pure_bind]

theorem ofPhrase_steps_eq_ofMapping {settings : ColumnSettings} (hs : settings.Separate)
    {raw : Mapping} {name phrase : String} {steps : List Step}
    (h : Tells raw name (.string phrase) steps) :
    (do
      let fields ← ofPhrase name phrase
      (steps.foldl apply fields).validate settings) = ofMapping raw settings := by
  rw [ofMapping_of_tells hs h, ofPhrase_eq_bind, bind_assoc]
  simp only [pure_bind]
  rfl

theorem ofType_steps_eq_ofMapping {settings : ColumnSettings} (hs : settings.Separate)
    {raw : Mapping} {name : String} {dtype : DataType} (hwf : dtype.WellFormed)
    {steps : List Step} (h : Tells raw name (.object dtype.toMapping) steps) :
    (steps.foldl apply (.ofType name dtype)).validate settings = ofMapping raw settings := by
  have hread : ofDatatype (.object dtype.toMapping) = .lift (.ok (.ofType "" dtype)) := by
    show Traced.lift ((DataType.ofMapping dtype.toMapping).mapError ColumnError.dataType) >>= _ = _
    rw [DataType.ofMapping_toMapping hwf]
    exact Traced.lift_ok_bind dtype _
  rw [ofMapping_of_tells hs h, hread, Traced.lift_ok_bind]
  rfl

theorem ofJson_object (raw : Mapping) (settings : ColumnSettings) :
    ofJson (.object raw) settings = ofMapping raw settings := rfl

/-- **The ways to a column agree**, whatever the policy for keys is. A name and a phrase are the
mapping that holds both. A type that was read, with any steps after it, is the mapping of the name,
the written type and what the last step about each field says; any mapping with these fields and no
others will do, and there is one. -/
theorem parse_and_build_eq_ofJson {settings : ColumnSettings} (hs : settings.Separate) :
    (∀ name phrase, parse name phrase settings =
      ofJson (.object (Mapping.ofFields [("name", .string name), ("dtype", .string phrase)]))
        settings) ∧
    ∀ name document dtype, DataType.ofJson document = .ok dtype → ∀ steps,
      (steps.foldl apply (.ofType name dtype)).validate settings =
        ofJson (.object (told name (.object dtype.toMapping) steps)) settings ∧
      Tells (told name (.object dtype.toMapping) steps) name (.object dtype.toMapping) steps ∧
      ∀ raw, Tells raw name (.object dtype.toMapping) steps →
        (steps.foldl apply (.ofType name dtype)).validate settings =
          ofJson (.object raw) settings := by
  constructor
  · intro name phrase
    have htold := tells_told name (.string phrase) []
    rw [told_nil] at htold
    rw [ofJson_object, ← ofPhrase_steps_eq_ofMapping hs htold]
    rfl
  · intro name document dtype hdtype steps
    have hbuild : ∀ raw, Tells raw name (.object dtype.toMapping) steps →
        (steps.foldl apply (.ofType name dtype)).validate settings =
          ofJson (.object raw) settings := by
      intro raw h
      rw [ofJson_object]
      exact ofType_steps_eq_ofMapping hs (DataType.wellFormed_of_ofJson hdtype) h
    have htold := tells_told name (.object dtype.toMapping) steps
    exact ⟨hbuild _ htold, htold, hbuild⟩

/-- A key that is said to be nullable, not nullable and nullable again, under settings that correct
it; its second default counts. -/
theorem parse_and_build_eq_ofJson_repeated :
    ColumnSettings.Separate ⟨["type", "dtype"], .correct⟩ ∧
    DataType.ofJson (.string "decimal(9,2)") = .ok (.exact .decimal 9 2) ∧
    ([.primaryKey, .notNull, .default (.int 4), .nullable, .default (.text "0.5")].foldl apply
        (.ofType "unit price" (.exact .decimal 9 2))).validate ⟨["type", "dtype"], .correct⟩ =
      ofJson (.object (told "unit price" (.object (DataType.exact .decimal 9 2).toMapping)
          [.primaryKey, .notNull, .default (.int 4), .nullable, .default (.text "0.5")]))
        ⟨["type", "dtype"], .correct⟩ ∧
    (ofJson (.object (told "unit price" (.object (DataType.exact .decimal 9 2).toMapping)
          [.primaryKey, .notNull, .default (.int 4), .nullable, .default (.text "0.5")]))
        ⟨["type", "dtype"], .correct⟩).result =
      .ok ⟨"unitprice", .exact .decimal 9 2, false, false, some (.text "0.5"), none, true,
        none⟩ := by
  have hs : ColumnSettings.Separate ⟨["type", "dtype"], .correct⟩ := by
    refine ⟨by decide, fun field => ?_⟩
    cases field <;> decide
  have hdtype : DataType.ofJson (.string "decimal(9,2)") = .ok (.exact .decimal 9 2) := by
    decide +kernel
  obtain ⟨-, hbuild⟩ := parse_and_build_eq_ofJson hs
  obtain ⟨heq, -⟩ := hbuild "unit price" (.string "decimal(9,2)") (.exact .decimal 9 2) hdtype
    [.primaryKey, .notNull, .default (.int 4), .nullable, .default (.text "0.5")]
  exact ⟨hs, hdtype, heq, heq ▸ rfl⟩

end Column

end SchemaPhrase
