import SchemaPhrase.Proofs.Column.Lookups

/-!
# What a column tells

`trace_iff`: reading a column mapping tells at most three events, in this order and nothing else:
the phrase that was taken apart, the name of a type that is not known, and the key that was
corrected. When each of them is told is said by `PhraseTold`, `FallbackTold` and `CorrectionTold`;
what goes wrong after an event does not take it back. A correction is told exactly if the column is
not as nullable as its fields (`correctionTold_iff`).

The events of the parts are computed first (`said?`, `fallback?`, `correction?`), then compared with
the conditions.
-/

set_option autoImplicit false

namespace SchemaPhrase

/-- The event is the one that is told, and there is none if none is told. -/
def Exactly (told : Event → Prop) (event : Option Event) : Prop :=
  ∀ found, event = some found ↔ told found

theorem Exactly.eq {told : Event → Prop} {event other : Option Event} (h : Exactly told event)
    (ho : Exactly told other) : event = other :=
  Option.ext fun found => (h found).trans (ho found).symm

namespace Column

/-! ## When an event is told -/

section
variable (raw : Mapping) (settings : ColumnSettings)

/-- The mapping gives a phrase for its data type, and the phrase says this. -/
structure Says (phrase : String) (parsed : ParsedPhrase) : Prop where
  selected : FirstPresent raw settings.dtypeAliases (some (.string phrase))
  parsed : (parsePhrase phrase).result = .ok parsed

/-- The name in the text that a phrase leaves for its type, as it stands there. -/
def typeName (parsed : ParsedPhrase) : String :=
  (TypePhrase.ofPhrase parsed.dtype.toList).name

/-- A phrase is told as it was given, with the text that is left for its type. -/
inductive PhraseTold : Event → Prop
  | of_phrase {phrase : String} {parsed : ParsedPhrase} :
    Says raw settings phrase parsed → PhraseTold (.phrase phrase parsed.dtype)

/-- A name that is not known is told collapsed, unless it is the name of the generic type. -/
inductive FallbackTold : Event → Prop
  | of_base {phrase tag : String} {parsed : ParsedPhrase} : Says raw settings phrase parsed →
    DataType.parse parsed.dtype = .ok (.base tag) → typeName parsed ≠ "base" →
    FallbackTold (.fallback (Text.collapseWhitespace (typeName parsed)))

/-- A key is told that its fields say to be nullable, where that is corrected. -/
inductive CorrectionTold : Event → Prop
  | of_key {fields : FieldSet} : (FieldSet.normalize raw settings).result = .ok fields →
    fields.pk = true → fields.nullable = true → settings.pkNullable = .correct →
    CorrectionTold (.corrected fields.name)

/-- **The events of a column mapping**, in order. -/
inductive Trace : List Event → Prop
  | intro {phrase fallback correction : Option Event} : Exactly (PhraseTold raw settings) phrase →
    Exactly (FallbackTold raw settings) fallback →
    Exactly (CorrectionTold raw settings) correction →
    Trace (phrase.toList ++ fallback.toList ++ correction.toList)

/-- The events of a document: those of a mapping, and none of anything else. -/
inductive DocumentTrace : Json → List Event → Prop
  | mapping {raw : Mapping} {events : List Event} : Trace raw settings events →
    DocumentTrace (.object raw) events
  | other {document : Json} : (∀ raw, document ≠ .object raw) → DocumentTrace document []

/-! ## What the parts tell -/

/-- The phrase of a mapping and what it says, if there is one and it can be taken apart. -/
def said? : Option (String × ParsedPhrase) :=
  match FieldSet.select? raw settings.dtypeAliases with
  | some (.string phrase) => (parsePhrase phrase).result.toOption.map fun parsed => (phrase, parsed)
  | _ => none

/-- The event of a type that is not known. -/
def fallback? (parsed : ParsedPhrase) : Option Event :=
  match DataType.parse parsed.dtype with
  | .ok dtype =>
    if dtype.isBase && typeName parsed != "base" then
      some (.fallback (Text.collapseWhitespace (typeName parsed)))
    else none
  | .error _ => none

/-- The event of a key that is corrected. -/
def correction? (fields : FieldSet) : Option Event :=
  if fields.pk = true ∧ fields.nullable = true ∧ settings.pkNullable = .correct then
    some (.corrected fields.name)
  else none

end

theorem events_parsePhrase (phrase : String) :
    (parsePhrase phrase).events =
      match (parsePhrase phrase).result with
      | .ok parsed => [.phrase phrase parsed.dtype]
      | .error _ => [] := by
  unfold parsePhrase
  cases Phrase.takeApart? phrase.toList <;> rfl

theorem events_typeOfPhrase (parsed : ParsedPhrase) :
    (FieldSet.typeOfPhrase parsed.dtype).events = (fallback? parsed).toList := by
  unfold FieldSet.typeOfPhrase fallback?
  cases DataType.parse parsed.dtype with
  | error cause => rfl
  | ok dtype =>
    show (Traced.lift (.ok dtype) >>= _).events = _
    rw [Traced.lift_ok_bind, Traced.events_bind_pure]
    show (if dtype.isBase && typeName parsed != "base" then Traced.emit _ else pure ()).events =
      (if dtype.isBase && typeName parsed != "base" then some _ else none).toList
    cases dtype.isBase && typeName parsed != "base" <;> rfl

/-- What is said is told, and then what is not known of its type. -/
theorem events_ofPhrase (name phrase : String) :
    (FieldSet.ofPhrase name phrase).events =
      match (parsePhrase phrase).result with
      | .ok parsed => .phrase phrase parsed.dtype :: (fallback? parsed).toList
      | .error _ => [] := by
  rw [FieldSet.ofPhrase, Traced.events_bind, events_parsePhrase]
  cases (parsePhrase phrase).result with
  | error cause => rfl
  | ok parsed =>
    simp only [Traced.events_bind_pure, events_typeOfPhrase]
    rfl

theorem events_ofDatatype (datatype : Json) :
    (FieldSet.ofDatatype datatype).events =
      match datatype with
      | .string phrase => (FieldSet.ofPhrase "" phrase).events
      | _ => [] := by
  cases datatype with
  | object fields => exact Traced.events_bind_pure _ _
  | _ => rfl

theorem events_normalize (raw : Mapping) (settings : ColumnSettings) :
    (FieldSet.normalize raw settings).events =
      ((said? raw settings).map fun said => Event.phrase said.1 said.2.dtype).toList ++
        ((said? raw settings).bind fun said => fallback? said.2).toList := by
  unfold FieldSet.normalize said?
  cases FieldSet.select? raw settings.dtypeAliases with
  | none => rfl
  | some datatype =>
    show (FieldSet.ofDatatype datatype >>= _).events = _
    rw [Traced.events_bind_of_silent fun _ => Traced.events_lift _, events_ofDatatype]
    cases datatype with
    | string phrase =>
      simp only [events_ofPhrase]
      cases (parsePhrase phrase).result <;> rfl
    | _ => rfl

theorem events_validate (fields : FieldSet) (settings : ColumnSettings) :
    (fields.validate settings).events = (correction? settings fields).toList := by
  have hsettle : (fields.settleKey settings).events = (correction? settings fields).toList := by
    unfold FieldSet.settleKey correction?
    cases fields.pk <;> cases fields.nullable <;> cases settings.pkNullable <;> rfl
  have hcheck : ∀ settled : FieldSet,
      (if settled.default.isSome && settled.nullable then .fail .nullableWithDefault
        else return ⟨settled⟩ : Traced ColumnError Column).events = [] := by
    intro settled
    split <;> rfl
  exact (Traced.events_bind_of_silent hcheck).trans hsettle

/-! ## The events of a mapping -/

section
variable {raw : Mapping} {settings : ColumnSettings}

theorem said?_eq_some_iff {phrase : String} {parsed : ParsedPhrase} :
    said? raw settings = some (phrase, parsed) ↔ Says raw settings phrase parsed := by
  constructor
  · intro h
    unfold said? at h
    split at h
    · next hselect =>
      obtain ⟨found, hfound, hpair⟩ := Option.map_eq_some_iff.1 h
      cases hpair
      exact ⟨firstPresent_iff.2 hselect, toOption_eq_some.1 hfound⟩
    · cases h
  · rintro ⟨hselect, hparsed⟩
    simp only [said?, firstPresent_iff.1 hselect, hparsed]
    rfl

theorem exactly_phrase : Exactly (PhraseTold raw settings)
    ((said? raw settings).map fun said => Event.phrase said.1 said.2.dtype) := by
  intro found
  rw [Option.map_eq_some_iff]
  constructor
  · rintro ⟨⟨phrase, parsed⟩, hsaid, rfl⟩
    exact .of_phrase (said?_eq_some_iff.1 hsaid)
  · rintro ⟨hsaid⟩
    exact ⟨_, said?_eq_some_iff.2 hsaid, rfl⟩

theorem fallback?_eq_some_iff {parsed : ParsedPhrase} {found : Event} :
    fallback? parsed = some found ↔
      (∃ tag, DataType.parse parsed.dtype = .ok (.base tag)) ∧ typeName parsed ≠ "base" ∧
        found = .fallback (Text.collapseWhitespace (typeName parsed)) := by
  have hbase : ∀ dtype : DataType, dtype.isBase = true ↔ ∃ tag, dtype = .base tag := by
    intro dtype
    cases dtype <;> simp [DataType.isBase]
  unfold fallback?
  cases DataType.parse parsed.dtype with
  | error cause => simp
  | ok dtype => simp [hbase, and_assoc, @eq_comm _ _ found]

theorem exactly_fallback : Exactly (FallbackTold raw settings)
    ((said? raw settings).bind fun said => fallback? said.2) := by
  intro found
  rw [Option.bind_eq_some_iff]
  constructor
  · rintro ⟨⟨phrase, parsed⟩, hsaid, hfound⟩
    obtain ⟨⟨tag, hbase⟩, hname, rfl⟩ := fallback?_eq_some_iff.1 hfound
    exact .of_base (said?_eq_some_iff.1 hsaid) hbase hname
  · rintro ⟨hsaid, hbase, hname⟩
    exact ⟨_, said?_eq_some_iff.2 hsaid, fallback?_eq_some_iff.2 ⟨⟨_, hbase⟩, hname, rfl⟩⟩

theorem exactly_correction : Exactly (CorrectionTold raw settings)
    ((FieldSet.normalize raw settings).result.toOption.bind (correction? settings)) := by
  intro found
  rw [Option.bind_eq_some_iff]
  constructor
  · rintro ⟨fields, hfields, hfound⟩
    unfold correction? at hfound
    split at hfound
    · next hkey =>
      cases hfound
      exact .of_key (toOption_eq_some.1 hfields) hkey.1 hkey.2.1 hkey.2.2
    · cases hfound
  · rintro ⟨hfields, hpk, hnull, hpolicy⟩
    refine ⟨_, toOption_eq_some.2 hfields, ?_⟩
    rw [correction?, if_pos ⟨hpk, hnull, hpolicy⟩]

theorem trace_ofMapping : Trace raw settings (ofMapping raw settings).events := by
  have hevents : (ofMapping raw settings).events =
      ((said? raw settings).map fun said => Event.phrase said.1 said.2.dtype).toList ++
        ((said? raw settings).bind fun said => fallback? said.2).toList ++
        ((FieldSet.normalize raw settings).result.toOption.bind (correction? settings)).toList := by
    rw [ofMapping, Traced.events_bind, events_normalize]
    cases (FieldSet.normalize raw settings).result with
    | error cause => rfl
    | ok fields => exact congrArg _ (events_validate fields settings)
  rw [hevents]
  exact .intro exactly_phrase exactly_fallback exactly_correction

/-- **The events of a column mapping** are these, and no others. -/
theorem trace_iff {events : List Event} :
    Trace raw settings events ↔ events = (ofMapping raw settings).events := by
  refine ⟨fun h => ?_, fun h => h ▸ trace_ofMapping⟩
  obtain ⟨hphrase, hfallback, hcorrection⟩ := h
  generalize hrun : (ofMapping raw settings).events = run
  obtain ⟨hphrase', hfallback', hcorrection'⟩ := hrun ▸ @trace_ofMapping raw settings
  rw [hphrase.eq hphrase', hfallback.eq hfallback', hcorrection.eq hcorrection']

/-- **A correction is told** exactly if the column is not as nullable as its fields. -/
theorem correctionTold_iff {event : Event} :
    CorrectionTold raw settings event ↔ ∃ fields column,
      (FieldSet.normalize raw settings).result = .ok fields ∧
      (ofMapping raw settings).result = .ok column ∧
      column.fields.nullable ≠ fields.nullable ∧ event = .corrected fields.name := by
  constructor
  · intro h
    cases h with
    | @of_key fields hfields hpk hnull hpolicy =>
      have hcolumn : (ofMapping raw settings).result = .ok ⟨{ fields with nullable := false }⟩ := by
        refine Traced.result_bind_eq_ok.2 ⟨fields, hfields, ?_⟩
        rw [validate_of_corrected hpk hnull hpolicy]
      exact ⟨fields, _, hfields, hcolumn, by simp [hnull], rfl⟩
  · rintro ⟨fields, column, hfields, hcolumn, hne, rfl⟩
    obtain ⟨found, hfound, hvalidate⟩ := Traced.result_bind_eq_ok.1 hcolumn
    obtain rfl : fields = found := Except.ok.inj (hfields.symm.trans hfound)
    rcases validate_cases hvalidate with hsame | ⟨hpk, hnull, hpolicy, -⟩
    · exact absurd (congrArg FieldSet.nullable hsame) hne
    · exact .of_key hfields hpk hnull hpolicy

theorem documentTrace_iff {document : Json} {events : List Event} :
    DocumentTrace settings document events ↔ events = (ofJson document settings).events := by
  refine ⟨fun h => ?_, ?_⟩
  · cases h with
    | mapping htrace => exact trace_iff.1 htrace
    | other hother =>
      cases document with
      | object raw => exact absurd rfl (hother raw)
      | _ => rfl
  · rintro rfl
    cases document with
    | object raw => exact .mapping trace_ofMapping
    | _ => exact .other nofun

end

end Column

end SchemaPhrase
