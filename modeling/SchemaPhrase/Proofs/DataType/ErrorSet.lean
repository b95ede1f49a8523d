import SchemaPhrase.Proofs.DataType.Refusal
import SchemaPhrase.Proofs.Text.CaseVariants

/-!
# The errors of a phrase

Which phrases are no data type, and why (`Refused`): a phrase is refused for an argument that its
type takes and that does not fit, or for the precision of a timestamp above six.
`parse_eq_error_iff`: these are all the errors there are, and every other phrase names a type, known
or not, whatever arguments that type does not take (`parse_errors`).

The name of a phrase is in lower case when it is looked up (`name_toLower`), so it is compared with
the tags as they stand (`ofTag?_eq_some_iff_of_lower`).
-/

set_option autoImplicit false

namespace SchemaPhrase.DataType

open Text TypePhrase

/-! ## Statements -/

/-- **What is wrong with the parts of a phrase.** -/
inductive Refused (parts : TypePhrase) : DataTypeError → Prop
  | maxLength {digits : String} (hname : parts.name ∈ ["string", "str", "char", "varchar"])
      (hlength : parts.maxLength = some digits) (h : ¬ Fits digits) :
      Refused parts (.invalidArgument .maxLength digits)
  | precision {digits : String} (hname : parts.name ∈ ["numeric", "decimal", "timestamp"])
      (hprecision : parts.precision = some digits) (h : ¬ Fits digits) :
      Refused parts (.invalidArgument .precision digits)
  | scale {first digits : String} (hname : parts.name ∈ ["numeric", "decimal"])
      (hprecision : parts.precision = some first) (hfirst : Fits first)
      (hscale : parts.scale = some digits) (h : ¬ Fits digits) :
      Refused parts (.invalidArgument .scale digits)
  | range {digits : String} (hname : parts.name = "timestamp")
      (hprecision : parts.precision = some digits) (hfits : Fits digits)
      (h : 6 < digitsValue digits) :
      Refused parts (.outOfRange .precision (Int64.ofNat (digitsValue digits)) 6)

/-- The parts of a phrase in lower case. -/
def lowerParts (phrase : String) : TypePhrase := ofPhrase (lowerText phrase.toList)

/-- The tags of the types without arguments. -/
def plainTags : List (String × PlainKind) :=
  [("text", .text), ("integer", .integer), ("int", .integer), ("smallint", .smallint),
    ("bigint", .bigint)]

/-! ## Names -/

/-- The tags with the kinds that they name. -/
def tagged : List (String × TypeKind) :=
  TypeKind.table.flatMap fun entry => entry.1.map (·, entry.2)

/-- **A name in lower case** names a known type if it is a tag of that type. -/
theorem ofTag?_eq_some_iff_of_lower {name : String} {kind : TypeKind}
    (h : name.toList.map Char.toLower = name.toList) :
    TypeKind.ofTag? name = some kind ↔ (name, kind) ∈ tagged := by
  have htags : ∀ tag ∈ tagged, tag.1.toList.map Char.toLower = tag.1.toList := by decide
  have hknown : ∀ tag ∈ tagged, TypeKind.ofTag? tag.1 = some tag.2 := by decide
  refine ⟨fun hkind => ?_, hknown (name, kind)⟩
  obtain ⟨entry, hentry, rfl⟩ := Option.map_eq_some_iff.1 hkind
  have hany : entry.1.any (TypeKind.sameTag · name) = true :=
    List.find?_some (p := fun entry : List String × TypeKind =>
      entry.1.any (TypeKind.sameTag · name)) hentry
  obtain ⟨known, hmem, hsame⟩ := List.any_eq_true.1 hany
  have htag : (known, entry.2) ∈ tagged := List.mem_flatMap.2
    ⟨entry, List.mem_of_find?_eq_some hentry, List.mem_map_of_mem hmem⟩
  have hlower : known.toList.map Char.toLower = known.toList := htags _ htag
  rw [TypeKind.sameTag, beq_iff_eq, h, hlower] at hsame
  rwa [String.toList_inj.1 hsame] at htag

section
variable {name : String}

theorem exists_character_mem_tagged_iff :
    (∃ kind, (name, TypeKind.character kind) ∈ tagged) ↔
      name ∈ ["string", "str", "char", "varchar"] := by
  simp [tagged, TypeKind.table, exists_or]

theorem exists_exact_mem_tagged_iff :
    (∃ kind, (name, TypeKind.exact kind) ∈ tagged) ↔ name ∈ ["numeric", "decimal"] := by
  simp [tagged, TypeKind.table, exists_or]

theorem timestamp_mem_tagged_iff : (name, TypeKind.timestamp) ∈ tagged ↔ name = "timestamp" := by
  simp [tagged, TypeKind.table]

theorem plain_mem_tagged_iff {kind : PlainKind} :
    (name, TypeKind.plain kind) ∈ tagged ↔ (name, kind) ∈ plainTags := by
  simp [tagged, TypeKind.table, plainTags]

end

theorem mem_of_mem_name {text : List Char} {c : Char} (h : c ∈ (ofPhrase text).name.toList) :
    c ∈ text := by
  simp only [ofPhrase] at h
  split at h
  · simpa using h
  · have hname : ∀ parts : TypePhrase, parts.name = String.ofList
        ((text.dropWhile (!isWordChar ·)).takeWhile isWordChar) → c ∈ parts.name.toList →
          c ∈ text := by
      intro parts hparts hc
      rw [hparts, String.toList_ofList] at hc
      exact (List.dropWhile_sublist _).subset ((List.takeWhile_sublist _).subset hc)
    split at h
    · exact hname _ (name_ofParts _ _ _) h
    · exact hname _ (name_ofParts _ _ _) h

/-- The name of a phrase is in lower case when it is looked up. -/
theorem name_toLower (phrase : String) :
    (lowerParts phrase).name.toList.map Char.toLower = (lowerParts phrase).name.toList :=
  (List.map_congr_left fun _ hc => toLower_of_mem_lowerText (mem_of_mem_name hc)).trans
    (List.map_id _)

/-! ## Phrases -/

/-- What is looked up is the name of the phrase. -/
theorem parse_eq (phrase : String) :
    parse phrase =
      match TypeKind.ofTag? (lowerParts phrase).name with
      | some kind => ofKind (phraseMapping (lowerText phrase.toList)) kind
      | none => .ok generic := by
  have htag : (phraseMapping (lowerText phrase.toList)).get? TypeField.type.key =
      some (.string (lowerParts phrase).name) := by
    rw [get?_phraseMapping, if_neg (fun h => by cases h.1), TypePhrase.get?_toMapping, lowerParts]
  cases hkind : TypeKind.ofTag? (lowerParts phrase).name with
  | none => simp only [parse, resolve, htag, hkind]
  | some kind => simp only [parse, resolve, htag, hkind]

theorem parse_of_mem_tagged {phrase : String} {kind : TypeKind}
    (h : ((lowerParts phrase).name, kind) ∈ tagged) :
    parse phrase = ofKind (phraseMapping (lowerText phrase.toList)) kind := by
  rw [parse_eq, (ofTag?_eq_some_iff_of_lower (name_toLower _)).2 h]

theorem parse_of_notMem {phrase : String} (h : (lowerParts phrase).name ∉ knownTags) :
    parse phrase = .ok generic := by
  have hnone : TypeKind.ofTag? (lowerParts phrase).name = none := by
    rw [Option.eq_none_iff_forall_ne_some]
    intro kind hkind
    rw [ofTag?_eq_some_iff_of_lower (name_toLower phrase)] at hkind
    obtain ⟨entry, hentry, hname⟩ := List.mem_flatMap.1 hkind
    obtain ⟨known, hknown, hpair⟩ := List.mem_map.1 hname
    refine h (flatMap_table ▸ List.mem_flatMap.2 ⟨entry, hentry, ?_⟩)
    rwa [← (Prod.mk.inj hpair).1]
  rw [parse_eq, hnone]

theorem parse_eq_error_iff_ofKind {phrase : String} {cause : DataTypeError} :
    parse phrase = .error cause ↔ ∃ kind, ((lowerParts phrase).name, kind) ∈ tagged ∧
      ofKind (phraseMapping (lowerText phrase.toList)) kind = .error cause := by
  constructor
  · intro h
    cases hkind : TypeKind.ofTag? (lowerParts phrase).name with
    | none =>
      rw [parse_eq, hkind] at h
      cases h
    | some kind =>
      have htagged := (ofTag?_eq_some_iff_of_lower (name_toLower _)).1 hkind
      exact ⟨kind, htagged, parse_of_mem_tagged htagged ▸ h⟩
  · rintro ⟨kind, htagged, h⟩
    rw [parse_of_mem_tagged htagged, h]

/-- **The errors of a phrase** are those of its parts. -/
theorem parse_eq_error_iff {phrase : String} {cause : DataTypeError} :
    parse phrase = .error cause ↔ Refused (lowerParts phrase) cause := by
  rw [parse_eq_error_iff_ofKind]
  constructor
  · rintro ⟨kind, htagged, h⟩
    cases kind with
    | character kind =>
      obtain ⟨digits, hdigits, hfit, rfl⟩ := (ofKind_character_eq_error_iff _ kind).1 h
      exact .maxLength (exists_character_mem_tagged_iff.1 ⟨kind, htagged⟩) hdigits hfit
    | plain kind => cases h
    | exact kind =>
      have hname := exists_exact_mem_tagged_iff.1 ⟨kind, htagged⟩
      obtain ⟨first, hfirst, ⟨hfit, rfl⟩ | ⟨hfits, digits, hdigits, hfit, rfl⟩⟩ :=
        (ofKind_exact_eq_error_iff _ kind (isExactNumeric_iff.2 hname)).1 h
      · exact .precision (List.mem_append_left ["timestamp"] hname) hfirst hfit
      · exact .scale hname hfirst hfits hdigits hfit
    | timestamp =>
      have hname := timestamp_mem_tagged_iff.1 htagged
      obtain ⟨digits, hdigits, ⟨hfit, rfl⟩ | ⟨hfits, hlarge, rfl⟩⟩ :=
        (ofKind_timestamp_eq_error_iff _).1 h
      · exact .precision (by simp [hname]) hdigits hfit
      · exact .range hname hdigits hfits hlarge
  · intro h
    cases h with
    | maxLength hname hlength hfit =>
      obtain ⟨kind, htagged⟩ := exists_character_mem_tagged_iff.2 hname
      exact ⟨_, htagged, (ofKind_character_eq_error_iff _ kind).2 ⟨_, hlength, hfit, rfl⟩⟩
    | precision hname hprecision hfit =>
      rcases List.mem_append.1 (show _ ∈ ["numeric", "decimal"] ++ ["timestamp"] from hname) with
        hname | hname
      · obtain ⟨kind, htagged⟩ := exists_exact_mem_tagged_iff.2 hname
        exact ⟨_, htagged, (ofKind_exact_eq_error_iff _ kind (isExactNumeric_iff.2 hname)).2
          ⟨_, hprecision, .inl ⟨hfit, rfl⟩⟩⟩
      · exact ⟨_, timestamp_mem_tagged_iff.2 (List.mem_singleton.1 hname),
          (ofKind_timestamp_eq_error_iff _).2 ⟨_, hprecision, .inl ⟨hfit, rfl⟩⟩⟩
    | scale hname hprecision hfirst hscale hfit =>
      obtain ⟨kind, htagged⟩ := exists_exact_mem_tagged_iff.2 hname
      exact ⟨_, htagged, (ofKind_exact_eq_error_iff _ kind (isExactNumeric_iff.2 hname)).2
        ⟨_, hprecision, .inr ⟨hfirst, _, hscale, hfit, rfl⟩⟩⟩
    | range hname hprecision hfits hlarge =>
      exact ⟨_, timestamp_mem_tagged_iff.2 hname,
        (ofKind_timestamp_eq_error_iff _).2 ⟨_, hprecision, .inr ⟨hfits, hlarge, rfl⟩⟩⟩

/-- A phrase is refused for an argument only. -/
theorem ofArgument_of_parse {phrase : String} {cause : DataTypeError}
    (h : parse phrase = .error cause) : cause.OfArgument := by
  cases parse_eq_error_iff.1 h with
  | maxLength => exact .invalid _ _
  | precision => exact .invalid _ _
  | scale => exact .invalid _ _
  | range => exact .range _ _ _

/-- **The exact errors of a phrase.** It is refused as its parts are, and otherwise names a type. A
type that takes no arguments, or that is not known, is named whatever arguments follow. -/
theorem parse_errors (phrase : String) :
    (∀ cause, parse phrase = .error cause ↔ Refused (lowerParts phrase) cause) ∧
      ((∃ type, parse phrase = .ok type) ↔ ∀ cause, ¬ Refused (lowerParts phrase) cause) ∧
      (∀ kind, ((lowerParts phrase).name, kind) ∈ plainTags →
        parse phrase = .ok (.plain kind)) ∧
      ((lowerParts phrase).name ∉ knownTags → parse phrase = .ok generic) ∧
      parse phrase ≠ .error .scaleWithoutPrecision ∧
      (∀ field, parse phrase ≠ .error (.invalidField field)) ∧
      ∀ kind, parse phrase ≠ .error (.unsupportedValue kind) := by
  have herror : ∀ cause, parse phrase = .error cause ↔ Refused (lowerParts phrase) cause :=
    fun _ => parse_eq_error_iff
  refine ⟨herror, ?_, fun kind hkind => ?_, parse_of_notMem, fun h => ?_, fun field h => ?_,
    fun kind h => ?_⟩
  · simp only [← herror]
    cases parse phrase <;> simp
  · rw [parse_of_mem_tagged (plain_mem_tagged_iff.2 hkind)]
    rfl
  · cases (herror _).1 h
  · cases (herror _).1 h
  · cases (herror _).1 h

/-- A precision out of range, digits that are no ASCII ones, and arguments that nobody reads. -/
theorem parse_errors_timestamp :
    parse "timestamp( 9 )" = .error (.outOfRange .precision 9 6) ∧
      parse "VARCHAR(\u0663)" = .error (.invalidArgument .maxLength "\u0663") ∧
      parse "INT(99999999999999999999)" = .ok (.plain .integer) ∧
      parse "point(99999999999999999999)" = .ok generic := by
  have hnine : Int64.ofNat (digitsValue "9") = 9 := by decide
  have hrange : Refused (lowerParts "timestamp( 9 )")
      (.outOfRange .precision (Int64.ofNat (digitsValue "9")) 6) :=
    .range (by decide +kernel) (by decide +kernel) (by decide +kernel) (by decide +kernel)
  rw [hnine] at hrange
  have hdigits : Refused (lowerParts "VARCHAR(\u0663)") (.invalidArgument .maxLength "\u0663") :=
    .maxLength (by decide +kernel) (by decide +kernel) (by decide +kernel)
  exact ⟨((parse_errors _).1 _).2 hrange, ((parse_errors _).1 _).2 hdigits,
    (parse_errors _).2.2.1 .integer (by decide +kernel),
    (parse_errors _).2.2.2.1 (by decide +kernel)⟩

end SchemaPhrase.DataType
