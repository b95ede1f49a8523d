import Mathlib.Data.List.Basic
import SchemaPhrase.Proofs.DataType.Codec
import SchemaPhrase.Proofs.DataType.Display
import SchemaPhrase.Proofs.TypePhrase

/-!
# Canonical phrases read back

`parse_display`: the canonical phrase of a well-formed type, one without a tag of its own, is read
as that type. The phrase is in lower case (`lowerText_display`), its decomposition gives the tag and
the arguments that are set (`ofPhrase_display`), and an argument that is not set is read as the
value that stands for that (`boundedField_of_set`).
-/

set_option autoImplicit false

namespace SchemaPhrase

open Text

namespace DataType

theorem Canonical.lowerText_display {type : DataType} (h : type.Canonical) :
    lowerText type.display.toList = type.display.toList := by
  refine lowerAfter_of_forall fun c hc => ?_
  rw [display_eq] at hc
  rcases mem_joinWords hc with rfl | ⟨word, hw, hm⟩
  · exact lowerChar_of_lt (by decide)
  · have hchar := (h.mem_displayWords hw).2 c hm
    exact lowerChar_of_lt (by omega)

/-! ## The parts of a canonical phrase -/

/-- The arguments that the canonical phrase shows. -/
def setArguments : DataType → List Int64
  | base _ | plain _ => []
  | character _ maxLength => display.setOnes [maxLength]
  | exact _ precision scale => display.setOnes [precision, scale]
  | timestamp precision _ => display.setOnes [precision]

/-- What the canonical phrase says behind the arguments. -/
def zoneText (type : DataType) : String :=
  if type.timezone? = some true then " with time zone" else ""

theorem display_eq_append (type : DataType) :
    type.display = type.tag ++ argumentsText type.setArguments ++ type.zoneText := by
  cases type with
  | timestamp precision timezone =>
    cases timezone <;> simp [display, setArguments, zoneText, tag, timezone?]
  | _ => simp [display, setArguments, zoneText, tag, timezone?, argumentsText]

theorem lt_of_mem_setArguments {type : DataType} {value : Int64}
    (h : value ∈ type.setArguments) : unset < value := by
  cases type with
  | base tag => cases h
  | plain kind => cases h
  | character kind maxLength => exact mem_setOnes h
  | exact kind precision scale => exact mem_setOnes h
  | timestamp precision timezone => exact mem_setOnes h

theorem length_setArguments_le (type : DataType) : type.setArguments.length ≤ 2 := by
  have hle : ∀ arguments : List Int64,
      (display.setOnes arguments).length ≤ arguments.length := fun arguments =>
    (List.takeWhile_sublist _).length_le
  cases type with
  | base tag => simp [setArguments]
  | plain kind => simp [setArguments]
  | character kind maxLength => exact Nat.le_trans (hle [maxLength]) (by simp)
  | exact kind precision scale => exact hle _
  | timestamp precision timezone => exact Nat.le_trans (hle [precision]) (by simp)

theorem isArgument_int64Text {value : Int64} (h : unset < value) :
    TypePhrase.IsArgument (Decimal.int64Text value).toList :=
  int64Text_of_set h ▸ TypePhrase.isArgument_natText _

theorem arguments?_argumentsText {arguments : List Int64} {rest : List Char}
    (hset : ∀ value ∈ arguments, unset < value) (hlength : arguments.length ≤ 2)
    (hrest : TypePhrase.arguments? rest = none) :
    TypePhrase.arguments? ((argumentsText arguments).toList ++ rest) =
      arguments[0]?.map fun first => ((Decimal.int64Text first).toList,
        arguments[1]?.map fun second => (Decimal.int64Text second).toList) := by
  match arguments, hlength with
  | [], _ => simpa [argumentsText] using hrest
  | [first], _ =>
    have hfirst := isArgument_int64Text (hset first (by simp))
    simpa [argumentsText] using TypePhrase.arguments?_one hfirst
  | [first, second], _ =>
    have hfirst := isArgument_int64Text (hset first (by simp))
    have hsecond := isArgument_int64Text (hset second (by simp))
    simpa [argumentsText] using TypePhrase.arguments?_two hfirst hsecond

/-- The name of a canonical phrase is a word, and what may stand behind it is not. -/
theorem canonical_marks :
    (∀ tag ∈ canonicalTags, tag.toList.all isWordChar = true) ∧ isWordChar '(' = false ∧
      isWordChar ' ' = false := by
  decide +kernel

theorem Canonical.isWordChar_tag {type : DataType} (h : type.Canonical) :
    ∀ c ∈ type.tag.toList, isWordChar c = true := by
  simpa using canonical_marks.1 _ h

theorem head?_argumentsText (type : DataType) {c : Char}
    (h : ((argumentsText type.setArguments).toList ++ type.zoneText.toList).head? = some c) :
    c = '(' ∨ c = ' ' := by
  cases hargs : type.setArguments with
  | cons value others =>
    rw [hargs] at h
    exact .inl (by simpa [argumentsText] using h.symm)
  | nil =>
    rw [hargs, zoneText] at h
    split at h
    · exact .inr (by simpa [argumentsText] using h.symm)
    · simp [argumentsText] at h

/-- **The parts of a canonical phrase** are the tag and the arguments that are set. -/
theorem Canonical.ofPhrase_display {type : DataType} (h : type.Canonical) :
    TypePhrase.ofPhrase type.display.toList =
      .ofParts type.tag (type.setArguments[0]?.map Decimal.int64Text)
        (type.setArguments[1]?.map Decimal.int64Text) := by
  have hstop : ∀ c, ((argumentsText type.setArguments).toList ++ type.zoneText.toList).head? =
      some c → isWordChar c = false := by
    intro c hc
    rcases head?_argumentsText type hc with rfl | rfl
    · exact canonical_marks.2.1
    · exact canonical_marks.2.2
  have hzone : TypePhrase.arguments? type.zoneText.toList = none := by
    unfold zoneText
    split <;> rfl
  have hne : type.tag.toList ≠ [] := by simpa using h.tag_ne
  rw [display_eq_append, String.append_assoc, String.toList_append, String.toList_append,
    TypePhrase.ofPhrase_append hne h.isWordChar_tag hstop,
    arguments?_argumentsText (fun _ => lt_of_mem_setArguments) (length_setArguments_le type) hzone]
  match hargs : type.setArguments, length_setArguments_le type with
  | [], _ => simp
  | [first], _ => simp
  | [first, second], _ => simp

/-! ## The type of a canonical phrase -/

/-- An argument that is not set is as good as one with the value for that. -/
theorem boundedField_of_set {fields : Mapping} {field : TypeField} {value max : Int64}
    (h : fields.get? field.key = if unset < value then some (.int value) else none)
    (hlo : unset ≤ value) (hhi : value ≤ max) : boundedField fields field max = .ok value := by
  by_cases hset : unset < value
  · rw [if_pos hset] at h
    exact boundedField_of_get? h hlo hhi
  · rw [if_neg hset] at h
    have hvalue : value = unset := Int64.le_antisymm (Int64.not_lt.1 hset) hlo
    rw [boundedField_eq_ok]
    refine ⟨?_, hlo, hhi⟩
    rw [intField, h, hvalue]

theorem map_argumentJson (value? : Option Int64) :
    (value?.map Decimal.int64Text).map TypePhrase.argumentJson = value?.map Json.int := by
  rw [Option.map_map]
  refine congrArg (Option.map · value?) (funext fun value => ?_)
  show TypePhrase.argumentJson (Decimal.int64Text value) = _
  rw [TypePhrase.argumentJson, Decimal.readInt64?_int64Text]

theorem setOnes_cons (value : Int64) (others : List Int64) :
    display.setOnes (value :: others) =
      if unset < value then value :: display.setOnes others else [] := by
  by_cases h : unset < value <;> simp [display.setOnes, h]

theorem occurs_timezoneText {type : DataType} (h : type.Canonical) :
    occurs timezoneText type.display.toList = true ↔ type.timezone? = some true := by
  rw [occurs_iff]
  constructor
  · intro hi
    by_contra hzone
    have hall : ∀ tag ∈ canonicalTags, 'w' ∉ tag.toList := by decide
    exact not_infix_display h.tag_ne ⟨'w', by decide, hall _ h, by decide, by decide,
      fun hz => absurd hz hzone⟩ hi
  · intro hzone
    have hsuffix : timezoneText <:+ type.zoneText.toList := by
      rw [zoneText, if_pos hzone]
      decide
    rw [display_eq_append, String.toList_append]
    exact (hsuffix.trans (List.suffix_append _ _)).isInfix

section
variable {type : DataType} (h : type.Canonical)
include h

/-- The fields besides the time zone hold what the parts of the phrase say. -/
theorem Canonical.get?_display {field : TypeField} (hfield : field ≠ .timezone) :
    (phraseMapping type.display.toList).get? field.key =
      (TypePhrase.ofParts type.tag (type.setArguments[0]?.map Decimal.int64Text)
        (type.setArguments[1]?.map Decimal.int64Text)).toMapping.get? field.key := by
  rw [TypePhrase.get?_phraseMapping, h.ofPhrase_display, if_neg fun hz => hfield hz.1]

theorem Canonical.get?_tag :
    (phraseMapping type.display.toList).get? TypeField.type.key = some (.string type.tag) := by
  rw [h.get?_display (by decide), TypePhrase.get?_toMapping, TypePhrase.name_ofParts]

theorem Canonical.get?_timezone (hname : type.tag = "timestamp") :
    (phraseMapping type.display.toList).get? TypeField.timezone.key =
      if type.timezone? = some true then some (.bool true) else none := by
  rw [TypePhrase.get?_phraseMapping, h.ofPhrase_display, TypePhrase.name_ofParts,
    TypePhrase.get?_toMapping]
  simp only [hname, occurs_timezoneText h, true_and]

end

theorem ofKind_display {type : DataType} {kind : TypeKind} (hc : type.Canonical)
    (hw : type.WellFormed) (hkind : type.kind? = some kind) :
    ofKind (phraseMapping type.display.toList) kind = .ok type := by
  have hget := fun field (hfield : field ≠ TypeField.timezone) =>
    (hc.get?_display hfield).trans (TypePhrase.get?_toMapping _ field)
  rw [ofKind_eq_ok]
  cases type with
  | base tag => cases hkind
  | plain kind =>
    cases hkind
    rfl
  | character kind maxLength =>
    cases hkind
    have hparts : ∀ first second, TypePhrase.ofParts kind.tag first second =
        ⟨kind.tag, first, none, none⟩ := by
      intro first second
      cases kind <;> rfl
    refine ⟨maxLength, boundedField_of_set ?_ hw maxLength.le_maxValue, rfl⟩
    rw [hget .maxLength (by decide)]
    simp only [tag, hparts, map_argumentJson, setArguments, setOnes_cons]
    split <;> rfl
  | exact kind precision scale =>
    cases hkind
    obtain ⟨hprecision, hscale, hset⟩ := hw
    have hparts : ∀ first second, TypePhrase.ofParts kind.tag first second =
        ⟨kind.tag, none, first, second⟩ := by
      intro first second
      cases kind <;> rfl
    have hexact : TypePhrase.isExactNumeric kind.tag = true := by cases kind <;> rfl
    refine ⟨precision, scale, boundedField_of_set ?_ hprecision precision.le_maxValue, ?_, hset, rfl⟩
    · rw [hget .precision (by decide)]
      simp only [tag, hparts, map_argumentJson, setArguments, setOnes_cons]
      split <;> rfl
    · -- with a precision the mapping always holds a scale, else neither is set
      by_cases hp : unset < precision
      · refine boundedField_of_get? ?_ hscale scale.le_maxValue
        rw [hget .scale (by decide)]
        simp only [tag, hparts, map_argumentJson, setArguments, setOnes_cons, hexact, if_pos hp]
        by_cases hs : unset < scale
        · simp [hs]
        · have hunset : scale = unset := Int64.le_antisymm (Int64.not_lt.1 hs) hscale
          rw [if_neg hs, hunset]
          rfl
      · have hunset : scale = unset :=
          hset (Int64.le_antisymm (Int64.not_lt.1 hp) hprecision)
        refine boundedField_of_set ?_ hscale scale.le_maxValue
        rw [hget .scale (by decide)]
        simp only [tag, hparts, setArguments, setOnes_cons, if_neg hp, hunset]
        rfl
  | timestamp precision timezone =>
    cases hkind
    have hparts : ∀ first second, TypePhrase.ofParts "timestamp" first second =
        ⟨"timestamp", none, first, none⟩ := fun _ _ => rfl
    refine ⟨precision, timezone, boundedField_of_set ?_ hw.1 hw.2, ?_, rfl⟩
    · rw [hget .precision (by decide)]
      simp only [tag, hparts, map_argumentJson, setArguments, setOnes_cons]
      split <;> rfl
    · rw [boolField, hc.get?_timezone rfl]
      cases timezone <;> rfl

/-! ## The type back from its phrase -/

theorem eq_generic_of_canonical {label : String} (hc : (base label).Canonical)
    (hw : (base label).WellFormed) : base label = generic := by
  have hknown : ∀ tag ∈ canonicalTags, tag = baseTag ∨ tag ∈ knownTags := by decide
  rcases hknown label hc with rfl | hm
  · rfl
  · exact absurd rfl (wellFormed_base_iff.1 hw label hm)

/-- **A canonical phrase is read as the type that it was written for.** -/
theorem parse_display {type : DataType} (hc : type.Canonical) (hw : type.WellFormed) :
    parse type.display = .ok type := by
  rw [parse, hc.lowerText_display]
  unfold resolve
  simp only [hc.get?_tag, ofTag?_tag hw]
  cases hkind : type.kind? with
  | some kind => exact ofKind_display hc hw hkind
  | none =>
    cases type with
    | base label => exact congrArg Except.ok (eq_generic_of_canonical hc hw).symm
    | _ => cases hkind

theorem canonical_of_not_base {type : DataType} (h : type.isBase = false) : type.Canonical := by
  cases type with
  | base label => cases h
  | character kind _ => cases kind <;> simp [Canonical, canonicalTags, tag, CharacterKind.tag]
  | plain kind => cases kind <;> decide
  | exact kind _ _ => cases kind <;> simp [Canonical, canonicalTags, tag, ExactKind.tag]
  | timestamp _ _ => simp [Canonical, canonicalTags, tag]

theorem eq_generic_of_parse {phrase label : String} (h : parse phrase = .ok (base label)) :
    label = baseTag :=
  base.inj (eq_generic_of_canonical (canonical_of_parse h) (wellFormed_of_parse h))

/-- **Round trip of canonical phrases.** What a phrase gives is well-formed, has no tag of its own
and is read back from its canonical phrase; so is every well-formed type that is no base type,
however it came about, and no two of these share a phrase. -/
theorem parse_display_of_wellFormed :
    (∀ phrase type, parse phrase = .ok type →
      type.WellFormed ∧ (∀ label, type = base label → label = baseTag) ∧
        parse type.display = .ok type) ∧
    (∀ type : DataType, type.WellFormed → type.isBase = false →
      parse type.display = .ok type) ∧
    ∀ type other : DataType, type.WellFormed → type.isBase = false → other.WellFormed →
      other.isBase = false → type.display = other.display → type = other := by
  have hread : ∀ type : DataType, type.WellFormed → type.isBase = false →
      parse type.display = .ok type := fun type hw hbase =>
    parse_display (canonical_of_not_base hbase) hw
  refine ⟨fun phrase type h => ?_, hread, ?_⟩
  · have hw := wellFormed_of_parse h
    refine ⟨hw, ?_, parse_display (canonical_of_parse h) hw⟩
    rintro label rfl
    exact eq_generic_of_parse h
  · intro type other hw hbase hwo hbaseo hdisplay
    have hother := hread other hwo hbaseo
    rw [← hdisplay, hread type hw hbase] at hother
    exact Except.ok.inj hother

/-- A phrase with leading zeros and text behind it, and the largest arguments there are. -/
theorem parse_display_of_wellFormed_numeric :
    parse "NUMERIC (007,02) of the order" = .ok (.exact .numeric 7 2) ∧
    parse "numeric( 7, 2 )" = .ok (.exact .numeric 7 2) ∧
    (exact .decimal Int64.maxValue Int64.maxValue).WellFormed ∧
    parse "decimal( 9223372036854775807, 9223372036854775807 )" =
      .ok (.exact .decimal Int64.maxValue Int64.maxValue) ∧
    ∀ other : DataType, other.WellFormed → other.isBase = false →
      (exact .decimal Int64.maxValue Int64.maxValue).display = other.display →
      exact .decimal Int64.maxValue Int64.maxValue = other := by
  obtain ⟨hphrase, htype, hinjective⟩ := parse_display_of_wellFormed
  have hparse : parse "NUMERIC (007,02) of the order" = .ok (.exact .numeric 7 2) := by
    decide +kernel
  have hnumeric : (exact .numeric 7 2).display = "numeric( 7, 2 )" := by decide +kernel
  have hwf : (exact .decimal Int64.maxValue Int64.maxValue).WellFormed := by decide +kernel
  have hdecimal : (exact .decimal Int64.maxValue Int64.maxValue).display =
      "decimal( 9223372036854775807, 9223372036854775807 )" := by decide +kernel
  refine ⟨hparse, hnumeric ▸ (hphrase _ _ hparse).2.2, hwf, hdecimal ▸ htype _ hwf rfl, ?_⟩
  exact fun other => hinjective _ other hwf rfl

end DataType

end SchemaPhrase
