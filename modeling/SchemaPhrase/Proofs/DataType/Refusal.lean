import SchemaPhrase.Proofs.DataType.Codec
import SchemaPhrase.Proofs.TypePhrase.Grammar

/-!
# Arguments that are refused

An argument of a phrase is refused if it is no 64-bit integer in ASCII digits (`Fits`), or for its
value (`boundedField_eq_error_iff`). What else can be wrong with a mapping is not wrong with that of
a phrase: an argument is absent, unset or the digits that were written (`holds_written?`), a scale
never stands without a precision, and the time zone is a flag. So what a known type finds wrong is
one of its arguments, the first in the order in which they are read (`ofKind_character_eq_error_iff`,
`ofKind_exact_eq_error_iff`, `ofKind_timestamp_eq_error_iff`).
-/

set_option autoImplicit false

namespace SchemaPhrase

open Text

/-- An argument is wrong by itself. -/
inductive DataTypeError.OfArgument : DataTypeError → Prop
  | invalid (field : TypeField) (value : String) : OfArgument (.invalidArgument field value)
  | range (field : TypeField) (value max : Int64) : OfArgument (.outOfRange field value max)

/-- Whether a field is written in parentheses behind the name of a type. -/
def TypeField.isArgument : TypeField → Bool
  | maxLength | precision | scale => true
  | type | timezone => false

/-! ## Digits -/

namespace TypePhrase

theorem isArgument_of_arguments? {text first : List Char} {second : Option (List Char)}
    (h : arguments? text = some (first, second)) :
    IsArgument first ∧ ∀ digits, second = some digits → IsArgument digits := by
  obtain ⟨taken, after, htaken, -⟩ := arguments?_eq_some_iff.1 h
  cases htaken with
  | one _ _ hfirst _ => exact ⟨hfirst, fun _ hdigits => nomatch hdigits⟩
  | two _ _ hfirst _ hsecond _ =>
    exact ⟨hfirst, fun _ hdigits => Option.some.inj hdigits ▸ hsecond⟩

/-- The arguments of a phrase are made of digits, and only a second one is a scale. -/
structure Written (parts : TypePhrase) : Prop where
  maxLength : ∀ digits, parts.maxLength = some digits → IsArgument digits.toList
  precision : ∀ digits, parts.precision = some digits → IsArgument digits.toList
  scale : ∀ digits, parts.scale = some digits → IsArgument digits.toList

theorem written_ofParts {name : String} {first second : Option String}
    (hfirst : ∀ digits, first = some digits → IsArgument digits.toList)
    (hsecond : ∀ digits, second = some digits → IsArgument digits.toList) :
    (ofParts name first second).Written := by
  have hnone : ∀ digits, (none : Option String) = some digits → IsArgument digits.toList :=
    fun _ h => nomatch h
  unfold ofParts
  split
  · exact ⟨hnone, hfirst, hsecond⟩
  · split
    · exact ⟨hnone, hfirst, hnone⟩
    · exact ⟨hfirst, hnone, hnone⟩

theorem written_ofPhrase (phrase : List Char) : (ofPhrase phrase).Written := by
  have hnone : ∀ digits, (none : Option String) = some digits → IsArgument digits.toList :=
    fun _ h => nomatch h
  simp only [ofPhrase]
  split
  · exact ⟨hnone, hnone, hnone⟩
  · cases harguments : arguments? ((phrase.dropWhile (!isWordChar ·)).dropWhile isWordChar) with
    | none => exact written_ofParts hnone hnone
    | some arguments =>
      obtain ⟨first, second⟩ := arguments
      obtain ⟨hfirst, hsecond⟩ := isArgument_of_arguments? harguments
      refine written_ofParts (fun digits h => ?_) fun digits h => ?_
      · cases h
        rwa [String.toList_ofList]
      · obtain ⟨found, hfound, rfl⟩ := Option.map_eq_some_iff.1 h
        rw [String.toList_ofList]
        exact hsecond found hfound

end TypePhrase

namespace DataType

open TypePhrase

theorem trim_of_isArgument {digits : List Char} (h : IsArgument digits) : trim digits = digits := by
  have hsolid : ∀ c ∈ digits, isBlank c = false := fun c hc => by
    rw [Bool.eq_false_iff]
    intro hb
    have hdigit := h.2 c hc
    rw [(not_word_of_blank hb).2] at hdigit
    cases hdigit
  exact (Tidy.of_word h.1 hsolid).trim

/-! ## Numbers -/

/-- The number that ASCII digits write. -/
def digitsValue (digits : String) : Nat := Nat.ofDigitChars 10 digits.toList 0

/-- ASCII digits, and a number that 64 bits can hold with its sign. -/
def Fits (digits : String) : Prop :=
  digits.toList.all Char.isDigit = true ∧ digitsValue digits ≤ Int64.maxValue.toInt

instance (digits : String) : Decidable (Fits digits) :=
  inferInstanceAs (Decidable (_ ∧ _))

/-- **What digits are read as.** A sign is no digit, so there is none. -/
theorem readInt64?_of_isArgument {digits : String} (h : IsArgument digits.toList) :
    Decimal.readInt64? digits.toList =
      if Fits digits then some (Int64.ofNat (digitsValue digits)) else none := by
  have hsign : ∀ c, isDecimal c = false → c ∉ digits.toList := by
    intro c hc hmem
    rw [h.2 c hmem] at hc
    cases hc
  have hread : Decimal.readInt? digits.toList =
      (Decimal.readNat? digits.toList).map Int.ofNat :=
    Decimal.readInt?_of_unsigned (hsign '-' (by decide)) (hsign '+' (by decide))
  have hlow : Int64.minValue.toInt ≤ 0 := by decide
  rw [Decimal.readInt64?, hread, Decimal.readNat?]
  by_cases hall : digits.toList.all Char.isDigit = true
  · rw [if_pos ⟨h.1, hall⟩, Option.map_some, Option.bind_some, Decimal.toInt64?, ← digitsValue]
    have hrange : (Int64.minValue.toInt ≤ Int.ofNat (digitsValue digits) ∧
        Int.ofNat (digitsValue digits) ≤ Int64.maxValue.toInt) ↔ Fits digits := by
      rw [Fits, and_iff_right hall, Int.ofNat_eq_natCast]
      omega
    by_cases hfits : Fits digits
    · rw [if_pos (hrange.2 hfits), if_pos hfits, ← Int64.ofInt_eq_ofNat]
      rfl
    · rw [if_neg fun hboth => hfits (hrange.1 hboth), if_neg hfits]
  · rw [if_neg fun hboth => hall hboth.2, Option.map_none, Option.bind_none, if_neg]
    exact fun hfits => hall hfits.1

theorem toInt_ofNat_of_fits {digits : String} (h : Fits digits) :
    (Int64.ofNat (digitsValue digits)).toInt = digitsValue digits := by
  have hmax : Int64.maxValue.toInt = 2 ^ 63 - 1 := by decide
  have hle := h.2
  exact Int64.toInt_ofNat_of_lt (by omega)

/-! ## Fields of a phrase -/

/-- What is written for a field in parentheses: a scale only behind a precision. -/
def written? (parts : TypePhrase) : TypeField → Option String
  | .maxLength => parts.maxLength
  | .precision => parts.precision
  | .scale => if parts.precision.isSome && isExactNumeric parts.name then parts.scale else none
  | .type | .timezone => none

/-- A field that is not written is absent or unset, and one that is holds its digits. -/
def Holds (fields : Mapping) (field : TypeField) : Option String → Prop
  | none => fields.get? field.key = none ∨ fields.get? field.key = some (.int unset)
  | some digits =>
    IsArgument digits.toList ∧ fields.get? field.key = some (argumentJson digits)

theorem holds_written? (lowered : List Char) {field : TypeField}
    (hfield : field.isArgument = true) :
    Holds (phraseMapping lowered) field (written? (ofPhrase lowered) field) := by
  have hzone : field ≠ .timezone := by
    rintro rfl
    cases hfield
  obtain ⟨hlength, hprecision, hscale⟩ := written_ofPhrase lowered
  have hget := (get?_phraseMapping lowered field).trans (if_neg fun h => hzone h.1)
  rw [TypePhrase.get?_toMapping] at hget
  have hmap : ∀ argument : Option String,
      (∀ digits, argument = some digits → IsArgument digits.toList) →
      (phraseMapping lowered).get? field.key = argument.map argumentJson →
        Holds (phraseMapping lowered) field argument := by
    intro argument hargument hget
    cases argument with
    | none => exact .inl hget
    | some digits => exact ⟨hargument digits rfl, hget⟩
  cases field with
  | type => cases hfield
  | timezone => cases hfield
  | maxLength => exact hmap _ hlength hget
  | precision => exact hmap _ hprecision hget
  | scale =>
    simp only [written?] at hget ⊢
    split at hget
    · next hexact =>
      rw [if_pos hexact]
      cases hsecond : (ofPhrase lowered).scale with
      | none =>
        rw [hsecond] at hget
        exact .inr hget
      | some digits =>
        rw [hsecond] at hget
        exact ⟨hscale digits hsecond, hget⟩
    · next hexact =>
      rw [if_neg hexact]
      exact .inl hget

section
variable {fields : Mapping} {field : TypeField} {argument : Option String}
  (h : Holds fields field argument) {max : Int64} (hmax : unset ≤ max)
include h

theorem intField_of_holds :
    intField fields field =
      match argument with
      | none => .ok unset
      | some digits =>
        if Fits digits then .ok (Int64.ofNat (digitsValue digits))
        else .error (.invalidArgument field digits) := by
  cases argument with
  | none =>
    obtain hget | hget := h
    · simp [intField, hget]
    · exact intField_of_get? hget
  | some digits =>
    obtain ⟨hdigits, hget⟩ := h
    have hread := readInt64?_of_isArgument hdigits
    rw [argumentJson, hread] at hget
    by_cases hfits : Fits digits
    · rw [if_pos hfits] at hget
      simp only [if_pos hfits]
      exact intField_of_get? hget
    · rw [if_neg hfits] at hget hread
      simp only [if_neg hfits, intField, hget, trim_of_isArgument hdigits, hread]

include hmax

theorem boundedField_eq_error_iff {cause : DataTypeError} :
    boundedField fields field max = .error cause ↔ ∃ digits, argument = some digits ∧
      (¬ Fits digits ∧ cause = .invalidArgument field digits ∨
        Fits digits ∧ max.toInt < digitsValue digits ∧
          cause = .outOfRange field (Int64.ofNat (digitsValue digits)) max) := by
  have hread := intField_of_holds h
  cases argument with
  | none =>
    have hrange : unset ≤ unset ∧ unset ≤ max := ⟨Int64.le_refl _, hmax⟩
    simp [boundedField, hread, Bind.bind, Except.bind, hrange]
  | some digits =>
    by_cases hfits : Fits digits
    · simp only [if_pos hfits] at hread
      have hvalue := toInt_ofNat_of_fits hfits
      have hunset : unset.toInt = -1 := by decide
      have hset : unset ≤ Int64.ofNat (digitsValue digits) := by
        rw [Int64.le_iff_toInt_le]
        omega
      have hbelow : Int64.ofNat (digitsValue digits) ≤ max ↔ ¬ max.toInt < digitsValue digits := by
        rw [Int64.le_iff_toInt_le]
        omega
      by_cases hlarge : max.toInt < digitsValue digits
      · simp [boundedField, hread, Bind.bind, Except.bind, hset, hbelow, hfits, hlarge, eq_comm]
      · simp [boundedField, hread, Bind.bind, Except.bind, hset, hbelow, hfits, hlarge]
    · simp only [if_neg hfits] at hread
      simp [boundedField, hread, Bind.bind, Except.bind, hfits, eq_comm]

end

/-- Without a bound of its own, an argument is refused if it does not fit. -/
theorem boundedField_maxValue_eq_error_iff {fields : Mapping} {field : TypeField}
    {argument : Option String} (h : Holds fields field argument) {cause : DataTypeError} :
    boundedField fields field Int64.maxValue = .error cause ↔ ∃ digits, argument = some digits ∧
      ¬ Fits digits ∧ cause = .invalidArgument field digits := by
  rw [boundedField_eq_error_iff h (Int64.le_maxValue unset)]
  refine exists_congr fun digits => and_congr_right fun _ => or_iff_left ?_
  rintro ⟨hfits, hlarge, -⟩
  have hle := hfits.2
  omega

/-- No argument that is written is taken for one that is unset. -/
theorem eq_unset_iff_of_holds {fields : Mapping} {field : TypeField} {argument : Option String}
    (h : Holds fields field argument) {max value : Int64}
    (hread : boundedField fields field max = .ok value) : value = unset ↔ argument = none := by
  have hvalue := (boundedField_eq_ok.1 hread).1
  rw [intField_of_holds h] at hvalue
  cases argument with
  | none => exact iff_of_true (Except.ok.inj hvalue).symm rfl
  | some digits =>
    refine iff_of_false ?_ (Option.some_ne_none digits)
    rintro rfl
    by_cases hfits : Fits digits
    · simp only [if_pos hfits] at hvalue
      have htoInt := toInt_ofNat_of_fits hfits
      have hunset : unset.toInt = -1 := by decide
      rw [Except.ok.inj hvalue] at htoInt
      omega
    · simp only [if_neg hfits] at hvalue
      cases hvalue

theorem exists_boundedField_maxValue_iff {fields : Mapping} {field : TypeField}
    {argument : Option String} (h : Holds fields field argument) :
    (∃ value, boundedField fields field Int64.maxValue = .ok value) ↔
      ∀ digits, argument = some digits → Fits digits := by
  cases hread : boundedField fields field Int64.maxValue with
  | error cause =>
    obtain ⟨digits, hdigits, hfit, -⟩ := (boundedField_maxValue_eq_error_iff h).1 hread
    exact iff_of_false (fun ⟨_, hok⟩ => nomatch hok) fun hall => hfit (hall digits hdigits)
  | ok value =>
    refine iff_of_true ⟨value, rfl⟩ fun digits hdigits => Decidable.byContradiction fun hfit => ?_
    have herror := (boundedField_maxValue_eq_error_iff h).2 ⟨digits, hdigits, hfit, rfl⟩
    rw [hread] at herror
    cases herror

theorem boolField_phraseMapping (lowered : List Char) (cause : DataTypeError) :
    boolField (phraseMapping lowered) .timezone ≠ .error cause := by
  have hget := get?_phraseMapping lowered .timezone
  rw [TypePhrase.get?_toMapping] at hget
  unfold boolField
  split at hget <;> simp [hget]

/-! ## Kinds -/

section
variable (lowered : List Char) {cause : DataTypeError}

theorem holds_maxLength :
    Holds (phraseMapping lowered) .maxLength (ofPhrase lowered).maxLength :=
  holds_written? lowered rfl

theorem holds_precision :
    Holds (phraseMapping lowered) .precision (ofPhrase lowered).precision :=
  holds_written? lowered rfl

theorem written?_scale_eq_some_iff {parts : TypePhrase} {digits : String}
    (hname : isExactNumeric parts.name = true) :
    written? parts .scale = some digits ↔
      (∃ first, parts.precision = some first) ∧ parts.scale = some digits := by
  rw [written?, hname, Bool.and_true, Option.ite_none_right_eq_some, Option.isSome_iff_exists]

theorem isExactNumeric_iff {name : String} :
    isExactNumeric name = true ↔ name ∈ ["numeric", "decimal"] := by
  simp [isExactNumeric]

theorem ofKind_character_eq_error_iff (kind : CharacterKind) :
    ofKind (phraseMapping lowered) (.character kind) = .error cause ↔
      ∃ digits, (ofPhrase lowered).maxLength = some digits ∧ ¬ Fits digits ∧
        cause = .invalidArgument .maxLength digits := by
  rw [← boundedField_maxValue_eq_error_iff (holds_maxLength lowered)]
  show (_ >>= _) = _ ↔ _
  rw [bind_eq_error]
  exact or_iff_left fun ⟨_, _, hok⟩ => nomatch hok

/-- The scale is looked at behind a precision that fits. -/
theorem ofKind_exact_eq_error_iff (kind : ExactKind)
    (hname : isExactNumeric (ofPhrase lowered).name = true) :
    ofKind (phraseMapping lowered) (.exact kind) = .error cause ↔
      ∃ first, (ofPhrase lowered).precision = some first ∧
        (¬ Fits first ∧ cause = .invalidArgument .precision first ∨
          Fits first ∧ ∃ digits, (ofPhrase lowered).scale = some digits ∧ ¬ Fits digits ∧
            cause = .invalidArgument .scale digits) := by
  have hprecision := holds_precision lowered
  have hscale : Holds (phraseMapping lowered) .scale (written? (ofPhrase lowered) .scale) :=
    holds_written? lowered rfl
  show (_ >>= fun _ => _ >>= fun _ => _) = _ ↔ _
  rw [bind_eq_error, boundedField_maxValue_eq_error_iff hprecision]
  constructor
  · rintro (⟨first, hfirst, hfit, hcause⟩ | ⟨precision, hread, h⟩)
    · exact ⟨first, hfirst, .inl ⟨hfit, hcause⟩⟩
    obtain h | ⟨scale, hreadScale, h⟩ := bind_eq_error.1 h
    · obtain ⟨digits, hdigits, hfit, hcause⟩ := (boundedField_maxValue_eq_error_iff hscale).1 h
      obtain ⟨⟨first, hfirst⟩, hsecond⟩ := (written?_scale_eq_some_iff hname).1 hdigits
      have hfits := (exists_boundedField_maxValue_iff hprecision).1 ⟨precision, hread⟩ first hfirst
      exact ⟨first, hfirst, .inr ⟨hfits, digits, hsecond, hfit, hcause⟩⟩
    · split at h
      · next hset =>
        obtain ⟨hunset, hset⟩ := hset
        have hnone := (eq_unset_iff_of_holds hprecision hread).1 hunset
        exact absurd ((eq_unset_iff_of_holds hscale hreadScale).2 (by simp [written?, hnone])) hset
      · cases h
  · rintro ⟨first, hfirst, ⟨hfit, hcause⟩ | ⟨hfits, digits, hsecond, hfit, hcause⟩⟩
    · exact .inl ⟨first, hfirst, hfit, hcause⟩
    · obtain ⟨precision, hread⟩ := (exists_boundedField_maxValue_iff hprecision).2
        fun _ hdigits => Option.some.inj (hfirst.symm.trans hdigits) ▸ hfits
      have hdigits := (written?_scale_eq_some_iff hname).2 ⟨⟨first, hfirst⟩, hsecond⟩
      exact .inr ⟨precision, hread, bind_eq_error.2
        (.inl ((boundedField_maxValue_eq_error_iff hscale).2 ⟨digits, hdigits, hfit, hcause⟩))⟩

theorem ofKind_timestamp_eq_error_iff :
    ofKind (phraseMapping lowered) .timestamp = .error cause ↔
      ∃ digits, (ofPhrase lowered).precision = some digits ∧
        (¬ Fits digits ∧ cause = .invalidArgument .precision digits ∨
          Fits digits ∧ 6 < digitsValue digits ∧
            cause = .outOfRange .precision (Int64.ofNat (digitsValue digits)) 6) := by
  have hmax : maxTimestampPrecision.toInt = 6 := by decide
  have hbounded : boundedField (phraseMapping lowered) .precision maxTimestampPrecision =
      .error cause ↔ _ := boundedField_eq_error_iff (holds_precision lowered) (by decide)
  show (_ >>= fun _ => _ >>= fun _ => _) = _ ↔ _
  rw [bind_eq_error, hbounded, hmax, or_iff_left]
  · norm_cast
  · rintro ⟨precision, -, h⟩
    obtain h | ⟨timezone, -, h⟩ := bind_eq_error.1 h
    · exact boolField_phraseMapping lowered cause h
    · cases h

end

end DataType

end SchemaPhrase
