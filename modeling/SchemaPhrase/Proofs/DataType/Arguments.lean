import SchemaPhrase.Proofs.DataType.Refusal
import SchemaPhrase.Proofs.Decimal.Spelling

/-!
# What an argument means

An argument of a type counts by the integer that it means (`Means`): the number itself, any spelling
of it, and absent or null for the one that is not set. `ofMapping_congr_of_means`: mappings in which
an argument means the same describe the same type, or are refused for the same cause. A text that
spells no integer and a number that is none mean nothing, and are told if the type reads the
argument and those before it are in order (`ofKind_of_meaningless`). What a type does not read it
does not look at (`ofKind_insert_of_unread`).
-/

set_option autoImplicit false

namespace SchemaPhrase

open Decimal

namespace TypeKind

/-- The fields that a known type reads, in order. -/
def reads : TypeKind → List TypeField
  | character _ => [.maxLength]
  | plain _ => []
  | exact _ => [.precision, .scale]
  | timestamp => [.precision, .timezone]

/-- The fields that a known type reads before one of them. -/
def readsBefore (kind : TypeKind) (field : TypeField) : List TypeField :=
  kind.reads.takeWhile (· ≠ field)

/-- The largest value of an argument. -/
def limit : TypeKind → Int64
  | timestamp => DataType.maxTimestampPrecision
  | _ => Int64.maxValue

end TypeKind

namespace DataType

/-! ## Meaning -/

/-- **The integer that an argument means.** -/
inductive Means : Option Json → Int64 → Prop
  | absent : Means none unset
  | null : Means (some .null) unset
  | number (n : Int64) : Means (some (.int n)) n
  | text {text : String} {n : Int64} : Spells text n → Means (some (.string text)) n

/-- A text or a number that is no 64-bit integer, with the way it is written. -/
inductive Meaningless : Json → String → Prop
  | text {text : String} : (∀ n, ¬ Spells text n) → Meaningless (.string text) text
  | number {number : Number} : (∀ n : Int64, .number number ≠ Json.int n) →
    Meaningless (.number number) (String.ofList number.text)

/-- The argument means an integer that a known type accepts. -/
def Accepts (kind : TypeKind) (fields : Mapping) (field : TypeField) : Prop :=
  ∃ n, Means (fields.get? field.key) n ∧ unset ≤ n ∧ n ≤ kind.limit

section
variable {fields other : Mapping} {field : TypeField} {n : Int64}

theorem int64?_eq_some_iff {number : Number} {n : Int64} :
    number.int64? = some n ↔ .number number = Json.int n := by
  rw [Json.int, Json.number.injEq]
  cases number with
  | integer value => rw [Number.int64?, toInt64?_eq_some_iff, Number.integer.injEq]
  | real value =>
    constructor
    · intro h
      cases h
    · intro h
      cases h

theorem intField_eq_ok_iff :
    intField fields field = .ok n ↔ Means (fields.get? field.key) n := by
  constructor
  · intro h
    unfold intField at h
    split at h
    · next hget =>
      cases h
      exact hget ▸ .absent
    · next hget =>
      cases h
      exact hget ▸ .null
    · next number hget =>
      split at h
      · next value hread =>
        cases h
        rw [hget, int64?_eq_some_iff.1 hread]
        exact .number n
      · cases h
    · next text hget =>
      split at h
      · next value hread =>
        cases h
        exact hget ▸ .text (readInt64?_trim_iff.1 hread)
      · cases h
    · cases h
  · intro h
    generalize hget : fields.get? field.key = found at h
    cases h with
    | absent => simp only [intField, hget]
    | null => simp only [intField, hget]
    | number n => exact intField_of_get? hget
    | text hspells => simp only [intField, hget, readInt64?_trim_iff.2 hspells]

theorem intField_of_meaningless {value : Json} {text : String}
    (h : fields.get? field.key = some value) (hvalue : Meaningless value text) :
    intField fields field = .error (.invalidArgument field text) := by
  cases hvalue with
  | text hspells =>
    have hread : readInt64? (Text.trim text.toList) = none :=
      Option.eq_none_iff_forall_ne_some.2 fun n hn => hspells n (readInt64?_trim_iff.1 hn)
    simp only [intField, h, hread]
  | @number number hnumber =>
    have hread : number.int64? = none :=
      Option.eq_none_iff_forall_ne_some.2 fun n hn => hnumber n (int64?_eq_some_iff.1 hn)
    simp only [intField, h, hread]

theorem accepts_iff {kind : TypeKind} :
    Accepts kind fields field ↔ ∃ n, boundedField fields field kind.limit = .ok n := by
  simp only [Accepts, boundedField_eq_ok, intField_eq_ok_iff]

theorem boundedField_of_meaningless {value : Json} {text : String} {max : Int64}
    (h : fields.get? field.key = some value) (hvalue : Meaningless value text) :
    boundedField fields field max = .error (.invalidArgument field text) :=
  bind_eq_error.2 (.inl (intField_of_meaningless h hvalue))

/-! ## Mappings that mean the same -/

/-- A known type looks at the integers under the arguments that it reads, and at the time zone. -/
theorem ofKind_congr {kind : TypeKind}
    (harguments : ∀ field ∈ kind.reads, field.isArgument = true →
      intField fields field = intField other field)
    (hzone : fields.get? TypeField.timezone.key = other.get? TypeField.timezone.key) :
    ofKind fields kind = ofKind other kind := by
  have hbounded : ∀ field ∈ kind.reads, field.isArgument = true → ∀ max,
      boundedField fields field max = boundedField other field max := by
    intro field hreads hfield max
    rw [boundedField, boundedField, harguments field hreads hfield]
  cases kind with
  | character kind => simp only [ofKind, hbounded .maxLength List.mem_cons_self rfl]
  | plain kind => rfl
  | exact kind =>
    have hscale := hbounded .scale (List.mem_cons_of_mem _ List.mem_cons_self) rfl
    simp only [ofKind, hbounded .precision List.mem_cons_self rfl, hscale]
  | timestamp =>
    simp only [ofKind, hbounded .precision List.mem_cons_self rfl, boolField, hzone]

theorem ofMapping_congr
    (htype : fields.get? TypeField.type.key = other.get? TypeField.type.key)
    (hkind : ∀ kind, ofKind fields kind = ofKind other kind) :
    ofMapping fields = ofMapping other := by
  simp only [ofMapping, resolve, htype, hkind]

theorem ofMapping_congr_of_means (hfield : field.isArgument = true)
    (hsame : ∀ key, key ≠ field.key → fields.get? key = other.get? key)
    (h : Means (fields.get? field.key) n) (ho : Means (other.get? field.key) n) :
    ofMapping fields = ofMapping other := by
  have hget : ∀ reading : TypeField, reading ≠ field →
      fields.get? reading.key = other.get? reading.key := fun reading hne =>
    hsame _ fun hkey => hne (TypePhrase.key_injective hkey)
  refine ofMapping_congr (hget _ ?_) fun kind => ofKind_congr (fun reading _ _ => ?_) (hget _ ?_)
  · rintro rfl
    cases hfield
  · by_cases he : reading = field
    · subst he
      rw [intField_eq_ok_iff.2 h, intField_eq_ok_iff.2 ho]
    · rw [intField, intField, hget reading he]
  · rintro rfl
    cases hfield

theorem ofMapping_insert_of_means {value : Json} (hfield : field.isArgument = true)
    (hsame : ∀ key, key ≠ field.key → fields.get? key = other.get? key)
    (h : Means (some value) n) (ho : Means (other.get? field.key) n) :
    ofMapping (fields.insert field.key value) = ofMapping other := by
  refine ofMapping_congr_of_means hfield (fun key hne => ?_) ?_ ho
  · rw [Mapping.get?_insert, if_neg (Ne.symm hne), hsame key hne]
  · rwa [Mapping.get?_insert, if_pos rfl]

end

/-! ## Arguments without a meaning -/

section
variable {fields : Mapping} {field : TypeField} {kind : TypeKind} {value : Json} {text : String}

theorem ofKind_of_meaningless (hfield : field.isArgument = true) (hreads : field ∈ kind.reads)
    (hbefore : ∀ earlier ∈ kind.readsBefore field, Accepts kind fields earlier)
    (h : fields.get? field.key = some value) (hvalue : Meaningless value text) :
    ofKind fields kind = .error (.invalidArgument field text) := by
  have hfails : ∀ max, boundedField fields field max = .error (.invalidArgument field text) :=
    fun max => boundedField_of_meaningless h hvalue
  cases kind with
  | character kind =>
    obtain rfl := List.mem_singleton.1 hreads
    exact bind_eq_error.2 (.inl (hfails _))
  | plain kind => cases hreads
  | exact kind =>
    rcases List.mem_pair.1 hreads with rfl | rfl
    · exact bind_eq_error.2 (.inl (hfails _))
    · obtain ⟨precision, hprecision⟩ := accepts_iff.1 (hbefore .precision List.mem_cons_self)
      exact bind_eq_error.2 (.inr ⟨precision, hprecision, bind_eq_error.2 (.inl (hfails _))⟩)
  | timestamp =>
    rcases List.mem_pair.1 hreads with rfl | rfl
    · exact bind_eq_error.2 (.inl (hfails _))
    · cases hfield

theorem ofKind_insert_of_unread (hfield : field.isArgument = true) (h : field ∉ kind.reads)
    (value : Json) : ofKind (fields.insert field.key value) kind = ofKind fields kind := by
  have hget : ∀ reading : TypeField, reading ≠ field →
      (fields.insert field.key value).get? reading.key = fields.get? reading.key := by
    intro reading hne
    rw [Mapping.get?_insert, if_neg fun hkey => hne (TypePhrase.key_injective hkey).symm]
  refine ofKind_congr (fun reading hreads _ => ?_) (hget _ ?_)
  · rw [intField, intField, hget reading fun he => h (he ▸ hreads)]
  · rintro rfl
    cases hfield

theorem ofMapping_of_tag {tag : String}
    (htype : fields.get? TypeField.type.key = some (.string tag))
    (htag : TypeKind.ofTag? tag = some kind) : ofMapping fields = ofKind fields kind := by
  simp only [ofMapping, resolve, htype, htag]

theorem Accepts.insert {earlier : TypeField} (h : Accepts kind fields earlier)
    (hne : earlier ≠ field) (value : Json) : Accepts kind (fields.insert field.key value) earlier := by
  obtain ⟨n, hmeans, hrange⟩ := h
  refine ⟨n, ?_, hrange⟩
  rwa [Mapping.get?_insert, if_neg fun hkey => hne (TypePhrase.key_injective hkey).symm]

/-- The type that a tag names is the one that is read, whatever is set under an argument. -/
theorem ofMapping_insert_of_tag {tag : String} (hfield : field.isArgument = true)
    (htype : fields.get? TypeField.type.key = some (.string tag))
    (htag : TypeKind.ofTag? tag = some kind) (value : Json) :
    ofMapping (fields.insert field.key value) = ofKind (fields.insert field.key value) kind := by
  have hkey : field.key ≠ TypeField.type.key := by
    intro hkey
    rw [TypePhrase.key_injective hkey] at hfield
    cases hfield
  exact ofMapping_of_tag (by rwa [Mapping.get?_insert, if_neg hkey]) htag

end

/-- **An argument counts by the integer that it means.** All spellings of an integer mean what the
number does, and absent, null and `-1` are the same. What means nothing is told, with the name of
its field, by every type that reads it behind arguments that it accepts; to a known type that does
not read it nothing matters. -/
theorem arguments_count_by_meaning (field : TypeField) (hfield : field.isArgument = true) :
    (∀ (fields : Mapping) n text, Spells text n →
      ofMapping (fields.insert field.key (.string text)) =
        ofMapping (fields.insert field.key (.int n))) ∧
    (∀ fields : Mapping, fields.get? field.key = none →
      ofMapping (fields.insert field.key .null) = ofMapping fields ∧
        ofMapping (fields.insert field.key (.int (-1))) = ofMapping fields) ∧
    ∀ (fields : Mapping) tag kind,
      fields.get? TypeField.type.key = some (.string tag) → TypeKind.ofTag? tag = some kind →
      (field ∈ kind.reads → (∀ earlier ∈ kind.readsBefore field, Accepts kind fields earlier) →
        ∀ value text, Meaningless value text →
        ofMapping (fields.insert field.key value) = .error (.invalidArgument field text)) ∧
      (field ∉ kind.reads →
        ∀ value, ofMapping (fields.insert field.key value) = ofMapping fields) := by
  refine ⟨fun fields n text h => ?_, fun fields h => ?_, ?_⟩
  · refine ofMapping_insert_of_means hfield (fun key hne => ?_) (.text h) ?_
    · rw [Mapping.get?_insert, if_neg (Ne.symm hne)]
    · rw [Mapping.get?_insert, if_pos rfl]
      exact .number n
  · have habsent : Means (fields.get? field.key) unset := h ▸ .absent
    exact ⟨ofMapping_insert_of_means hfield (fun _ _ => rfl) .null habsent,
      ofMapping_insert_of_means hfield (fun _ _ => rfl) (.number unset) habsent⟩
  · intro fields tag kind htype htag
    have htyped := ofMapping_insert_of_tag hfield htype htag
    refine ⟨fun hreads hbefore value text hvalue => ?_, fun hunread value => ?_⟩
    · have hne : ∀ earlier ∈ kind.readsBefore field, earlier ≠ field := fun earlier h => by
        simpa using List.mem_takeWhile_imp h
      rw [htyped]
      exact ofKind_of_meaningless hfield hreads
        (fun earlier h => (hbefore earlier h).insert (hne earlier h) value)
        (by rw [Mapping.get?_insert, if_pos rfl]) hvalue
    · rw [htyped, ofMapping_of_tag htype htag]
      exact ofKind_insert_of_unread hfield hunread value

/-- The least integer behind zeros and between blanks is out of range as the number is; one below
it is no integer, and neither is a number above all of them. A type without arguments takes even
a flag. -/
theorem arguments_count_by_meaning_scale :
    let fields : Mapping := [("precision", .string "+0"), ("type", .string "NUMERIC")]
    let plain : Mapping := [("type", .string "Text")]
    let least := "\u2003-00009223372036854775808\t"
    let below := "-9223372036854775809"
    let above : Number := .integer 9223372036854775808
    TypeField.isArgument .scale = true ∧ Spells least Int64.minValue ∧
    ofMapping (fields.insert "scale" (.string least)) =
      ofMapping (fields.insert "scale" (.int Int64.minValue)) ∧
    ofMapping (fields.insert "scale" (.int Int64.minValue)) =
      .error (.outOfRange .scale Int64.minValue Int64.maxValue) ∧
    fields.get? "scale" = none ∧
    ofMapping (fields.insert "scale" .null) = ofMapping fields ∧
    ofMapping (fields.insert "scale" (.int (-1))) = ofMapping fields ∧
    TypeKind.readsBefore (.exact .numeric) .scale = [.precision] ∧
    Accepts (.exact .numeric) fields .precision ∧
    Meaningless (.string below) below ∧
    ofMapping (fields.insert "scale" (.string below)) = .error (.invalidArgument .scale below) ∧
    Meaningless (.number above) "9223372036854775808" ∧
    ofMapping (fields.insert "scale" (.number above)) =
      .error (.invalidArgument .scale "9223372036854775808") ∧
    ofMapping (plain.insert "scale" (.bool true)) = ofMapping plain := by
  intro fields plain least below above
  have hleast : Spells least Int64.minValue := readInt64?_trim_iff.1 (by decide +kernel)
  have hprecision : Accepts (.exact .numeric) fields .precision :=
    ⟨0, .text (readInt64?_trim_iff.1 (by decide +kernel)), by decide, by decide⟩
  have hbefore : ∀ earlier ∈ TypeKind.readsBefore (.exact .numeric) .scale,
      Accepts (.exact .numeric) fields earlier := fun earlier h => by
    obtain rfl : earlier = .precision := by simpa [TypeKind.readsBefore, TypeKind.reads] using h
    exact hprecision
  have hbelow : Meaningless (.string below) below := .text fun n hspells => by
    have hread : readInt64? (Text.trim below.toList) = none := by decide +kernel
    rw [readInt64?_trim_iff.2 hspells] at hread
    cases hread
  have habove : Meaningless (.number above) "9223372036854775808" := by
    have hmeaningless : Meaningless (.number above) (String.ofList above.text) :=
      .number fun n hn => by
        have hread : above.int64? = none := by decide +kernel
        rw [int64?_eq_some_iff.2 hn] at hread
        cases hread
    have htext : String.ofList above.text = "9223372036854775808" := by decide +kernel
    rwa [htext] at hmeaningless
  obtain ⟨hspell, hunset, hfail⟩ := arguments_count_by_meaning .scale rfl
  have hfails := (hfail fields "NUMERIC" (.exact .numeric) rfl (by decide +kernel)).1 (by decide)
    hbefore
  have hunread := (hfail plain "Text" (.plain .text) rfl (by decide +kernel)).2 (by decide)
  exact ⟨rfl, hleast, hspell fields _ least hleast, by decide +kernel, rfl,
    (hunset fields rfl).1, (hunset fields rfl).2, by decide,
    hprecision, hbelow, hfails _ _ hbelow, habove, hfails _ _ habove, hunread _⟩

end DataType

end SchemaPhrase
