import SchemaPhrase.Proofs.DataType.Resolve
import SchemaPhrase.Proofs.Text.Casing
import SchemaPhrase.Proofs.Text.Occurrence

/-!
# The text of canonical phrases

The canonical phrase of a type is a list of words joined by single spaces (`display_eq`), each made
of the tag, digits and a few marks (`mem_displayWords`). For the types that phrases name
(`Canonical`, `canonical_of_parse`) it is tidy and in lower case, and whatever holds another letter
does not occur in it (`not_infix_display`).
-/

set_option autoImplicit false

namespace SchemaPhrase.DataType

open Text

/-! ## Arguments -/

/-- The words of a list of arguments, with a comma behind each but the last. -/
def numberWords : List Int64 → List (List Char)
  | [] => []
  | [value] => [(Decimal.int64Text value).toList]
  | value :: next :: others =>
    ((Decimal.int64Text value).toList ++ [',']) :: numberWords (next :: others)

/-- The words of a tag and its arguments. -/
def argumentWords (tag : List Char) (arguments : List Int64) : List (List Char) :=
  if arguments.isEmpty then [tag] else (tag ++ ['(']) :: (numberWords arguments ++ [[')']])

theorem numberWords_ne_nil {arguments : List Int64} (h : arguments ≠ []) :
    numberWords arguments ≠ [] := by
  obtain ⟨value, others, rfl⟩ := List.exists_cons_of_ne_nil h
  cases others <;> simp [numberWords]

theorem joinWords_numberWords (arguments : List Int64) :
    joinWords (numberWords arguments) =
      (", ".intercalate (arguments.map Decimal.int64Text)).toList := by
  induction arguments with
  | nil => simp [numberWords, joinWords]
  | cons value arguments ih =>
    cases arguments with
    | nil => simp [numberWords]
    | cons next others =>
      rw [numberWords, joinWords_cons _ (numberWords_ne_nil (by simp)), ih]
      simp

theorem joinWords_argumentWords (tag : String) (arguments : List Int64) :
    joinWords (argumentWords tag.toList arguments) = (tag ++ argumentsText arguments).toList := by
  unfold argumentWords
  cases arguments with
  | nil => simp [argumentsText]
  | cons value others =>
    have hne := numberWords_ne_nil (List.cons_ne_nil value others)
    rw [if_neg (by simp), joinWords_cons _ (by simp), joinWords_append hne (by simp),
      joinWords_numberWords]
    simp [argumentsText]

theorem int64Text_of_set {value : Int64} (h : unset < value) :
    (Decimal.int64Text value).toList = Decimal.natText value.toInt.natAbs := by
  have hpos : ¬ value.toInt < 0 := by
    have h := Int64.lt_iff_toInt_lt.1 h
    have hunset : unset.toInt = -1 := by decide
    omega
  simp [Decimal.int64Text, Decimal.intText, hpos]

theorem mem_numberWords {arguments : List Int64} (hset : ∀ value ∈ arguments, unset < value)
    {word : List Char} (h : word ∈ numberWords arguments) :
    word ≠ [] ∧ ∀ c ∈ word, c.isDigit = true ∨ c = ',' := by
  have htext : ∀ value ∈ arguments, (Decimal.int64Text value).toList ≠ [] ∧
      ∀ c ∈ (Decimal.int64Text value).toList, c.isDigit = true := by
    intro value hv
    rw [int64Text_of_set (hset value hv)]
    exact ⟨Nat.toDigits_ne_nil, fun c => Nat.isDigit_of_mem_toDigits (by decide) (by decide)⟩
  induction arguments with
  | nil => cases h
  | cons value arguments ih =>
    obtain ⟨hne, hdigit⟩ := htext value List.mem_cons_self
    cases arguments with
    | nil =>
      obtain rfl := List.mem_singleton.1 h
      exact ⟨hne, fun c hc => .inl (hdigit c hc)⟩
    | cons next others =>
      rcases List.mem_cons.1 h with rfl | h
      · refine ⟨by simp, fun c hc => ?_⟩
        exact (List.mem_append.1 hc).imp (hdigit c) List.mem_singleton.1
      · exact ih (fun v hv => hset v (List.mem_cons_of_mem _ hv)) h fun v hv =>
          htext v (List.mem_cons_of_mem _ hv)

theorem mem_argumentWords {tag : List Char} {arguments : List Int64} (htag : tag ≠ [])
    (hset : ∀ value ∈ arguments, unset < value) {word : List Char}
    (h : word ∈ argumentWords tag arguments) :
    word ≠ [] ∧ ∀ c ∈ word, c ∈ tag ∨ c.isDigit = true ∨ c ∈ ['(', ',', ')'] := by
  unfold argumentWords at h
  split at h
  · obtain rfl := List.mem_singleton.1 h
    exact ⟨htag, fun c hc => .inl hc⟩
  · simp only [List.mem_cons, List.mem_append, List.not_mem_nil, or_false] at h
    rcases h with rfl | h | rfl
    · refine ⟨by simp, fun c hc => ?_⟩
      rcases List.mem_append.1 hc with hc | hc
      · exact .inl hc
      · exact .inr (.inr (by simp_all))
    · obtain ⟨hne, hc⟩ := mem_numberWords hset h
      exact ⟨hne, fun c hm => .inr ((hc c hm).imp_right (by simp_all))⟩
    · exact ⟨by simp, by simp⟩

/-! ## Words of a canonical phrase -/

/-- What follows the arguments of a timestamp. -/
def zoneWords (timezone : Bool) : List (List Char) :=
  if timezone then ["with".toList, "time".toList, "zone".toList] else []

/-- The words of the canonical phrase. -/
def displayWords (type : DataType) : List (List Char) :=
  match type with
  | base tag => [tag.toList]
  | character kind maxLength => argumentWords kind.tag.toList (display.setOnes [maxLength])
  | plain kind => [kind.tag.toList]
  | exact kind precision scale =>
    argumentWords kind.tag.toList (display.setOnes [precision, scale])
  | timestamp precision timezone =>
    argumentWords "timestamp".toList (display.setOnes [precision]) ++ zoneWords timezone

theorem argumentWords_ne_nil (tag : List Char) (arguments : List Int64) :
    argumentWords tag arguments ≠ [] := by
  unfold argumentWords
  split <;> simp

theorem displayWords_ne_nil (type : DataType) : type.displayWords ≠ [] := by
  cases type <;> simp [displayWords, argumentWords_ne_nil]

/-- **The canonical phrase is its words, joined by single spaces.** -/
theorem display_eq (type : DataType) : type.display.toList = joinWords type.displayWords := by
  cases type with
  | base tag => rfl
  | plain kind => rfl
  | character kind maxLength => rw [displayWords, joinWords_argumentWords, display]
  | exact kind precision scale => rw [displayWords, joinWords_argumentWords, display]
  | timestamp precision timezone =>
    cases timezone with
    | false =>
      rw [displayWords, zoneWords, if_neg (by simp), List.append_nil, joinWords_argumentWords,
        display]
      simp
    | true =>
      rw [displayWords, zoneWords, if_pos rfl,
        joinWords_append (argumentWords_ne_nil _ _) (by simp), joinWords_argumentWords, display]
      simp [joinWords]

theorem mem_setOnes {arguments : List Int64} {value : Int64}
    (h : value ∈ display.setOnes arguments) : unset < value := by
  simpa using List.all_eq_true.1 List.all_takeWhile value h

/-- The characters of a word: those of the tag, digits, marks and the letters of the time zone. -/
theorem mem_displayWords {type : DataType} (htag : type.tag ≠ "") {word : List Char}
    (h : word ∈ type.displayWords) :
    word ≠ [] ∧ ∀ c ∈ word, c ∈ type.tag.toList ∨ c.isDigit = true ∨ c ∈ ['(', ',', ')'] ∨
      type.timezone? = some true ∧ c ∈ "withtimezone".toList := by
  have hne : type.tag.toList ≠ [] := by simpa using htag
  have hset : ∀ arguments, ∀ value ∈ display.setOnes arguments, unset < value :=
    fun _ _ => mem_setOnes
  have hwords : ∀ arguments, word ∈ argumentWords type.tag.toList (display.setOnes arguments) →
      word ≠ [] ∧ ∀ c ∈ word, c ∈ type.tag.toList ∨ c.isDigit = true ∨ c ∈ ['(', ',', ')'] ∨
        type.timezone? = some true ∧ c ∈ "withtimezone".toList := by
    intro arguments hw
    obtain ⟨hword, hc⟩ := mem_argumentWords hne (hset arguments) hw
    exact ⟨hword, fun c hm => (hc c hm).imp_right (·.imp_right .inl)⟩
  cases type with
  | base tag =>
    obtain rfl := List.mem_singleton.1 h
    exact ⟨hne, fun c hc => .inl hc⟩
  | plain kind =>
    obtain rfl := List.mem_singleton.1 h
    exact ⟨hne, fun c hc => .inl hc⟩
  | character kind maxLength => exact hwords _ h
  | exact kind precision scale => exact hwords _ h
  | timestamp precision timezone =>
    rcases List.mem_append.1 h with h | h
    · exact hwords _ h
    · cases timezone with
      | false => cases h
      | true =>
        have hzone : ∀ w ∈ zoneWords true, w ≠ [] ∧
            w.all (fun c => decide (c ∈ "withtimezone".toList)) = true := by decide
        obtain ⟨hword, hc⟩ := hzone word h
        exact ⟨hword, fun c hm => .inr (.inr (.inr ⟨rfl, forall_mem_of_all hc c hm⟩))⟩

/-! ## Canonical tags -/

/-- The tags of the known types and of the generic one. -/
def canonicalTags : List String :=
  ["base", "string", "char", "varchar", "text", "integer", "smallint", "bigint", "numeric",
    "decimal", "timestamp"]

/-- Types that phrases name: a type without a tag of its own. -/
def Canonical (type : DataType) : Prop := type.tag ∈ canonicalTags

instance (type : DataType) : Decidable type.Canonical :=
  inferInstanceAs (Decidable (type.tag ∈ canonicalTags))

theorem canonical_generic : Canonical generic := by decide

theorem Canonical.tag_ne {type : DataType} (h : type.Canonical) : type.tag ≠ "" := by
  have hne : ∀ tag ∈ canonicalTags, tag ≠ "" := by decide
  exact hne _ h

theorem canonical_of_ofKind {fields : Mapping} {kind : TypeKind} {type : DataType}
    (h : ofKind fields kind = .ok type) : type.Canonical := by
  rw [ofKind_eq_ok] at h
  cases kind with
  | plain kind =>
    subst h
    cases kind <;> decide
  | character kind =>
    obtain ⟨maxLength, -, rfl⟩ := h
    cases kind <;> simp [Canonical, canonicalTags, tag, CharacterKind.tag]
  | exact kind =>
    obtain ⟨precision, scale, -, -, -, rfl⟩ := h
    cases kind <;> simp [Canonical, canonicalTags, tag, ExactKind.tag]
  | timestamp =>
    obtain ⟨precision, timezone, -, -, rfl⟩ := h
    simp [Canonical, canonicalTags, tag]

/-- **Phrases introduce no tags.** -/
theorem canonical_of_parse {phrase : String} {type : DataType} (h : parse phrase = .ok type) :
    type.Canonical := by
  rcases resolve_cases h with rfl | ⟨tag, -, rfl⟩ | ⟨kind, hkind⟩
  · exact canonical_generic
  · exact canonical_generic
  · exact canonical_of_ofKind hkind

/-! ## Characters of a canonical phrase -/

theorem mem_display {type : DataType} (htag : type.tag ≠ "") {c : Char}
    (h : c ∈ type.display.toList) :
    c ∈ type.tag.toList ∨ c.isDigit = true ∨ c ∈ [' ', '(', ',', ')'] ∨
      type.timezone? = some true ∧ c ∈ "withtimezone".toList := by
  rw [display_eq] at h
  rcases mem_joinWords h with rfl | ⟨word, hw, hc⟩
  · exact .inr (.inr (.inl List.mem_cons_self))
  · obtain ⟨-, hchars⟩ := mem_displayWords htag hw
    have := hchars c hc
    exact this.imp_right (·.imp_right (·.imp_left (List.mem_cons_of_mem _)))

/-- A key with a letter of its own does not occur in a canonical phrase. -/
theorem not_infix_display {type : DataType} (htag : type.tag ≠ "") {key : List Char}
    (h : ∃ c ∈ key, c ∉ type.tag.toList ∧ c.isDigit = false ∧ c ∉ [' ', '(', ',', ')'] ∧
      (type.timezone? = some true → c ∉ "withtimezone".toList)) :
    ¬ key <:+: type.display.toList := by
  obtain ⟨c, hc, htagc, hdigit, hmark, hzone⟩ := h
  refine not_infix_of_notMem hc fun hm => ?_
  rcases mem_display htag hm with h | h | h | ⟨h, hz⟩
  · exact htagc h
  · simp [hdigit] at h
  · exact hmark h
  · exact hzone h hz

/-- The characters of a canonical phrase are small letters, digits and three marks. -/
theorem Canonical.mem_displayWords {type : DataType} (h : type.Canonical) {word : List Char}
    (hw : word ∈ type.displayWords) :
    word ≠ [] ∧ ∀ c ∈ word, 0x28 ≤ c.toNat ∧ c.toNat < 0x41 ∨ 0x61 ≤ c.toNat ∧ c.toNat ≤ 0x7A := by
  have hletters : ∀ tag ∈ "withtimezone" :: canonicalTags,
      tag.toList.all (fun c => decide (0x61 ≤ c.toNat ∧ c.toNat ≤ 0x7A)) = true := by decide
  have hmarks : ∀ c ∈ ['(', ',', ')'], 0x28 ≤ c.toNat ∧ c.toNat < 0x41 :=
    forall_mem_of_all (by decide)
  obtain ⟨hne, hchars⟩ := DataType.mem_displayWords h.tag_ne hw
  refine ⟨hne, fun c hc => ?_⟩
  rcases hchars c hc with hm | hm | hm | ⟨-, hm⟩
  · exact .inr (forall_mem_of_all (hletters _ (List.mem_cons_of_mem _ h)) c hm)
  · have hdigit : 0x30 ≤ c.toNat ∧ c.toNat ≤ 0x39 := Char.isDigit_iff_toNat.1 hm
    exact .inl (by omega)
  · exact .inl (hmarks c hm)
  · exact .inr (forall_mem_of_all (hletters _ List.mem_cons_self) c hm)

theorem Canonical.tidy_display {type : DataType} (h : type.Canonical) :
    Tidy type.display.toList := by
  rw [display_eq]
  refine .of_words (displayWords_ne_nil type) fun word hw => ?_
  obtain ⟨hne, hchars⟩ := h.mem_displayWords hw
  exact ⟨hne, fun c hc => isBlank_of_lt (by have := hchars c hc; omega)⟩

theorem Canonical.lowered_display {type : DataType} (h : type.Canonical) :
    Lowered type.display.toList := by
  have hquote : quote.toNat = 0x27 := by decide
  rw [display_eq]
  refine .joinWords fun word hw => .of_forall fun c hc => ?_
  have hchar := (h.mem_displayWords hw).2 c hc
  refine ⟨?_, lowerChar_of_lt (by omega)⟩
  rintro rfl
  omega

theorem Canonical.not_suffix_display {type : DataType} (h : type.Canonical) :
    ¬ "not".toList <:+ type.display.toList := by
  by_cases hz : type.timezone? = some true
  · obtain ⟨precision, rfl⟩ : ∃ precision, type = timestamp precision true := by
      cases type <;> simp_all [timezone?]
    have hdisplay : (timestamp precision true).display.toList =
        ("timestamp" ++ argumentsText (display.setOnes [precision]) ++ " with time").toList ++
          ' ' :: "zone".toList := by
      simp [display]
    rw [hdisplay, suffix_append_cons (by decide)]
    decide
  · have hfresh : ∀ tag ∈ canonicalTags, 'o' ∉ tag.toList := by decide
    refine fun hs => not_infix_display h.tag_ne ⟨'o', by decide, hfresh _ h, ?_⟩ hs.isInfix
    exact ⟨by decide, by decide, fun hzone => absurd hzone hz⟩

end SchemaPhrase.DataType
