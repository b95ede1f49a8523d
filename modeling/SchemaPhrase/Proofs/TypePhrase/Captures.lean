import SchemaPhrase.Proofs.Text.Pattern
import SchemaPhrase.Proofs.TypePhrase.Grammar

/-!
# The pattern of type phrases

`typePattern` says in one pattern what may be taken for a type phrase. Its parts capture what the
readers of the same parts give (`reads_digitsPattern` to `reads_arguments`): no run is ever cut
short, and the optional parts are taken if they are there. So the parts of a phrase are the captures
of the first match (`ofPhrase_eq_ofCaptures`), as they are what the phrase decomposes into
(`ofPhrase_grammar`).
-/

set_option autoImplicit false

namespace SchemaPhrase.TypePhrase

open Text

/-! ## Patterns -/

/-- At most one blank, and a mark. -/
def markPattern (mark : Char) : Pattern := .seq (.optional (.one isBlank)) (.literal [mark])

/-- At most one blank, and an argument. -/
def digitsPattern (name : String) : Pattern :=
  .seq (.optional (.one isBlank)) (.named name (.run isDecimal))

/-- What stands behind the first argument. -/
def behindFirstPattern : Pattern :=
  .seq (.optional (.seq (.literal [',']) (digitsPattern "second"))) (markPattern ')')

/-- A name, and arguments if they can be there:
`(?P<type>\w+)(?:\s?\(\s?(?P<first>\d+)(?:,\s?(?P<second>\d+))?\s?\))?`. -/
def typePattern : Pattern :=
  .seq (.named "type" (.run isWordChar))
    (.optional (.seq (markPattern '(') (.seq (digitsPattern "first") behindFirstPattern)))

/-- The parts of a phrase as a match captures them. -/
def ofCaptures (phrase : List Char) : Option Way → TypePhrase
  | none => ⟨String.ofList phrase, none, none, none⟩
  | some way =>
    ofParts (String.ofList ((way.capture? "type").getD []))
      ((way.capture? "first").map String.ofList) ((way.capture? "second").map String.ofList)

/-- The captures of the arguments. -/
def captured (first : List Char) (second : Option (List Char)) : List (String × List Char) :=
  ("first", first) :: (second.map ("second", ·)).toList

/-- The captures of a name and of what stands behind it. -/
def capturedBehind (name rest : List Char) : List (String × List Char) :=
  ("type", name) ::
    ((arguments? rest).map fun arguments => captured arguments.1 arguments.2).getD []

/-! ## What the parts capture -/

section
variable {β : Type} {next : List (String × List Char) → List Char → Option β} {text : List Char}

theorem reads_blank (h : ∀ c rest, isBlank c = true → next [] (c :: rest) = none) :
    (Pattern.optional (.one isBlank)).reads next text = next [] (dropBlank text) := by
  rw [Pattern.reads_optional_one h]
  cases text with
  | nil => rfl
  | cons c rest =>
    rw [dropBlank]
    rfl

theorem reads_literal_mark {mark : Char} :
    (Pattern.literal [mark]).reads next text =
      if text.head? = some mark then next [] text.tail else none := by
  have hfront : [mark].isPrefixOf text = true ↔ text.head? = some mark := by
    rw [List.isPrefixOf_iff_prefix, List.head?_eq_some_iff]
    exact exists_congr fun rest => eq_comm
  rw [Pattern.reads_literal]
  simp only [hfront, List.length_singleton, List.drop_one]

theorem reads_markPattern {mark : Char} (hmark : isBlank mark = false) :
    (markPattern mark).reads next text =
      if (dropBlank text).head? = some mark then next [] (dropBlank text).tail else none := by
  rw [markPattern, Pattern.reads_seq, reads_blank]
  · exact reads_literal_mark
  · intro c rest hblank
    rw [reads_literal_mark, if_neg]
    intro hc
    cases hc
    rw [hmark] at hblank
    cases hblank

theorem reads_closing :
    (markPattern ')').reads next text =
      if closes text then next [] (dropBlank text).tail else none := by
  rw [reads_markPattern (by decide), closes]
  simp

/-- A run of digits that is cut short is followed by a digit. -/
theorem reads_digitsPattern {name : String}
    (h : ∀ captures c rest, isDecimal c = true → next captures (c :: rest) = none) :
    (digitsPattern name).reads next text =
      (digits? (dropBlank text)).bind fun reading => next [(name, reading.1)] reading.2 := by
  have hrun : ∀ text, (Pattern.named name (.run isDecimal)).reads next text =
      (digits? text).bind fun reading => next [(name, reading.1)] reading.2 := by
    intro text
    rw [Pattern.reads_named_run fun _ => h, digits?]
    split <;> rfl
  rw [digitsPattern, Pattern.reads_seq, reads_blank]
  · exact hrun _
  · intro c rest hblank
    have hdigit : ¬ isDecimal c = true := by simp [(not_word_of_blank hblank).2]
    refine (hrun (c :: rest)).trans ?_
    rw [digits?, List.takeWhile_cons_of_neg hdigit]
    rfl

/-- **The second argument is taken if it is there.** No closing parenthesis can stand where its
comma does. -/
theorem reads_behindFirstPattern (f : List (String × List Char) → β) :
    behindFirstPattern.reads (fun captures _ => some (f captures)) text =
      match second? text with
      | some (second, rest) => if closes rest then some (f [("second", second)]) else none
      | none => if closes text then some (f []) else none := by
  rw [behindFirstPattern, Pattern.reads_seq, Pattern.reads_optional, Pattern.reads_seq,
    reads_literal_mark, reads_closing]
  by_cases hcomma : text.head? = some ','
  · obtain ⟨rest, rfl⟩ := List.head?_eq_some_iff.1 hcomma
    have hopen : closes (',' :: rest) = false := rfl
    rw [if_pos hcomma, List.tail_cons, reads_digitsPattern, second?, hopen]
    · cases digits? (dropBlank rest) with
      | none => rfl
      | some reading =>
        rw [Option.bind_some, reads_closing]
        exact Option.or_none
    · intro captures c rest hdigit
      rw [reads_closing, closes_of_isDecimal rest hdigit]
      rfl
  · rw [if_neg hcomma, second?_of_head? hcomma, Option.none_or]
    rfl

theorem reads_arguments (f : List (String × List Char) → β) :
    ((markPattern '(').seq ((digitsPattern "first").seq behindFirstPattern)).reads
        (fun captures _ => some (f captures)) text =
      (arguments? text).map fun arguments => f (captured arguments.1 arguments.2) := by
  rw [Pattern.reads_seq, reads_markPattern (by decide)]
  by_cases hopen : (dropBlank text).head? = some '('
  · obtain ⟨rest, hrest⟩ := List.head?_eq_some_iff.1 hopen
    rw [if_pos hopen, arguments?, hrest, List.tail_cons, Pattern.reads_seq, reads_digitsPattern]
    · simp only
      cases digits? (dropBlank rest) with
      | none => rfl
      | some reading =>
        simp only [Option.bind_some, reads_behindFirstPattern fun behind =>
          f ([] ++ ([("first", reading.1)] ++ behind))]
        cases second? reading.2 with
        | none => cases closes reading.2 <;> rfl
        | some second =>
          simp only
          cases closes second.2 <;> rfl
    · intro captures c rest hdigit
      have hcomma : (c :: rest).head? ≠ some ',' := by
        rintro ⟨⟩
        exact absurd hdigit (by decide)
      rw [reads_behindFirstPattern fun behind => f ([] ++ (captures ++ behind)),
        second?_of_head? hcomma, closes_of_isDecimal rest hdigit]
      rfl
  · rw [if_neg hopen, arguments?_of_head? hopen]
    rfl

end

/-! ## Phrases -/

/-- **The captures in front of a text**: those of its word, and of the arguments behind it. -/
theorem captures_match?_typePattern (text : List Char) :
    (typePattern.match? text).map Way.captures =
      if (text.takeWhile isWordChar).isEmpty then none
      else some (capturedBehind (text.takeWhile isWordChar) (text.dropWhile isWordChar)) := by
  rw [Pattern.captures_match?, typePattern, Pattern.reads_seq, Pattern.reads_named_run]
  · congr 1
    rw [Pattern.reads_optional, reads_arguments, capturedBehind]
    cases arguments? (text.dropWhile isWordChar) <;> rfl
  · intro h
    rw [Pattern.reads_optional, Option.or_eq_none_iff] at h
    exact nomatch h.2

theorem match?_eq_none_of_head? {text : List Char}
    (h : ∀ c, text.head? = some c → isWordChar c = false) : typePattern.match? text = none := by
  have hword : text.takeWhile isWordChar = [] :=
    takeWhile_append_of_stop (List.forall_mem_nil _) h
  have hcaptures := captures_match?_typePattern text
  rw [hword] at hcaptures
  simpa using hcaptures

theorem find?_of_wordless {text : List Char} (h : ∀ c ∈ text, isWordChar c = false) :
    typePattern.find? text = none := by
  induction text with
  | nil => exact match?_eq_none_of_head? fun _ hc => nomatch hc
  | cons c rest ih =>
    rw [Pattern.find?, match?_eq_none_of_head? fun d hd => h d (List.mem_of_head? hd),
      Option.none_or]
    exact ih fun d hd => h d (List.mem_cons_of_mem _ hd)

theorem FirstWord.captures_find? {text name rest : List Char} (h : FirstWord text name rest) :
    (typePattern.find? text).map Way.captures = some (capturedBehind name rest) := by
  obtain ⟨before, hbefore, rfl⟩ := h.first
  have htake := takeWhile_append_of_stop h.word h.stop
  have hdrop := dropWhile_append_of_stop h.word h.stop
  have hhere := captures_match?_typePattern (name ++ rest)
  rw [htake, hdrop, if_neg (by simpa using h.ne_nil)] at hhere
  obtain ⟨way, hway, hcaptures⟩ := Option.map_eq_some_iff.1 hhere
  have hfind : typePattern.find? (before ++ (name ++ rest)) = some way := by
    clear h
    induction before with
    | nil =>
      rw [List.nil_append]
      cases hcons : name ++ rest with
      | nil => rw [← hway, hcons]; rfl
      | cons c tail => rw [Pattern.find?, ← hcons, hway, Option.some_or]
    | cons c before ih =>
      have hc : ∀ d, (c :: (before ++ (name ++ rest))).head? = some d → isWordChar d = false := by
        rintro d ⟨⟩
        exact hbefore c List.mem_cons_self
      rw [List.cons_append, Pattern.find?, match?_eq_none_of_head? hc, Option.none_or]
      exact ih fun d hd => hbefore d (List.mem_cons_of_mem _ hd)
  rw [hfind, Option.map_some, hcaptures]

/-- **The parts are what the first match captures.** Blanks around the phrase are not looked at. -/
theorem ofPhrase_eq_ofCaptures (phrase : List Char) :
    ofPhrase phrase = ofCaptures phrase (typePattern.find? (trim phrase)) := by
  obtain ⟨front, back, hfront, hback, hphrase⟩ := eq_append_trim phrase
  by_cases hwordless : ∀ c ∈ trim phrase, isWordChar c = false
  · have hphrase : ∀ c ∈ phrase, isWordChar c = false := by
      intro c hc
      rw [hphrase, List.mem_append, List.mem_append] at hc
      rcases hc with hc | hc | hc
      · exact (not_word_of_blank (hfront c hc)).1
      · exact hwordless c hc
      · exact (not_word_of_blank (hback c hc)).1
    rw [ofPhrase_of_wordless hphrase, find?_of_wordless hwordless]
    rfl
  · obtain ⟨name, rest, hname⟩ := exists_firstWord hwordless
    have hwhole := hname.append_blanks hfront hback
    rw [← hphrase] at hwhole
    obtain ⟨way, hway, hcaptures⟩ := Option.map_eq_some_iff.1 hname.captures_find?
    rw [hwhole.ofPhrase_eq, arguments?_eq (Alike.of_append_blanks rest hback), hway]
    simp only [ofCaptures, Way.capture?, hcaptures, capturedBehind]
    cases arguments? rest with
    | none => rfl
    | some arguments =>
      obtain ⟨first, second⟩ := arguments
      cases second <;> rfl

/-- **The grammar of type phrases.** A phrase has the parts that it decomposes into, and no others.
They are what the preferred match captures, and what follows the arguments does not matter. -/
theorem ofPhrase_grammar (phrase : List Char) :
    (∀ parts, ofPhrase phrase = parts ↔ Decomposes phrase parts) ∧
      ofPhrase phrase = ofCaptures phrase (typePattern.find? (trim phrase)) ∧
      ∀ front after, EndsWithArguments front → phrase = front ++ after →
        ∀ other, ofPhrase (front ++ other) = ofPhrase phrase := by
  refine ⟨fun parts => ⟨?_, Decomposes.eq⟩, ofPhrase_eq_ofCaptures phrase, ?_⟩
  · rintro rfl
    exact decomposes_ofPhrase phrase
  · rintro front after hfront rfl other
    exact ofPhrase_append_of_arguments hfront other after

/-- Behind one argument neither a word nor another argument counts. -/
theorem ofPhrase_grammar_numeric :
    EndsWithArguments "numeric(19)".toList ∧
      ofPhrase "numeric(19), 2)".toList = ofPhrase "numeric(19) null".toList := by
  have harguments : Arguments "(19)".toList "19".toList none :=
    @Arguments.one [] [] [] ['1', '9'] gap_nil gap_nil
      ⟨by decide, forall_mem_of_all (by decide)⟩ gap_nil
  have hname : FirstWord "numeric(19)".toList "numeric".toList "(19)".toList := by
    refine ⟨⟨[], by simp, by decide⟩, by decide, forall_mem_of_all (by decide +kernel), ?_⟩
    rintro c ⟨⟩
    decide +kernel
  have hends : EndsWithArguments "numeric(19)".toList := ⟨_, _, _, _, hname, harguments⟩
  exact ⟨hends, (ofPhrase_grammar _).2.2 "numeric(19)".toList " null".toList hends (by decide)
    ", 2)".toList⟩

/-- The Han character `U+323B0` and the digit `U+11DE0` came with Unicode 17, so that neither is
part of a name or of an argument. -/
example : ofPhrase (Char.ofNat 0x323B0 :: " varchar(3)".toList) =
      ⟨"varchar", some "3", none, none⟩ ∧
    ofPhrase ("varchar(".toList ++ [Char.ofNat 0x11DE0, ')']) =
      ⟨"varchar", none, none, none⟩ := by
  decide +kernel

end SchemaPhrase.TypePhrase
