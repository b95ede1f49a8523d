import SchemaPhrase.Proofs.DataType.Spelling
import SchemaPhrase.Proofs.Text.Respaced

/-!
# The grammar of type phrases

What the parts of a type phrase are, said without a reader (`Decomposes`): the name is the first
maximal run of word characters (`FirstWord`), and the arguments count if they stand right behind it
as `Arguments` spells them. Every phrase decomposes into the parts that are read from it
(`decomposes_ofPhrase`) and into no others (`Decomposes.eq`).

Each reader is shown to be the grammar of what it reads, from `digits?_dropBlank_eq_some_iff` to
`arguments?_eq_some_iff`.
-/

set_option autoImplicit false

namespace SchemaPhrase.TypePhrase

open Text

/-! ## Grammar -/

/-- Arguments with their parentheses: one run of digits, or two with a comma between them. At most
one blank stands where the spacing is free. No digit follows a run, which is maximal therefore. -/
inductive Arguments : List Char → List Char → Option (List Char) → Prop
  | one {before inside behind first : List Char} (hbefore : Gap before) (hinside : Gap inside)
      (hfirst : IsArgument first) (hbehind : Gap behind) :
      Arguments (before ++ '(' :: (inside ++ (first ++ (behind ++ [')'])))) first none
  | two {before inside middle behind first second : List Char} (hbefore : Gap before)
      (hinside : Gap inside) (hfirst : IsArgument first) (hmiddle : Gap middle)
      (hsecond : IsArgument second) (hbehind : Gap behind) :
      Arguments (before ++ '(' :: (inside ++ (first ++ ',' :: (middle ++ (second ++ (behind ++
        [')'])))))) first (some second)

/-- Arguments stand in front of the text. -/
def ArgumentsAt (text first : List Char) (second : Option (List Char)) : Prop :=
  ∃ taken after, Arguments taken first second ∧ text = taken ++ after

/-- The first maximal run of word characters, and the text behind it. -/
structure FirstWord (phrase name rest : List Char) : Prop where
  first : ∃ before, (∀ c ∈ before, isWordChar c = false) ∧ phrase = before ++ (name ++ rest)
  ne_nil : name ≠ []
  word : ∀ c ∈ name, isWordChar c = true
  stop : ∀ c, rest.head? = some c → isWordChar c = false

/-- The text ends with the closing parenthesis of the arguments of its first word. -/
def EndsWithArguments (text : List Char) : Prop :=
  ∃ name taken first second, FirstWord text name taken ∧ Arguments taken first second

/-- **The parts of a phrase.** -/
inductive Decomposes (phrase : List Char) : TypePhrase → Prop
  /-- A phrase without any word is its own name. -/
  | wordless (h : ∀ c ∈ phrase, isWordChar c = false) :
      Decomposes phrase ⟨String.ofList phrase, none, none, none⟩
  | bare {name rest : List Char} (hname : FirstWord phrase name rest)
      (hnone : ∀ first second, ¬ ArgumentsAt rest first second) :
      Decomposes phrase ⟨String.ofList name, none, none, none⟩
  | exactNumeric {name rest first : List Char} {second : Option (List Char)}
      (hname : FirstWord phrase name rest) (harguments : ArgumentsAt rest first second)
      (hkind : String.ofList name = "numeric" ∨ String.ofList name = "decimal") :
      Decomposes phrase
        ⟨String.ofList name, none, some (String.ofList first), second.map String.ofList⟩
  | temporal {name rest first : List Char} {second : Option (List Char)}
      (hname : FirstWord phrase name rest) (harguments : ArgumentsAt rest first second)
      (hkind : String.ofList name = "timestamp" ∨ String.ofList name = "time") :
      Decomposes phrase ⟨String.ofList name, none, some (String.ofList first), none⟩
  | other {name rest first : List Char} {second : Option (List Char)}
      (hname : FirstWord phrase name rest) (harguments : ArgumentsAt rest first second)
      (hkind : String.ofList name ∉ ["numeric", "decimal", "timestamp", "time"]) :
      Decomposes phrase ⟨String.ofList name, some (String.ofList first), none, none⟩

/-! ## Readers -/

theorem dropBlank_eq_cons_iff {text rest : List Char} {mark : Char} (hmark : isBlank mark = false) :
    dropBlank text = mark :: rest ↔ ∃ gap, Gap gap ∧ text = gap ++ mark :: rest := by
  constructor
  · intro h
    unfold dropBlank at h
    split at h
    · cases h
    · next c behind =>
      split at h
      · next hblank => exact ⟨[c], gap_singleton hblank, congrArg (c :: ·) h⟩
      · exact ⟨[], gap_nil, h⟩
  · intro ⟨gap, hgap, htext⟩
    obtain rfl | ⟨c, hblank, rfl⟩ := hgap.cases
    · simp [htext, dropBlank, hmark]
    · simp [htext, dropBlank, hblank]

theorem closes_iff {text : List Char} :
    closes text = true ↔ ∃ gap after, Gap gap ∧ text = gap ++ ')' :: after := by
  have hmark : isBlank ')' = false := by decide
  rw [closes, beq_iff_eq, List.head?_eq_some_iff]
  constructor
  · intro ⟨after, h⟩
    obtain ⟨gap, hgap, htext⟩ := (dropBlank_eq_cons_iff hmark).1 h
    exact ⟨gap, after, hgap, htext⟩
  · intro ⟨gap, after, hgap, htext⟩
    exact ⟨after, (dropBlank_eq_cons_iff hmark).2 ⟨gap, hgap, htext⟩⟩

theorem not_blank_of_isDecimal {c : Char} (h : isDecimal c = true) : isBlank c = false := by
  rw [Bool.eq_false_iff]
  intro hblank
  rw [(not_word_of_blank hblank).2] at h
  cases h

/-- A text that closes begins with no digit. -/
theorem stop_of_closes {text : List Char} (h : closes text = true) :
    ∀ c, text.head? = some c → isDecimal c = false := by
  obtain ⟨gap, after, hgap, rfl⟩ := closes_iff.1 h
  obtain rfl | ⟨d, hblank, rfl⟩ := hgap.cases
  · rintro c ⟨⟩
    decide
  · rintro c ⟨⟩
    exact (not_word_of_blank hblank).2

theorem closes_of_isDecimal {c : Char} (rest : List Char) (h : isDecimal c = true) :
    closes (c :: rest) = false := by
  rw [Bool.eq_false_iff]
  intro hcloses
  rw [stop_of_closes hcloses c rfl] at h
  cases h

theorem isArgument_of_digits? {text digits rest : List Char}
    (h : digits? text = some (digits, rest)) : IsArgument digits := by
  unfold digits? at h
  split at h
  · cases h
  · next hne =>
    cases h
    exact ⟨by simpa using hne, List.all_eq_true.1 List.all_takeWhile⟩

theorem digits?_dropBlank_eq_some_iff {text digits rest : List Char} :
    digits? (dropBlank text) = some (digits, rest) ↔
      ∃ gap, Gap gap ∧ text = gap ++ (digits ++ rest) ∧ IsArgument digits ∧
        ∀ c, rest.head? = some c → isDecimal c = false := by
  constructor
  · intro h
    have hdigits := isArgument_of_digits? h
    unfold digits? at h
    split at h
    · cases h
    · cases h
      obtain ⟨c, behind, hcons⟩ := List.exists_cons_of_ne_nil hdigits.1
      have hdrop : dropBlank text = c :: (behind ++ (dropBlank text).dropWhile isDecimal) := by
        rw [← List.cons_append, ← hcons, List.takeWhile_append_dropWhile]
      have hc := not_blank_of_isDecimal (hdigits.2 c (hcons ▸ List.mem_cons_self))
      obtain ⟨gap, hgap, htext⟩ := (dropBlank_eq_cons_iff hc).1 hdrop
      rw [← List.cons_append, ← hcons] at htext
      exact ⟨gap, hgap, htext, hdigits, fun _ => head?_dropWhile_eq_false⟩
  · intro ⟨gap, hgap, htext, hdigits, hstop⟩
    have hdrop : dropBlank text = digits ++ rest := by
      obtain ⟨c, behind, rfl⟩ := List.exists_cons_of_ne_nil hdigits.1
      have hc := not_blank_of_isDecimal (hdigits.2 c List.mem_cons_self)
      exact (dropBlank_eq_cons_iff hc).2 ⟨gap, hgap, htext⟩
    rw [hdrop]
    exact digits?_append hdigits hstop

/-- **The second argument** stands behind a comma. -/
theorem second?_eq_some_iff {text second rest : List Char} :
    second? text = some (second, rest) ↔
      ∃ gap, Gap gap ∧ text = ',' :: (gap ++ (second ++ rest)) ∧ IsArgument second ∧
        ∀ c, rest.head? = some c → isDecimal c = false := by
  constructor
  · intro h
    unfold second? at h
    split at h
    · obtain ⟨gap, hgap, htext, hsecond⟩ := digits?_dropBlank_eq_some_iff.1 h
      exact ⟨gap, hgap, congrArg (',' :: ·) htext, hsecond⟩
    · cases h
  · intro ⟨gap, hgap, htext, hsecond⟩
    rw [htext]
    exact digits?_dropBlank_eq_some_iff.2 ⟨gap, hgap, rfl, hsecond⟩

theorem second?_of_closes {text : List Char} (h : closes text = true) : second? text = none := by
  refine second?_of_head? fun hcomma => ?_
  obtain ⟨gap, after, hgap, rfl⟩ := closes_iff.1 h
  obtain rfl | ⟨d, hblank, rfl⟩ := hgap.cases
  · cases hcomma
  · cases hcomma
    exact absurd hblank (by decide)

theorem argumentsAt_of_arguments? {text first : List Char} {second : Option (List Char)}
    (h : arguments? text = some (first, second)) : ArgumentsAt text first second := by
  have hopen : isBlank '(' = false := by decide
  unfold arguments? at h
  split at h
  · next inner hinner =>
    obtain ⟨before, hbefore, htext⟩ := (dropBlank_eq_cons_iff hopen).1 hinner
    split at h
    · cases h
    · next found behind hfound =>
      obtain ⟨inside, hinside, hinner', hfirst, -⟩ := digits?_dropBlank_eq_some_iff.1 hfound
      split at h
      · next found' behind' hfound' =>
        split at h
        · next hcloses =>
          cases h
          obtain ⟨middle, hmiddle, hbehind', hsecond, -⟩ := second?_eq_some_iff.1 hfound'
          obtain ⟨gap, after, hgap, hafter⟩ := closes_iff.1 hcloses
          refine ⟨_, after, .two hbefore hinside hfirst hmiddle hsecond hgap, ?_⟩
          simp [htext, hinner', hbehind', hafter]
        · cases h
      · split at h
        · next hcloses =>
          cases h
          obtain ⟨gap, after, hgap, hafter⟩ := closes_iff.1 hcloses
          refine ⟨_, after, .one hbefore hinside hfirst hgap, ?_⟩
          simp [htext, hinner', hafter]
        · cases h
  · cases h

theorem arguments?_of_argumentsAt {text first : List Char} {second : Option (List Char)}
    (h : ArgumentsAt text first second) : arguments? text = some (first, second) := by
  have hopen : isBlank '(' = false := by decide
  obtain ⟨taken, after, htaken, htext⟩ := h
  have hinner : ∀ {before : List Char} (inner : List Char), Gap before →
      dropBlank (before ++ '(' :: inner) = '(' :: inner := fun inner hbefore =>
    (dropBlank_eq_cons_iff hopen).2 ⟨_, hbefore, rfl⟩
  have hcloses : ∀ {behind : List Char}, Gap behind → closes (behind ++ ')' :: after) = true :=
    fun hbehind => closes_iff.2 ⟨_, after, hbehind, rfl⟩
  cases htaken with
  | one hbefore hinside hfirst hbehind =>
    have hdigits := digits?_dropBlank_eq_some_iff.2
      ⟨_, hinside, rfl, hfirst, stop_of_closes (hcloses hbehind)⟩
    simp [htext, arguments?, hinner, hbefore, hdigits, second?_of_closes, hcloses, hbehind]
  | two hbefore hinside hfirst hmiddle hsecond hbehind =>
    have hcomma := second?_eq_some_iff.2
      ⟨_, hmiddle, rfl, hsecond, stop_of_closes (hcloses hbehind)⟩
    have hdigits := fun behind => digits?_dropBlank_eq_some_iff.2
      ⟨_, hinside, rfl, hfirst, stop_of_separator (.inr rfl) behind⟩
    simp [htext, arguments?, hinner, hbefore, hdigits, hcomma, hcloses, hbehind]

/-- **The arguments in front of a text** are those that the grammar finds there. -/
theorem arguments?_eq_some_iff {text first : List Char} {second : Option (List Char)} :
    arguments? text = some (first, second) ↔ ArgumentsAt text first second :=
  ⟨argumentsAt_of_arguments?, arguments?_of_argumentsAt⟩

/-! ## Parts -/

theorem exists_firstWord {phrase : List Char} (h : ¬ ∀ c ∈ phrase, isWordChar c = false) :
    ∃ name rest, FirstWord phrase name rest := by
  have hstart : phrase.dropWhile (!isWordChar ·) ≠ [] := fun hnil =>
    h (by simpa using List.dropWhile_eq_nil_iff.1 hnil)
  obtain ⟨c, behind, hcons⟩ := List.exists_cons_of_ne_nil hstart
  have hhead : (phrase.dropWhile (!isWordChar ·)).head? = some c := by rw [hcons, List.head?_cons]
  have hc : isWordChar c = true := by simpa using head?_dropWhile_eq_false hhead
  refine ⟨(c :: behind).takeWhile isWordChar, (c :: behind).dropWhile isWordChar, ?_, ?_, ?_, ?_⟩
  · refine ⟨phrase.takeWhile (!isWordChar ·), fun d hd => ?_, ?_⟩
    · simpa using List.all_eq_true.1 List.all_takeWhile d hd
    · rw [List.takeWhile_append_dropWhile, ← hcons, List.takeWhile_append_dropWhile]
  · rw [List.takeWhile_cons_of_pos hc]
    exact List.cons_ne_nil _ _
  · exact List.all_eq_true.1 List.all_takeWhile
  · exact fun _ => head?_dropWhile_eq_false

namespace FirstWord

variable {phrase name rest : List Char} (h : FirstWord phrase name rest)
include h

/-- What stands in front of the first word does not matter. -/
theorem ofPhrase_eq :
    ofPhrase phrase =
      match arguments? rest with
      | none => ofParts (String.ofList name) none none
      | some (first, second) =>
        ofParts (String.ofList name) (some (String.ofList first)) (second.map String.ofList) := by
  obtain ⟨before, hbefore, rfl⟩ := h.first
  have hfront : ∀ c ∈ before, (!isWordChar c) = true := by simpa using hbefore
  refine Eq.trans ?_ (ofPhrase_append h.ne_nil h.word h.stop)
  obtain ⟨c, tail, rfl⟩ := List.exists_cons_of_ne_nil h.ne_nil
  have hkeep : (c :: (tail ++ rest)).dropWhile (!isWordChar ·) = c :: (tail ++ rest) := by
    simp [h.word c List.mem_cons_self]
  have hstart : (before ++ c :: (tail ++ rest)).dropWhile (!isWordChar ·) =
      c :: (tail ++ rest) := by
    rw [List.dropWhile_append_of_pos hfront, hkeep]
  simp only [ofPhrase, List.cons_append, hstart, hkeep, List.isEmpty_cons]
  rfl

/-- Behind a name that ends within the text, the text may go on. -/
theorem append (hrest : rest ≠ []) (more : List Char) :
    FirstWord (phrase ++ more) name (rest ++ more) := by
  obtain ⟨before, hbefore, rfl⟩ := h.first
  refine ⟨⟨before, hbefore, by simp⟩, h.ne_nil, h.word, fun c hc => h.stop c ?_⟩
  rwa [List.head?_append_of_ne_nil _ hrest] at hc

/-- The name and the text behind it, also with blanks around the phrase. -/
theorem append_blanks {front back : List Char} (hfront : Blanks front) (hback : Blanks back) :
    FirstWord (front ++ (phrase ++ back)) name (rest ++ back) := by
  have hno : ∀ {blanks : List Char}, Blanks blanks → ∀ c ∈ blanks, isWordChar c = false :=
    fun hblanks c hc => (not_word_of_blank (hblanks c hc)).1
  refine ⟨?_, h.ne_nil, h.word, fun c hc => ?_⟩
  · obtain ⟨before, hbefore, rfl⟩ := h.first
    refine ⟨front ++ before, fun c hc => ?_, by simp⟩
    exact (List.mem_append.1 hc).elim (hno hfront c) (hbefore c)
  · rw [List.head?_append, Option.or_eq_some_iff] at hc
    obtain hc | ⟨-, hc⟩ := hc
    · exact h.stop c hc
    · exact hno hback c (List.mem_of_head? hc)

end FirstWord

theorem ofParts_none (name : String) : ofParts name none none = ⟨name, none, none, none⟩ := by
  unfold ofParts
  split
  · rfl
  · split <;> rfl

theorem decomposes_ofPhrase (phrase : List Char) : Decomposes phrase (ofPhrase phrase) := by
  by_cases hwordless : ∀ c ∈ phrase, isWordChar c = false
  · rw [ofPhrase_of_wordless hwordless]
    exact .wordless hwordless
  · obtain ⟨name, rest, hname⟩ := exists_firstWord hwordless
    rw [hname.ofPhrase_eq]
    cases harguments : arguments? rest with
    | none =>
      simp only [ofParts_none]
      refine .bare hname fun first second h => ?_
      rw [← arguments?_eq_some_iff, harguments] at h
      cases h
    | some arguments =>
      obtain ⟨first, second⟩ := arguments
      have hat := arguments?_eq_some_iff.1 harguments
      simp only [ofParts]
      split
      · next hexact =>
        exact .exactNumeric hname hat (by simpa [isExactNumeric] using hexact)
      · next hexact =>
        split
        · next htemporal =>
          exact .temporal hname hat (by simpa [isTemporal] using htemporal)
        · next htemporal =>
          refine .other hname hat ?_
          simp only [isExactNumeric, isTemporal, Bool.or_eq_true, beq_iff_eq, not_or]
            at hexact htemporal
          simp [hexact, htemporal]

/-- A phrase decomposes in one way only. -/
theorem Decomposes.eq {phrase : List Char} {parts : TypePhrase} (h : Decomposes phrase parts) :
    ofPhrase phrase = parts := by
  cases h with
  | wordless h => exact ofPhrase_of_wordless h
  | @bare name rest hname hnone =>
    have hnone : arguments? rest = none := by
      rw [Option.eq_none_iff_forall_not_mem]
      exact fun arguments h => hnone _ _ (arguments?_eq_some_iff.1 h)
    rw [hname.ofPhrase_eq, hnone]
    exact ofParts_none _
  | exactNumeric hname harguments hkind =>
    rw [hname.ofPhrase_eq, arguments?_eq_some_iff.2 harguments]
    rcases hkind with hkind | hkind <;> simp [ofParts, hkind, isExactNumeric]
  | temporal hname harguments hkind =>
    rw [hname.ofPhrase_eq, arguments?_eq_some_iff.2 harguments]
    rcases hkind with hkind | hkind <;> simp [ofParts, hkind, isExactNumeric, isTemporal]
  | other hname harguments hkind =>
    rw [hname.ofPhrase_eq, arguments?_eq_some_iff.2 harguments]
    simp only [List.mem_cons, List.not_mem_nil, or_false, not_or] at hkind
    simp [ofParts, hkind, isExactNumeric, isTemporal]

/-- What follows the arguments does not matter. -/
theorem ofPhrase_append_of_arguments {front : List Char} (h : EndsWithArguments front)
    (after other : List Char) : ofPhrase (front ++ after) = ofPhrase (front ++ other) := by
  obtain ⟨name, taken, first, second, hname, harguments⟩ := h
  have hne : taken ≠ [] := by cases harguments <;> simp
  have hread : ∀ more, arguments? (taken ++ more) = some (first, second) := fun more =>
    arguments?_eq_some_iff.2 ⟨taken, more, harguments, rfl⟩
  rw [(hname.append hne after).ofPhrase_eq, (hname.append hne other).ofPhrase_eq, hread, hread]

end SchemaPhrase.TypePhrase
