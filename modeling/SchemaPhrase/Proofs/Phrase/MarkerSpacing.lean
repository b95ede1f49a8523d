import SchemaPhrase.Proofs.Phrase.Letters
import SchemaPhrase.Proofs.Text.Respaced

/-!
# White space between the words of a marker

The search for the nullability marker comes before the phrase is collapsed, so it finds `not null`
only where a single space stands between the two words. With any other blanks there, `null` is
taken for a marker of its own and `not` is left behind. So a phrase is read like its collapse
exactly if it writes every `not null` with a single space (`readAlike_collapseWhitespace_iff`).

A phrase and its collapse stay respaced through lower case, and their marks stand against each other
(`Aligned SpellsNotNull`). Where all of them are plain, both lose the same ones
(`splitNullability_congr`). Otherwise an `o` more is left of the phrase
(`plainlyMarked_of_count_le`), and no later pass makes up for it (`count_eq_of_takeApart?`).
-/

set_option autoImplicit false

namespace SchemaPhrase.Phrase

open Text

/-- `not null`, with any blanks between the two words. -/
def SpellsNotNull (mark : List Char) : Prop :=
  ∃ gap, gap ≠ [] ∧ Blanks gap ∧ mark = "not".toList ++ (gap ++ "null".toList)

/-- Every `not null` in the text is written with a single space. -/
def PlainlyMarked (text : List Char) : Prop :=
  SpelledAs SpellsNotNull "not null".toList text

/-- The check clause of the phrase is malformed, and the phrase is given back as it is. -/
def Malformed (phrase : String) : Prop :=
  (parsePhrase phrase).result = .error (.malformedCheckClause phrase)

/-- The two phrases are parsed into the same parts, or the check clause of each is malformed. -/
def ReadAlike (phrase other : String) : Prop :=
  (∃ parsed, (parsePhrase phrase).result = .ok parsed ∧ (parsePhrase other).result = .ok parsed) ∨
    Malformed phrase ∧ Malformed other

/-! ## Marks -/

theorem spellsNotNull_plain : SpellsNotNull "not null".toList :=
  ⟨[' '], by simp, by simp [Blanks], by decide⟩

theorem keySpellings_notNull : KeySpellings SpellsNotNull where
  head := by
    rintro _ ⟨gap, -, -, rfl⟩
    exact ⟨'n', "ot".toList ++ (gap ++ "null".toList), rfl, by decide⟩
  respaced := by
    rintro _ text other ⟨gap, hne, hgap, rfl⟩ h
    have hsolid : ∀ c ∈ "not".toList ++ "ull".toList, isBlank c = false :=
      forall_mem_of_all (by decide)
    obtain ⟨hnot, hull⟩ := List.forall_mem_append.1 hsolid
    rw [List.append_assoc, List.append_assoc] at h
    obtain ⟨behind, rfl, hbehind⟩ := h.of_append hnot
    have hnull : Respaced (gap ++ 'n' :: ("ull".toList ++ text)) behind := hbehind
    obtain ⟨gap', behind, rfl, hne', hgap', hend⟩ := hnull.of_gap hne hgap (by decide)
    obtain ⟨rest, rfl, hrest⟩ := hend.of_append hull
    exact ⟨_, rest, ⟨gap', hne', hgap', rfl⟩, by simp, hrest⟩

theorem SpellsNotNull.infix_gap {mark : List Char} (h : SpellsNotNull mark) :
    ∃ gap, gap ≠ [] ∧ Blanks gap ∧ gap <:+: mark ∧ (gap = [' '] → mark = "not null".toList) := by
  obtain ⟨gap, hne, hgap, rfl⟩ := h
  refine ⟨gap, hne, hgap, ⟨"not".toList, "null".toList, by simp⟩, ?_⟩
  rintro rfl
  decide

theorem SpellsNotNull.eq_cons {mark : List Char} (h : SpellsNotNull mark) :
    ∃ tail, mark = 'n' :: 'o' :: 't' :: tail := by
  obtain ⟨gap, -, -, rfl⟩ := h
  exact ⟨gap ++ "null".toList, rfl⟩

theorem SpellsNotNull.eq_of_prefix {mark other text : List Char} (h : SpellsNotNull mark)
    (ho : SpellsNotNull other) (hp : mark <+: text) (hop : other <+: text) : mark = other := by
  obtain ⟨gap, -, hgap, rfl⟩ := h
  obtain ⟨gap', -, hgap', rfl⟩ := ho
  obtain ⟨behind, rfl⟩ := hp
  obtain ⟨behind', hwhole⟩ := hop
  simp only [List.append_assoc, List.append_cancel_left_eq] at hwhole
  have hn : isBlank 'n' = false := by decide
  have hgaps : gap ++ ("null".toList ++ behind) = gap' ++ 'n' :: ("ull".toList ++ behind') :=
    hwhole.symm
  obtain ⟨more, rfl, hmore⟩ := hgap.eq_append hn hgaps
  cases more with
  | nil => rw [List.append_nil]
  | cons b more =>
    obtain ⟨rfl, -⟩ : 'n' = b ∧ _ := List.cons_eq_cons.1 hmore
    exact absurd (List.mem_append_right gap List.mem_cons_self) (hgap'.notMem hn)

theorem notNull_eq : "not null".toList = ['n', 'o', 't', ' ', 'n', 'u', 'l', 'l'] := by decide

theorem plainlyMarked_append {rest : List Char} (h : PlainlyMarked rest) :
    PlainlyMarked ("not null".toList ++ rest) := by
  intro mark hmark hi
  by_cases hfront : mark <+: "not null".toList ++ rest
  · exact hmark.eq_of_prefix spellsNotNull_plain hfront (List.prefix_append _ _)
  · obtain ⟨tail, hmark'⟩ := hmark.eq_cons
    refine h mark hmark ?_
    rw [hmark', notNull_eq] at hi hfront
    simp only [List.cons_append, List.nil_append, List.infix_cons_iff, List.cons_prefix_cons,
      true_and, Char.reduceEq, false_and, and_false, false_or] at hi hfront
    exact hmark' ▸ hi.resolve_left hfront

/-- Lower case and a collapse leave every marker with a single space. -/
theorem plainlyMarked_collapse (text : List Char) :
    PlainlyMarked (lowercaseUnquoted (collapse text)) := by
  intro mark hmark hinfix
  obtain ⟨gap, hne, hgap, hin, hplain⟩ := hmark.infix_gap
  have hfold : foldCase gap <:+: foldCase (collapse text) := by
    obtain ⟨front, back, hwhole⟩ := hin.trans hinfix
    refine ⟨foldCase front, foldCase back, ?_⟩
    rw [← foldCase_append, ← foldCase_append, hwhole, foldCase_lowercaseUnquoted]
  rw [foldCase_of_blank hgap, ← collapse_foldCase] at hfold
  exact hplain (eq_space_of_infix_collapse hne hgap hfold)

/-! ## Taking out the plain marks -/

theorem replaceAll_cons_of_ne {c : Char} (rest : List Char) (h : c ≠ 'n') :
    replaceAll "not null".toList [] (c :: rest) = c :: replaceAll "not null".toList [] rest :=
  replaceAll_cons [] fun hp => h (List.cons_prefix_cons.1 hp).1.symm

theorem replaceAll_null_append (rest : List Char) :
    replaceAll "not null".toList [] ("null".toList ++ rest) =
      "null".toList ++ replaceAll "not null".toList [] rest := by
  have hnull : "null".toList = ['n', 'u', 'l', 'l'] := by decide
  have hfront : ¬ "not null".toList <+: 'n' :: 'u' :: 'l' :: 'l' :: rest := fun hp => by
    simp [notNull_eq] at hp
  rw [hnull]
  simp only [List.cons_append, List.nil_append]
  rw [replaceAll_cons [] hfront, replaceAll_cons_of_ne _ (by decide),
    replaceAll_cons_of_ne _ (by decide), replaceAll_cons_of_ne _ (by decide)]

/-- A mark that is not plain stays. -/
theorem replaceAll_of_spellsNotNull {mark : List Char} (rest : List Char) (h : SpellsNotNull mark)
    (hne : mark ≠ "not null".toList) :
    replaceAll "not null".toList [] (mark ++ rest) =
      mark ++ replaceAll "not null".toList [] rest := by
  have hfront : ¬ "not null".toList <+: mark ++ rest := fun hp =>
    hne (h.eq_of_prefix spellsNotNull_plain (List.prefix_append _ _) hp)
  have hnot : "not".toList = ['n', 'o', 't'] := by decide
  obtain ⟨gap, -, hgap, rfl⟩ := h
  rw [hnot] at hfront ⊢
  simp only [List.cons_append, List.append_assoc, List.nil_append] at hfront ⊢
  rw [replaceAll_cons [] hfront, replaceAll_cons_of_ne _ (by decide),
    replaceAll_cons_of_ne _ (by decide),
    keySpellings_notNull.replaceAll_blanks_append [] _ spellsNotNull_plain hgap,
    replaceAll_null_append]

theorem SpellsNotNull.count_eq {mark : List Char} (h : SpellsNotNull mark) :
    mark.count 'o' = 1 := by
  have hsolid : isBlank 'o' = false := by decide
  have hnot : "not".toList.count 'o' = 1 := by decide
  have hnull : "null".toList.count 'o' = 0 := by decide
  obtain ⟨gap, -, hgap, rfl⟩ := h
  rw [List.count_append, List.count_append, hnot, hnull,
    hgap.count_eq_zero hsolid]

/-- **A mark that is not plain is seen in what is left**: a letter more than where the same mark is
plain. -/
theorem plainlyMarked_of_count_le {text other : List Char}
    (h : Aligned SpellsNotNull text other) (ho : PlainlyMarked other) :
    (replaceAll "not null".toList [] other).count 'o' ≤
        (replaceAll "not null".toList [] text).count 'o' ∧
      ((replaceAll "not null".toList [] text).count 'o' ≤
        (replaceAll "not null".toList [] other).count 'o' → PlainlyMarked text) := by
  have hS := keySpellings_notNull
  have hnone : ∀ {run : List Char}, Blanks run → run.count 'o' = 0 := fun hr =>
    hr.count_eq_zero (by decide)
  induction h with
  | ends hr hr' =>
    rw [hS.replaceAll_blanks [] spellsNotNull_plain hr,
      hS.replaceAll_blanks [] spellsNotNull_plain hr', hnone hr, hnone hr']
    exact ⟨Nat.le_refl 0, fun _ => hS.spelledAs_blanks _ hr⟩
  | cons hc hfree hfree' _ ih =>
    have ih := ih (ho.of_suffix (List.suffix_cons _ _))
    rw [replaceAll_cons [] (hfree _ spellsNotNull_plain),
      replaceAll_cons [] (hfree' _ spellsNotNull_plain), List.count_cons, List.count_cons]
    exact ⟨by omega, fun hle => (ih.2 (by omega)).cons hfree⟩
  | @gap run run' text other _ hr _ hr' _ ih =>
    have ih := ih ho.of_append
    rw [hS.replaceAll_blanks_append [] _ spellsNotNull_plain hr,
      hS.replaceAll_blanks_append [] _ spellsNotNull_plain hr', List.count_append,
      List.count_append, hnone hr, hnone hr']
    exact ⟨by omega, fun hle => (ih.2 (by omega)).blanks_append hS hr⟩
  | @key mark mark' text other hmark hmark' _ ih =>
    have ih := ih ho.of_append
    obtain rfl := ho mark' hmark' (List.prefix_append _ _).isInfix
    rw [replaceAll_append [] other (by decide), List.nil_append]
    by_cases hplain : mark = "not null".toList
    · rw [hplain, replaceAll_append [] text (by decide), List.nil_append]
      exact ⟨ih.1, fun hle => plainlyMarked_append (ih.2 hle)⟩
    · rw [replaceAll_of_spellsNotNull text hmark hplain, List.count_append, hmark.count_eq]
      exact ⟨by omega, fun hle => absurd ih.1 (by omega)⟩

theorem plainlyMarked_of_sameWords {text other : List Char} (h : SameWords text other)
    (ho : PlainlyMarked other)
    (hle : (replaceAll "not null".toList [] text).count 'o' ≤
      (replaceAll "not null".toList [] other).count 'o') : PlainlyMarked text := by
  have hS := keySpellings_notNull
  obtain @⟨run, run', text, other, hr, hr', h⟩ := h
  obtain ⟨-, hmarked⟩ := plainlyMarked_of_count_le (h.aligned hS) ho.of_append
  rw [hS.replaceAll_blanks_append [] _ spellsNotNull_plain hr,
    hS.replaceAll_blanks_append [] _ spellsNotNull_plain hr', List.count_append,
    List.count_append, hr.count_eq_zero (by decide), hr'.count_eq_zero (by decide)] at hle
  exact (hmarked (by omega)).blanks_append hS hr

/-! ## The whole phrase -/

/-- **The marker is split off alike** where all spellings of it are plain. -/
theorem splitNullability_congr {phrase other : List Char}
    (h : SameWords (lowercaseUnquoted phrase) (lowercaseUnquoted other))
    (hphrase : PlainlyMarked (lowercaseUnquoted phrase))
    (hother : PlainlyMarked (lowercaseUnquoted other)) :
    splitNullability phrase = splitNullability other := by
  have hnull : KeySpellings (· = "null".toList) :=
    keySpellings_eq (by decide) (forall_mem_of_all (by decide))
  have hmarks := h.occurs_eq keySpellings_notNull spellsNotNull_plain hphrase hother
  have hrest := h.replaceAll keySpellings_notNull spellsNotNull_plain (List.forall_mem_nil _)
    hphrase hother
  have hnulls := hrest.occurs_eq hnull rfl (spelledAs_eq _ _) (spelledAs_eq _ _)
  have hends := hrest.replaceAll hnull rfl (List.forall_mem_nil _) (spelledAs_eq _ _)
    (spelledAs_eq _ _)
  rw [splitNullability_eq, splitNullability_eq, hends.collapse_eq, hnulls, hmarks]

theorem takeApart?_congr {phrase other : List Char}
    (h : splitNullability phrase = splitNullability other) :
    takeApart? phrase = takeApart? other := by
  simp only [takeApart?, takeModifiers, h]

theorem malformed_iff {phrase : String} : Malformed phrase ↔ takeApart? phrase.toList = none := by
  rw [Malformed, result_parsePhrase_eq_error, and_iff_left rfl]

theorem readAlike_of_takeApart?_eq {phrase other : String}
    (h : takeApart? phrase.toList = takeApart? other.toList) : ReadAlike phrase other := by
  simp only [ReadAlike, result_parsePhrase_eq_ok, malformed_iff, ← h, and_self]
  cases takeApart? phrase.toList with
  | none => exact .inr rfl
  | some parsed => exact .inl ⟨parsed, rfl⟩

/-- **A phrase is read like its collapse exactly if it writes every `not null` with a single
space**, unless neither of the two can be read. -/
theorem readAlike_collapseWhitespace_iff (phrase : String) :
    ReadAlike phrase (collapseWhitespace phrase) ↔
      PlainlyMarked (lowercaseUnquoted phrase.toList) ∨
        Malformed phrase ∧ Malformed (collapseWhitespace phrase) := by
  have hwords : SameWords (lowercaseUnquoted phrase.toList)
      (lowercaseUnquoted (collapse phrase.toList)) :=
    (sameWords_collapse phrase.toList).lowercaseUnquoted
  have hplain := plainlyMarked_collapse phrase.toList
  have hcollapse : (collapseWhitespace phrase).toList = collapse phrase.toList :=
    String.toList_ofList
  refine ⟨Or.imp_left ?_, fun h => h.elim (fun hmarked => ?_) .inr⟩
  · rintro ⟨parsed, h, ho⟩
    rw [result_parsePhrase_eq_ok] at h ho
    rw [hcollapse] at ho
    -- letters that no marker has are left in both, so that an `o` more would be recorded
    have hkept : ∀ c, isBlank c = false → c ∉ "not null".toList →
        (splitNullability phrase.toList).1.count c =
          (splitNullability (collapse phrase.toList)).1.count c := fun c hc hkey => by
      rw [count_splitNullability hc hkey, count_splitNullability hc hkey, hwords.count_eq hc]
    have hletter := count_eq_of_takeApart? h ho (hkept 'h' (by decide) (by decide))
      (hkept 'x' (by decide) (by decide))
    rw [count_splitNullability_marks, count_splitNullability_marks] at hletter
    exact plainlyMarked_of_sameWords hwords hplain (Nat.le_of_eq hletter)
  · refine readAlike_of_takeApart?_eq ?_
    rw [hcollapse]
    exact takeApart?_congr (splitNullability_congr hwords hmarked hplain)

/-- `primary key` may be spaced at will, because the phrase is collapsed before the search. -/
example : (parsePhrase "integer\n primary \t key").result =
    (parsePhrase "integer primary key").result := by decide +kernel

/-- **A tab between the two words**: the column is nullable, and `not` stays with its type. -/
theorem not_readAlike_tab :
    (parsePhrase "integer not\tnull").result = .ok
        { dtype := "integer not", nullability := .null, nullable := true, unique := false,
          pk := false, default := none, check := none } ∧
      (parsePhrase (collapseWhitespace "integer not\tnull")).result = .ok
        { dtype := "integer", nullability := .notNull, nullable := false, unique := false,
          pk := false, default := none, check := none } ∧
      ¬ ReadAlike "integer not\tnull" (collapseWhitespace "integer not\tnull") := by
  have hphrase : (parsePhrase "integer not\tnull").result = .ok
      { dtype := "integer not", nullability := .null, nullable := true, unique := false,
        pk := false, default := none, check := none } := by decide +kernel
  have hcollapse : (parsePhrase (collapseWhitespace "integer not\tnull")).result = .ok
      { dtype := "integer", nullability := .notNull, nullable := false, unique := false,
        pk := false, default := none, check := none } := by decide +kernel
  refine ⟨hphrase, hcollapse, ?_⟩
  simp only [ReadAlike, Malformed, hphrase, hcollapse]
  rintro (⟨parsed, h, ho⟩ | ⟨h, -⟩)
  · cases h
    simp at ho
  · cases h

end SchemaPhrase.Phrase
