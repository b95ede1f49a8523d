import SchemaPhrase.Proofs.Phrase.Pieces

/-!
# The passes on any text

Each pass for a single keyword searches the whole text for it. `takeModifiers_of_untouched`: on a
text without the keywords the passes only collapse what they have put in lower case.
`Untouched.of_count`: whether the keywords are there can be told from what the passes leave.
`unique` and `primary key` are reported, and a nullability marker or `serial` takes letters with it
that nothing puts back (`exists_count_extractKeyword`, `splitNullability_eq`).

The other two passes need only that `check` and `default` stand in one piece of the text:
`findCheck?_joinWords` and `takeCheck?_joinWords` find the clause there and take it out, and
`takeDefault_of_fresh` cuts the text there.
-/

set_option autoImplicit false

namespace SchemaPhrase.Phrase

open Text

/-! ## Single keywords -/

theorem not_infix_of_found {key new phrase : List Char} (hk : key ≠ [])
    (h : (extractKeyword key new phrase).found = false) : ¬ key <:+: phrase := by
  intro hi
  rw [extractKeyword_present new hk (occurs_iff.2 hi)] at h
  cases h

/-- A pass loses the characters of its keyword and puts those of the replacement there. -/
theorem exists_count_extractKeyword (key new phrase : List Char) :
    ∃ times, ∀ c, isBlank c = false → phrase.count c + times * new.count c =
      (extractKeyword key new phrase).rest.count c + times * key.count c := by
  unfold extractKeyword
  split
  · exact ⟨0, fun c _ => by simp⟩
  · next hpresent =>
    have hne : key ≠ [] := by
      rintro rfl
      simp at hpresent
    obtain ⟨times, -, htimes⟩ := exists_count_replaceAll new phrase hne
    refine ⟨times, fun c hc => ?_⟩
    rw [count_collapse hc, htimes]

section
variable {key new : List Char} {c : Char} (hc : isBlank c = false) (hnew : c ∉ new)
  (phrase : List Char)
include hc hnew

theorem count_extractKeyword_le : (extractKeyword key new phrase).rest.count c ≤ phrase.count c := by
  obtain ⟨times, htimes⟩ := exists_count_extractKeyword key new phrase
  have hcount := htimes c hc
  rw [List.count_eq_zero_of_not_mem hnew] at hcount
  omega

theorem count_extractKeyword_of_notMem (hkey : c ∉ key) :
    (extractKeyword key new phrase).rest.count c = phrase.count c := by
  obtain ⟨times, htimes⟩ := exists_count_extractKeyword key new phrase
  have hcount := htimes c hc
  rw [List.count_eq_zero_of_not_mem hnew, List.count_eq_zero_of_not_mem hkey] at hcount
  omega

theorem count_extractKeyword_lt (hkey : c ∈ key) (h : key <:+: phrase) :
    (extractKeyword key new phrase).rest.count c < phrase.count c := by
  have hk := List.ne_nil_of_mem hkey
  rw [extractKeyword_present new hk (occurs_iff.2 h), count_collapse hc]
  exact count_replaceAll_lt hk hnew hkey h

end

theorem take_fst (marker : Nullability) (state : List Char × Nullability) :
    (marker.take state).1 = replaceAll marker.text.toList [] state.1 := by
  unfold Nullability.take
  split
  · rfl
  · next habsent =>
    have hsame := replaceAll_of_not_infix [] (mt occurs_iff.2 habsent)
    exact hsame.symm

theorem take_snd (marker : Nullability) (state : List Char × Nullability) :
    (marker.take state).2 = if occurs marker.text.toList state.1 then marker else state.2 := by
  unfold Nullability.take
  split <;> rfl

theorem splitNullability_eq (phrase : List Char) :
    splitNullability phrase =
      (collapse (replaceAll "null".toList []
          (replaceAll "not null".toList [] (lowercaseUnquoted phrase))),
        if occurs "null".toList (replaceAll "not null".toList [] (lowercaseUnquoted phrase)) then
          .null
        else if occurs "not null".toList (lowercaseUnquoted phrase) then .notNull else .null) := by
  simp only [splitNullability, take_fst, take_snd]
  rfl

theorem splitNullability_of_unmarked {text : List Char}
    (h : ¬ "null".toList <:+: lowercaseUnquoted text) :
    splitNullability text = (collapse (lowercaseUnquoted text), .null) := by
  have hnull : "null".toList <:+: "not null".toList := (List.suffix_append "not ".toList _).isInfix
  have habsent : ¬ "not null".toList <:+: lowercaseUnquoted text := fun hi => h (hnull.trans hi)
  rw [splitNullability_eq, replaceAll_of_not_infix [] habsent, replaceAll_of_not_infix [] h,
    if_neg (mt occurs_iff.1 h), if_neg (mt occurs_iff.1 habsent)]

theorem count_splitNullability_lt {text : List Char} (hl : Lowered text)
    (h : "null".toList <:+: text) : (splitNullability text).1.count 'l' < text.count 'l' := by
  have hle := count_replaceAll_le (by decide : "null".toList ≠ []) (List.not_mem_nil (a := 'l'))
    (replaceAll "not null".toList [] text)
  rw [splitNullability_eq, hl.fixed, count_collapse (by decide)]
  by_cases hnot : "not null".toList <:+: text
  · have hlt := count_replaceAll_lt (by decide) (List.not_mem_nil (a := 'l')) (by decide) hnot
    omega
  · have hsame := replaceAll_of_not_infix [] hnot
    rw [hsame]
    exact count_replaceAll_lt (by decide) List.not_mem_nil (by decide) h

/-- A text in which the passes for single keywords find nothing. -/
structure Untouched (text : List Char) : Prop where
  null : ¬ "null".toList <:+: text
  unique : ¬ "unique".toList <:+: collapse text
  primaryKey : ¬ "primary key".toList <:+: collapse text
  serial : ¬ "serial".toList <:+: collapse text

/-- The keywords of these passes. -/
def plainKeywords : List (List Char) :=
  ["null".toList, "unique".toList, "primary key".toList, "serial".toList]

theorem untouched_iff {text : List Char} (h : collapse text = text) :
    Untouched text ↔ ∀ key ∈ plainKeywords, ¬ key <:+: text := by
  simp only [plainKeywords, List.forall_mem_cons]
  constructor
  · rintro ⟨hnull, hunique, hpk, hserial⟩
    rw [h] at hunique hpk hserial
    exact ⟨hnull, hunique, hpk, hserial, List.forall_mem_nil _⟩
  · rintro ⟨hnull, hunique, hpk, hserial, -⟩
    exact ⟨hnull, h.symm ▸ hunique, h.symm ▸ hpk, h.symm ▸ hserial⟩

/-- **Without their keywords** the passes do nothing but collapse the text in lower case. -/
theorem takeModifiers_of_untouched {text : List Char} (h : Untouched (lowercaseUnquoted text)) :
    takeModifiers text =
      { rest := collapse (lowercaseUnquoted text), nullability := .null, unique := false,
        pk := false, serial := false } := by
  unfold takeModifiers
  simp only [splitNullability_of_unmarked h.null,
    extractKeyword_absent _ (occurs_eq_false_iff.2 h.unique),
    extractKeyword_absent _ (occurs_eq_false_iff.2 h.primaryKey),
    extractKeyword_absent _ (occurs_eq_false_iff.2 h.serial)]

section
variable {text : List Char} (hl : Lowered text)
include hl

theorem Untouched.takeModifiers_lowered (h : Untouched text) :
    takeModifiers text =
      { rest := collapse text, nullability := .null, unique := false, pk := false,
        serial := false } := by
  rw [takeModifiers_of_untouched (hl.fixed.symm ▸ h), hl.fixed]

/-- **With one of their keywords** the passes report it, or the text loses an `l`. -/
theorem Untouched.of_count (hunique : (takeModifiers text).unique = false)
    (hpk : (takeModifiers text).pk = false)
    (hcount : text.count 'l' ≤ (takeModifiers text).rest.count 'l') : Untouched text := by
  have hl' : isBlank 'l' = false := by decide
  have hinteger : 'l' ∉ "integer".toList := by decide
  obtain ⟨marked, hmarked⟩ : ∃ marked, marked = splitNullability text := ⟨_, rfl⟩
  simp only [takeModifiers, ← hmarked] at hunique hpk hcount
  -- what is not found is not taken out
  have huniqueKey := not_infix_of_found (by decide) hunique
  simp only [extractKeyword_absent _ (occurs_eq_false_iff.2 huniqueKey)] at hpk hcount
  have hpkKey := not_infix_of_found (by decide) hpk
  simp only [extractKeyword_absent _ (occurs_eq_false_iff.2 hpkKey)] at hcount
  have hnull : ¬ "null".toList <:+: text := by
    intro hi
    have hlost : marked.1.count 'l' < text.count 'l' := hmarked ▸ count_splitNullability_lt hl hi
    have hrest : (extractKeyword "serial".toList "integer".toList marked.1).rest.count 'l' ≤
        marked.1.count 'l' := count_extractKeyword_le hl' hinteger marked.1
    omega
  have hrest : marked.1 = collapse text := by
    rw [hmarked, splitNullability_of_unmarked (hl.fixed.symm ▸ hnull), hl.fixed]
  rw [hrest] at huniqueKey hpkKey hcount
  refine ⟨hnull, huniqueKey, hpkKey, fun hi => ?_⟩
  have hlost := count_extractKeyword_lt hl' hinteger _ (by decide) hi
  rw [count_collapse hl'] at hlost
  omega

end

theorem collapse_extractKeyword {phrase : List Char} (key new : List Char)
    (h : collapse phrase = phrase) :
    collapse (extractKeyword key new phrase).rest = (extractKeyword key new phrase).rest := by
  unfold extractKeyword
  split
  · exact h
  · exact collapse_idem _

/-- **What these passes leave is collapsed.** -/
theorem collapse_takeModifiers (phrase : List Char) :
    collapse (takeModifiers phrase).rest = (takeModifiers phrase).rest := by
  have hmarked : collapse (splitNullability phrase).1 = (splitNullability phrase).1 := by
    rw [splitNullability_eq]
    exact collapse_idem _
  exact collapse_extractKeyword _ _
    (collapse_extractKeyword _ _ (collapse_extractKeyword _ _ hmarked))

/-! ## The check clause and the default -/

section
variable {before after : List (List Char)} {expression : List Char}
  (hbefore : ∀ piece ∈ before, Tidy piece ∧ ¬ checkKey <:+: piece)

section
include hbefore

/-- The search for `check` stops at the piece that is a clause. -/
theorem splitAt?_checkKey :
    splitAt? checkKey (joinWords (before ++ clause expression :: after)) =
      some (joinWords (before ++ [[]]),
        ('(' :: expression ++ [')']) ++ joinWords ([] :: after)) := by
  have hfirst : ¬ checkKey <:+: joinWords (before ++ [[]]) ++ checkKey.dropLast := by
    have haround := joinWords_around before checkKey.dropLast []
    rw [joinWords_singleton, List.append_nil] at haround
    rw [← haround]
    refine not_infix_joinWords (by decide) (by decide) fun piece hp => ?_
    rcases List.mem_append.1 hp with hp | hp
    · exact (hbefore piece hp).2
    · obtain rfl := List.mem_singleton.1 hp
      exact not_infix_dropLast (by decide)
  have htext : joinWords (before ++ clause expression :: after) =
      joinWords (before ++ [[]]) ++ checkKey ++
        (('(' :: expression ++ [')']) ++ joinWords ([] :: after)) := by
    rw [joinWords_around, clause_eq]
    simp only [List.append_assoc]
  rw [htext]
  exact splitAt?_of_not_infix _ (by decide) hfirst

/-- **The clause that is found** is the one that stands as a piece, with what it overruns. -/
theorem findCheck?_joinWords (hb : Balanced expression) :
    findCheck? (joinWords (before ++ clause expression :: after)) =
      some (clause expression ++ overrun expression (joinWords ([] :: after))) := by
  refine findCheck?_of_splitAt? (splitAt?_checkKey hbefore) ?_
  rw [← List.append_assoc, ← clause_eq]
  exact clauseAt?_clause _ hb

end

theorem clause_infix_joinWords :
    clause expression <:+: joinWords (before ++ clause expression :: after) :=
  ⟨_, _, (joinWords_around _ _ after).symm⟩

theorem occurs_checkKey_joinWords :
    occurs checkKey (joinWords (before ++ clause expression :: after)) = true :=
  occurs_iff.2 ((checkKey_infix_clause expression).trans clause_infix_joinWords)

include hbefore

/-- **A clause that overruns nothing** is taken out with the blank that it leaves. -/
theorem takeCheck?_joinWords (hafter : ∀ piece ∈ after, Tidy piece ∧ ¬ checkKey <:+: piece)
    (hb : Balanced expression) (ho : overrun expression (joinWords ([] :: after)) = []) :
    takeCheck? (joinWords (before ++ clause expression :: after)) =
      some (joinWords (before ++ after), some (clause expression)) := by
  have hfind : findCheck? (joinWords (before ++ clause expression :: after)) =
      some (clause expression) := by
    rw [findCheck?_joinWords hbefore hb, ho, List.append_nil]
  have hlong : splitAt? (clause expression) (joinWords (before ++ clause expression :: after)) =
      some (joinWords (before ++ [[]]), joinWords ([] :: after)) := by
    rw [clause_eq expression]
    exact splitAt?_append (clause_eq expression ▸ splitAt?_checkKey hbefore) (by decide)
  have hbehind : ¬ checkKey <:+: joinWords ([] :: after) := by
    refine not_infix_joinWords (by decide) (by decide) fun piece hp => ?_
    rcases List.mem_cons.1 hp with rfl | hp
    · decide
    · exact (hafter piece hp).2
  have hreplace : replaceAll (clause expression) []
      (joinWords (before ++ clause expression :: after)) = joinWords (before ++ [] :: after) := by
    rw [replaceAll_of_splitAt? [] (by simp [clause]) hlong, replaceAll_of_not_infix [] fun hi =>
      hbehind ((checkKey_infix_clause _).trans hi), ← joinWords_around]
  rw [takeCheck?, if_pos occurs_checkKey_joinWords, hfind, Option.map_some,
    extractKeyword_present [] (by simp [clause]) (occurs_iff.2 clause_infix_joinWords), hreplace,
    collapse_joinWords_gap (fun piece hp => (hbefore piece hp).1) fun piece hp =>
      (hafter piece hp).1]

end

theorem takeDefault_absent {text : List Char} (h : ¬ "default".toList <:+: text) :
    takeDefault text = (text, none) := by
  rw [takeDefault, splitAt?_eq_none_iff.2 h]

/-- **The default** is what stands behind the first `default`. -/
theorem takeDefault_of_fresh {front value : List Char} (hf : Tidy front) (hv : Tidy value)
    (h : ¬ "default".toList <:+: front) :
    takeDefault (front ++ ' ' :: ("default".toList ++ ' ' :: value)) = (front, some value) := by
  have htext : front ++ ' ' :: ("default".toList ++ ' ' :: value) =
      (front ++ [' ']) ++ "default".toList ++ ' ' :: value := by
    simp only [List.append_assoc, List.cons_append, List.nil_append]
  have hfirst : ¬ "default".toList <:+: (front ++ [' ']) ++ "default".toList.dropLast := by
    have hcut : ¬ "default".toList <:+: "default".toList.dropLast := not_infix_dropLast (by decide)
    rw [List.append_assoc, List.singleton_append, infix_append_cons (by decide) (by decide)]
    exact not_or.2 ⟨h, hcut⟩
  rw [takeDefault, htext, splitAt?_of_not_infix _ (by decide) hfirst]
  show (trim (front ++ [' ']), some (trim (' ' :: value))) = _
  rw [hf.trim_append (forall_mem_of_all (by decide)), trim_blank_cons _ isBlank_space, hv.trim]

/-! ## The whole phrase -/

theorem result_parsePhrase_eq_ok {phrase : String} {parsed : ParsedPhrase} :
    (parsePhrase phrase).result = .ok parsed ↔ takeApart? phrase.toList = some parsed := by
  unfold parsePhrase
  cases h : takeApart? phrase.toList with
  | none =>
    rw [Traced.result_fail]
    constructor <;> intro h <;> cases h
  | some found =>
    have hrun : (do
        Traced.emit (.phrase phrase found.dtype)
        return found : Traced ColumnError ParsedPhrase).result = .ok found :=
      Traced.result_bind _ _
    rw [hrun, Except.ok.injEq, Option.some.injEq]

theorem result_parsePhrase_eq_error {phrase : String} {cause : ColumnError} :
    (parsePhrase phrase).result = .error cause ↔
      takeApart? phrase.toList = none ∧ cause = .malformedCheckClause phrase := by
  cases h : takeApart? phrase.toList with
  | none =>
    have hfail : (parsePhrase phrase).result = .error (.malformedCheckClause phrase) := by
      unfold parsePhrase
      rw [h]
      exact Traced.result_fail _
    rw [hfail, Except.error.injEq, eq_comm, and_iff_right rfl]
  | some parsed =>
    rw [result_parsePhrase_eq_ok.2 h]
    refine ⟨fun h => ?_, fun h => ?_⟩
    · cases h
    · cases h.1

end SchemaPhrase.Phrase
