import SchemaPhrase.Proofs.Phrase.Verbatim
import SchemaPhrase.Proofs.Text.Runs

/-!
# Where the letters of a phrase go

The passes take keywords out of a phrase and record the rest. No keyword but `not null` and `check`
has one of the `rareLetters`, so those that the markers leave are found again in what is recorded:
in the type, in the default, unless it is the one of a serial column, and in the check clause as
often as the clause was written (`count_of_takeApart?`). So two phrases that are recorded alike have
as many of one of them if they have as many of the other two (`count_eq_of_takeApart?`).
-/

set_option autoImplicit false

namespace SchemaPhrase.Phrase

open Text

/-- Letters that only a marker and a check clause have. -/
def rareLetters : List Char := ['o', 'h', 'x']

theorem rareLetters_solid : ∀ c ∈ rareLetters, isBlank c = false := forall_mem_of_all (by decide)

/-- No other keyword has one of them, and neither has what `serial` is exchanged for. -/
theorem rareLetters_notMem : ∀ c ∈ rareLetters, c ∉ "unique".toList ∧ c ∉ "primary key".toList ∧
    c ∉ "serial".toList ∧ c ∉ "integer".toList ∧ c ∉ "default".toList :=
  forall_mem_of_all (by decide)

theorem count_splitNullability_marks (phrase : List Char) :
    (splitNullability phrase).1.count 'o' =
      (replaceAll "not null".toList [] (lowercaseUnquoted phrase)).count 'o' := by
  rw [splitNullability_eq, count_collapse (by decide),
    count_replaceAll_of_notMem (by decide) List.not_mem_nil _ (by decide)]

theorem count_splitNullability {c : Char} (hc : isBlank c = false) (hkey : c ∉ "not null".toList)
    (phrase : List Char) :
    (splitNullability phrase).1.count c = (lowercaseUnquoted phrase).count c := by
  have hnull : c ∉ "null".toList := fun hm => hkey (List.mem_append_right "not ".toList hm)
  rw [splitNullability_eq, count_collapse hc,
    count_replaceAll_of_notMem (by decide) List.not_mem_nil _ hnull,
    count_replaceAll_of_notMem (by decide) List.not_mem_nil _ hkey]

theorem count_takeModifiers {c : Char} (hc : c ∈ rareLetters) (phrase : List Char) :
    (takeModifiers phrase).rest.count c = (splitNullability phrase).1.count c := by
  have hsolid := rareLetters_solid c hc
  obtain ⟨hunique, hpk, hserial, hinteger, -⟩ := rareLetters_notMem c hc
  simp only [takeModifiers]
  rw [count_extractKeyword_of_notMem hsolid hinteger _ hserial,
    count_extractKeyword_of_notMem hsolid List.not_mem_nil _ hpk,
    count_extractKeyword_of_notMem hsolid List.not_mem_nil _ hunique]

/-- A check clause is taken out wherever its text stands. -/
theorem exists_count_takeCheck? {text rest : List Char} {check : Option (List Char)}
    (h : takeCheck? text = some (rest, check)) :
    ∃ times, ∀ c, isBlank c = false →
      text.count c = rest.count c + times * (check.getD []).count c := by
  unfold takeCheck? at h
  split at h
  · obtain ⟨clause, -, hpair⟩ := Option.map_eq_some_iff.1 h
    cases hpair
    obtain ⟨times, htimes⟩ := exists_count_extractKeyword clause [] text
    exact ⟨times, fun c hc => by simpa using htimes c hc⟩
  · cases h
    exact ⟨0, fun c _ => by omega⟩

theorem count_takeDefault_rare {c : Char} (hc : c ∈ rareLetters) (text : List Char) :
    text.count c = (takeDefault text).1.count c + ((takeDefault text).2.getD []).count c := by
  have hsolid := rareLetters_solid c hc
  obtain ⟨-, -, -, -, hdefault⟩ := rareLetters_notMem c hc
  unfold takeDefault
  split
  · next before after hsplit =>
    rw [Option.getD_some, count_trim hsolid, count_trim hsolid, eq_of_splitAt? hsplit,
      List.count_append, List.count_append, List.count_eq_zero_of_not_mem hdefault]
    omega
  · simp

/-- The characters of what is recorded, none if nothing is. -/
def recordedText (value : Option String) : List Char := (value.map String.toList).getD []

theorem recordedText_map (value : Option (List Char)) :
    recordedText (value.map String.ofList) = value.getD [] := by
  cases value with
  | none => rfl
  | some text => exact String.toList_ofList

/-- A default that is recorded stands in the text, or it is the one of a serial column. -/
theorem default_assemble_cases (modifiers : Modifiers) (check : Option (List Char))
    (text : List Char) :
    recordedText (assemble modifiers check text).default = (takeDefault text).2.getD [] ∨
      (takeDefault text).2 = none ∧
        (assemble modifiers check text).default = some serialDefault := by
  have hdefault : (assemble modifiers check text).default =
      ((takeDefault text).2.map String.ofList).or
        (if modifiers.serial then some serialDefault else none) := rfl
  rw [hdefault]
  cases hfound : (takeDefault text).2 with
  | some value => exact .inl String.toList_ofList
  | none =>
    by_cases hserial : modifiers.serial = true
    · exact .inr ⟨rfl, by simp [hserial]⟩
    · exact .inl (by simp [hserial, recordedText])

/-- **Where the letters of a phrase go**: into the type, the default unless it is the one of a
serial column, and the check clause as often as it was written. -/
theorem count_of_takeApart? {phrase : List Char} {parsed : ParsedPhrase}
    (h : takeApart? phrase = some parsed) :
    ∃ explicit clauses, (explicit = 1 ∨ explicit = 0 ∧ parsed.default = some serialDefault) ∧
      ∀ c ∈ rareLetters, (splitNullability phrase).1.count c =
        parsed.dtype.toList.count c + explicit * (recordedText parsed.default).count c +
          clauses * (recordedText parsed.check).count c := by
  obtain ⟨rest, check, htake, rfl⟩ := eq_assemble_of_takeApart? h
  obtain ⟨clauses, hclauses⟩ := exists_count_takeCheck? htake
  have hdtype : (assemble (takeModifiers phrase) check rest).dtype.toList = (takeDefault rest).1 :=
    String.toList_ofList
  have hcheck : recordedText (assemble (takeModifiers phrase) check rest).check = check.getD [] :=
    recordedText_map check
  have hcount : ∀ c ∈ rareLetters, (splitNullability phrase).1.count c =
      (takeDefault rest).1.count c + ((takeDefault rest).2.getD []).count c +
        clauses * (check.getD []).count c := fun c hc => by
    rw [← count_takeModifiers hc, hclauses c (rareLetters_solid c hc), ← count_takeDefault_rare hc]
  rw [hdtype, hcheck]
  rcases default_assemble_cases (takeModifiers phrase) check rest with hdefault | ⟨hnone, hdefault⟩
  · exact ⟨1, clauses, .inl rfl, fun c hc => by rw [hdefault, hcount c hc, Nat.one_mul]⟩
  · refine ⟨0, clauses, .inr ⟨rfl, hdefault⟩, fun c hc => ?_⟩
    rw [hcount c hc, hnone]
    simp

theorem count_check_pos {phrase : List Char} {parsed : ParsedPhrase}
    (h : takeApart? phrase = some parsed) (hc : parsed.check ≠ none) :
    0 < (recordedText parsed.check).count 'h' := by
  obtain ⟨rest, check, htake, rfl⟩ := eq_assemble_of_takeApart? h
  have hcheck : recordedText (assemble (takeModifiers phrase) check rest).check = check.getD [] :=
    recordedText_map check
  rw [hcheck]
  cases check with
  | none => exact absurd rfl hc
  | some clause =>
    have hkey : 0 < checkKey.count 'h' := by decide
    exact Nat.lt_of_lt_of_le hkey ((infix_of_takeCheck? htake).2.sublist.count_le 'h')

/-- **Phrases that are read alike have the same letters**, if they have as many of those that tell a
clause and a default of a serial column. -/
theorem count_eq_of_takeApart? {phrase other : List Char} {parsed : ParsedPhrase}
    (h : takeApart? phrase = some parsed) (ho : takeApart? other = some parsed)
    (hh : (splitNullability phrase).1.count 'h' = (splitNullability other).1.count 'h')
    (hx : (splitNullability phrase).1.count 'x' = (splitNullability other).1.count 'x') :
    (splitNullability phrase).1.count 'o' = (splitNullability other).1.count 'o' := by
  obtain ⟨explicit, clauses, hexplicit, hcount⟩ := count_of_takeApart? h
  obtain ⟨explicit', clauses', hexplicit', hcount'⟩ := count_of_takeApart? ho
  rw [hcount 'h' (by decide), hcount' 'h' (by decide)] at hh
  rw [hcount 'x' (by decide), hcount' 'x' (by decide)] at hx
  rw [hcount 'o' (by decide), hcount' 'o' (by decide)]
  -- the default of a serial column has no letter of the clause, and one that tells it
  have hserial : explicit = explicit' ∨ (recordedText parsed.default).count 'h' = 0 ∧
      (recordedText parsed.default).count 'x' = 1 := by
    have hletters : (recordedText (some serialDefault)).count 'h' = 0 ∧
        (recordedText (some serialDefault)).count 'x' = 1 := by decide
    rcases hexplicit with rfl | ⟨rfl, hdefault⟩
    · rcases hexplicit' with rfl | ⟨rfl, hdefault⟩
      · exact .inl rfl
      · exact .inr (hdefault ▸ hletters)
    · exact .inr (hdefault ▸ hletters)
  have hclauses : ∀ c, clauses * (recordedText parsed.check).count c =
      clauses' * (recordedText parsed.check).count c := by
    by_cases hnone : parsed.check = none
    · intro c
      simp [hnone, recordedText]
    · have hpos := count_check_pos h hnone
      have hmul : clauses * (recordedText parsed.check).count 'h' =
          clauses' * (recordedText parsed.check).count 'h' := by
        rcases hserial with rfl | ⟨hzero, -⟩
        · omega
        · rw [hzero] at hh
          omega
      rw [Nat.eq_of_mul_eq_mul_right hpos hmul]
      exact fun _ => rfl
  have hexplicit : explicit = explicit' := by
    rw [hclauses 'x'] at hx
    rcases hserial with hsame | ⟨-, hone⟩
    · exact hsame
    · rw [hone] at hx
      omega
  rw [hclauses 'o', hexplicit]

end SchemaPhrase.Phrase
