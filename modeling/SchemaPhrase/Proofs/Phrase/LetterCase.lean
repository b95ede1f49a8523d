import SchemaPhrase.Proofs.DataType.Spelling
import SchemaPhrase.Proofs.Phrase.MarkerSpacing
import SchemaPhrase.Proofs.Text.CaseVariants

/-!
# Letter case outside literals

The first pass puts a phrase in lower case outside its literals, and no later pass looks at the
phrase as it was written. So phrases with the same lower case are read alike
(`readAlike_of_lowercaseUnquoted_eq`), which is what the case of ASCII letters can change in a
literal only (`letterCase_shows_in_literals_only`).
-/

set_option autoImplicit false

namespace SchemaPhrase.Phrase

open Text

theorem readAlike_of_lowercaseUnquoted_eq {phrase other : String}
    (h : lowercaseUnquoted phrase.toList = lowercaseUnquoted other.toList) :
    ReadAlike phrase other := by
  refine readAlike_of_takeApart?_eq (takeApart?_congr ?_)
  rw [splitNullability, h, ← splitNullability]

theorem readAlike_of_caseVariants {phrase other : String}
    (h : CaseVariants (fun position => OutsideLiterals phrase.toList position ∨
      phrase.toList.count quote % 2 = 1) phrase.toList other.toList) : ReadAlike phrase other :=
  readAlike_of_lowercaseUnquoted_eq h.lowercaseUnquoted_eq

/-- **Letter case shows in literals only.** A phrase is read like its lower case outside literals.
It is read like any variant that agrees with it in its literals, or in nothing if its quotes do not
pair up; so variants that are not read alike have paired quotes and differ in a literal. The type of
a phrase is the same for all variants. -/
theorem letterCase_shows_in_literals_only (phrase other : String) :
    ReadAlike (String.ofList (lowercaseUnquoted phrase.toList)) phrase ∧
      (CaseVariants (fun position => OutsideLiterals phrase.toList position ∨
        phrase.toList.count quote % 2 = 1) phrase.toList other.toList → ReadAlike phrase other) ∧
      (CaseVariants (fun _ => True) phrase.toList other.toList → ¬ ReadAlike phrase other →
        phrase.toList.count quote % 2 = 0 ∧ ∃ position, ¬ OutsideLiterals phrase.toList position ∧
          phrase.toList[position]? ≠ other.toList[position]?) ∧
      (CaseVariants (fun _ => True) phrase.toList other.toList →
        DataType.parse phrase = DataType.parse other) := by
  refine ⟨?_, readAlike_of_caseVariants, fun h hdiffer => ?_, fun h => ?_⟩
  · refine readAlike_of_lowercaseUnquoted_eq ?_
    rw [String.toList_ofList, lowercaseUnquoted_idem]
  · by_contra hnone
    refine hdiffer (readAlike_of_caseVariants ⟨h.1, fun position hposition => ?_⟩)
    rcases h.2 position hposition with hsame | ⟨-, hlower⟩
    · exact .inl hsame
    · refine or_iff_not_imp_left.2 fun hne => ⟨?_, hlower⟩
      by_contra hinside
      rw [not_or] at hinside
      exact hnone ⟨by omega, position, hinside.1, hne⟩
  · exact DataType.parse_eq_of_foldCase h.foldCase_eq

/-- Keywords may be written in capitals, and the letter of a default may not. -/
theorem letterCase_shows_in_default :
    ReadAlike "TEXT Default 'A'" "text default 'A'" ∧
      (∃ position, ¬ OutsideLiterals "text default 'A'".toList position ∧
        "text default 'A'".toList[position]? ≠ "TEXT default 'a'".toList[position]?) ∧
      DataType.parse "text default 'A'" = DataType.parse "TEXT default 'a'" := by
  have hcapital : (parsePhrase "text default 'A'").result = .ok
      { dtype := "text", nullability := .null, nullable := false, unique := false, pk := false,
        default := some "'A'", check := none } := by decide +kernel
  have hsmall : (parsePhrase "TEXT default 'a'").result = .ok
      { dtype := "text", nullability := .null, nullable := false, unique := false, pk := false,
        default := some "'a'", check := none } := by decide +kernel
  have hdiffer : ¬ ReadAlike "text default 'A'" "TEXT default 'a'" := by
    simp [ReadAlike, Malformed, hcapital, hsmall]
  have hall := letterCase_shows_in_literals_only "text default 'A'" "TEXT default 'a'"
  have hvariants : CaseVariants (fun _ => True) "text default 'A'".toList
      "TEXT default 'a'".toList := by decide +kernel
  exact ⟨(letterCase_shows_in_literals_only _ _).2.1 (by decide +kernel),
    (hall.2.2.1 hvariants hdiffer).2, hall.2.2.2 hvariants⟩

end SchemaPhrase.Phrase
