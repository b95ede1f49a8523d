import SchemaPhrase.Proofs.Phrase.Verbatim

/-!
# A check clause in front of a default

A check clause and a default may be written in either order (`Exchangeable`), but for one case: the
expression of the clause has parentheses, and those of the default are nested. Then the clause that
stands in front runs on into the default, up to the last two neighbouring parentheses that close,
and the default is lost (`exchangeable_iff`). A clause that stands behind the default ends with the
phrase, and there is nothing to run on into.

The operands hold no keyword and are not changed by the passes, so both phrases reach the search for
the clause as they were written (`takeModifiers_plain`). What it finds is `findCheck?_joinWords`, and
whether it overruns the default is told by how deep its parentheses nest (`overrun_default`).
-/

set_option autoImplicit false

namespace SchemaPhrase.Phrase

open Text

/-- A plain expression that no pass finds its keyword in. -/
structure PlainOperand (text : List Char) : Prop extends PlainExpression text where
  fresh : ∀ key ∈ keywords, ¬ key <:+: text

theorem plainOperand_iff {text : List Char} :
    PlainOperand text ↔ text ≠ [] ∧ quote ∉ text ∧ Balanced text ∧ lowercaseUnquoted text = text ∧
      collapse text = text ∧ ∀ key ∈ keywords, occurs key text = false := by
  simp only [occurs_eq_false_iff]
  constructor
  · rintro ⟨⟨hnonempty, hquote, hbalanced, hlower, hcollapsed⟩, hfresh⟩
    exact ⟨hnonempty, hquote, hbalanced, hlower, hcollapsed, hfresh⟩
  · rintro ⟨hnonempty, hquote, hbalanced, hlower, hcollapsed, hfresh⟩
    exact ⟨⟨hnonempty, hquote, hbalanced, hlower, hcollapsed⟩, hfresh⟩

instance (text : List Char) : Decidable (PlainOperand text) :=
  decidable_of_iff' _ plainOperand_iff

/-- A check clause or a default over a plain operand. -/
def Modifier.Plain : Modifier → Prop
  | default value => PlainOperand value.toList
  | check expression => PlainOperand expression.toList
  | _ => False

/-- The clause and the default are recorded as they were written, whichever stands in front. -/
def Exchangeable (name expression value : String) : Prop :=
  ∃ parsed,
    (parsePhrase (phraseText name [.check expression, .default value])).result = .ok parsed ∧
    (parsePhrase (phraseText name [.default value, .check expression])).result = .ok parsed ∧
    parsed.dtype = name ∧ parsed.check = some ("check(" ++ expression ++ ")") ∧
    parsed.default = some value

/-! ## Plain modifiers -/

section
variable {modifier : Modifier} (h : modifier.Plain)
include h

theorem Modifier.Plain.tidy : Tidy modifier.text.toList := by
  cases modifier with
  | default value => exact tidy_default h.tidy
  | check expression => exact text_check_eq_clause expression ▸ h.tidy_clause
  | _ => cases h

theorem Modifier.Plain.lowered : Lowered modifier.text.toList := by
  cases modifier with
  | default value => exact lowered_default h.lowered
  | check expression => exact lowered_check h.lowered
  | _ => cases h

theorem Modifier.Plain.no_key_front : ¬ "key".toList <+: modifier.text.toList := by
  cases modifier with
  | default value => exact no_key_front_default value
  | check expression => exact no_key_front_check expression
  | _ => cases h

theorem Modifier.Plain.fresh {key : List Char} (hkey : key ∈ keywords)
    (hne : modifier.keyword ≠ key) : ¬ key <:+: modifier.text.toList := by
  cases modifier with
  | default value => exact fresh_default hkey (PlainOperand.fresh h key hkey) hne
  | check expression => exact fresh_check hkey (PlainOperand.fresh h key hkey) hne
  | _ => cases h

theorem Modifier.Plain.keyword_ne {key : List Char} (hkey : key ∈ plainKeywords) :
    modifier.keyword ≠ key := by
  have hvalued : ∀ k ∈ plainKeywords, "default".toList ≠ k ∧ checkKey ≠ k := by decide
  cases modifier with
  | default value => exact (hvalued key hkey).1
  | check expression => exact (hvalued key hkey).2
  | _ => cases h

end

/-! ## The passes -/

section
variable {name : String} (hpiece : Piece name.toList)
  (hfresh : ∀ key ∈ keywords, ¬ key <:+: name.toList)

section
variable {modifiers : List Modifier} (hM : ∀ modifier ∈ modifiers, modifier.Plain)
include hpiece hM

theorem tidy_of_mem_plain {piece : List Char} (h : piece ∈ pieces name modifiers) :
    Tidy piece := by
  rcases List.mem_cons.1 h with rfl | h
  · exact hpiece.tidy
  · obtain ⟨modifier, hm, rfl⟩ := List.mem_map.1 h
    exact (hM modifier hm).tidy

theorem lowered_of_mem_plain {piece : List Char} (h : piece ∈ pieces name modifiers) :
    Lowered piece := by
  rcases List.mem_cons.1 h with rfl | h
  · exact hpiece.lowered
  · obtain ⟨modifier, hm, rfl⟩ := List.mem_map.1 h
    exact (hM modifier hm).lowered

include hfresh

omit hpiece in
theorem not_infix_plain {key : List Char} (hkey : key ∈ keywords)
    (hother : ∀ modifier ∈ modifiers, modifier.keyword ≠ key) :
    ∀ piece ∈ pieces name modifiers, ¬ key <:+: piece := by
  intro piece h
  rcases List.mem_cons.1 h with rfl | h
  · exact hfresh key hkey
  · obtain ⟨modifier, hm, rfl⟩ := List.mem_map.1 h
    exact (hM modifier hm).fresh hkey (hother modifier hm)

theorem takeModifiers_plain :
    takeModifiers (joinWords (pieces name modifiers)) =
      { rest := joinWords (pieces name modifiers), nullability := .null, unique := false,
        pk := false, serial := false } := by
  have hcollapse : collapse (joinWords (pieces name modifiers)) =
      joinWords (pieces name modifiers) :=
    collapse_joinWords_tidy fun _ hp => tidy_of_mem_plain hpiece hM hp
  have hlowered : Lowered (joinWords (pieces name modifiers)) :=
    .joinWords fun _ hp => lowered_of_mem_plain hpiece hM hp
  have huntouched : Untouched (joinWords (pieces name modifiers)) := by
    refine (untouched_iff hcollapse).2 fun key hkey => ?_
    have hkeyword : ∀ k ∈ plainKeywords, k ∈ keywords := by decide
    refine not_infix_joinWords_of_keyword (hkeyword key hkey) ?_ fun piece hp => ?_
    · exact not_infix_plain hfresh hM (hkeyword key hkey) fun modifier hm =>
        (hM modifier hm).keyword_ne hkey
    · rcases List.mem_cons.1 hp with rfl | hp
      · exact hpiece.no_key_front
      · obtain ⟨modifier, hm, rfl⟩ := List.mem_map.1 hp
        exact (hM modifier hm).no_key_front
  rw [huntouched.takeModifiers_lowered hlowered, hcollapse]

end

/-- What is recorded of a type with a check clause and a default. -/
def recorded (name expression value : String) : ParsedPhrase :=
  { dtype := name, nullability := .null, nullable := false, unique := false, pk := false,
    default := some value, check := some ("check(" ++ expression ++ ")") }

section
variable {expression value : String} (he : PlainOperand expression.toList)
  (hv : PlainOperand value.toList)

/-- A default nests its parentheses exactly if a clause in front of it that has some runs on into
it. -/
theorem overrun_default (hb : Balanced value.toList) :
    overrun expression.toList (joinWords ([] :: modifierTexts [.default value])) = [] ↔
      Parenless expression.toList ∨ nestsWithin 1 0 value.toList = true := by
  have hafter : joinWords ([] :: modifierTexts [.default value]) =
      " default ".toList ++ value.toList := by
    show ' ' :: (Modifier.default value).text.toList = _
    rw [Modifier.text_default]
    rfl
  have hfront : Parenless " default ".toList := by decide
  have hbalanced : Balanced (" default ".toList ++ value.toList) :=
    (closesAll_append_of_parenless hfront 0 _).trans hb
  rw [overrun_eq_nil_iff, hafter, throughLastPair?_eq_none_iff true hbalanced,
    nestsWithin_append_of_parenless hfront]

include he hv

theorem plain_of_operands {modifiers : List Modifier}
    (h : ∀ modifier ∈ modifiers, modifier = .check expression ∨ modifier = .default value) :
    ∀ modifier ∈ modifiers, modifier.Plain := by
  intro modifier hm
  rcases h modifier hm with rfl | rfl
  · exact he
  · exact hv

include hpiece hfresh

/-- **A clause that overruns nothing**, in front of the default or behind it, is taken out, and the
default is cut off. -/
theorem takeApart?_of_takeCheck? {modifiers : List Modifier}
    (hM : ∀ modifier ∈ modifiers, modifier = .check expression ∨ modifier = .default value)
    (htake : takeCheck? (joinWords (pieces name modifiers)) =
      some (joinWords (pieces name [.default value]), some (clause expression.toList))) :
    takeApart? (joinWords (pieces name modifiers)) = some (recorded name expression value) := by
  have hplain := plain_of_operands he hv hM
  have hdefault : takeDefault (joinWords (pieces name [.default value])) =
      (name.toList, some value.toList) := by
    show takeDefault (name.toList ++ ' ' :: (Modifier.default value).text.toList) = _
    rw [Modifier.text_default]
    exact takeDefault_of_fresh hpiece.tidy hv.tidy (hfresh _ (by decide))
  rw [takeApart?, takeModifiers_plain hpiece hfresh hplain]
  simp only [htake, Option.map_some, assemble, hdefault, String.ofList_toList, ofList_clause]
  rfl

theorem tidy_and_fresh : ∀ piece ∈ pieces name [.default value],
    Tidy piece ∧ ¬ checkKey <:+: piece := by
  have hplain : ∀ modifier ∈ [Modifier.default value], modifier.Plain :=
    plain_of_operands he hv (by simp)
  have hkey : ∀ modifier ∈ [Modifier.default value], modifier.keyword ≠ checkKey := by
    intro modifier hm
    obtain rfl := List.mem_singleton.1 hm
    show "default".toList ≠ checkKey
    decide
  intro piece hp
  exact ⟨tidy_of_mem_plain hpiece hplain hp,
    not_infix_plain hfresh hplain (by decide) hkey piece hp⟩

theorem takeApart?_default_check :
    takeApart? (joinWords (pieces name [.default value, .check expression])) =
      some (recorded name expression value) := by
  refine takeApart?_of_takeCheck? hpiece hfresh he hv (by simp) ?_
  have hnothing : overrun expression.toList (joinWords [[]]) = [] :=
    overrun_eq_nil_iff.2 (.inr rfl)
  have htext : pieces name [.default value, .check expression] =
      pieces name [.default value] ++ clause expression.toList :: [] := by
    rw [← text_check_eq_clause]
    rfl
  rw [htext, takeCheck?_joinWords (tidy_and_fresh hpiece hfresh he hv) (List.forall_mem_nil _)
    he.balanced hnothing, List.append_nil]

omit hpiece hfresh he hv in
theorem pieces_check_default : pieces name [.check expression, .default value] =
    [name.toList] ++ clause expression.toList :: modifierTexts [.default value] := by
  rw [← text_check_eq_clause]
  rfl

/-- **In front of the default** the clause is taken out if it overruns nothing. -/
theorem takeApart?_check_default
    (ho : overrun expression.toList (joinWords ([] :: modifierTexts [.default value])) = []) :
    takeApart? (joinWords (pieces name [.check expression, .default value])) =
      some (recorded name expression value) := by
  refine takeApart?_of_takeCheck? hpiece hfresh he hv (by simp) ?_
  obtain ⟨hname, hdefault⟩ := List.forall_mem_cons.1 (tidy_and_fresh hpiece hfresh he hv)
  rw [pieces_check_default, takeCheck?_joinWords (List.forall_mem_singleton.2 hname) hdefault
    he.balanced ho]
  rfl

/-- A clause that overruns some of the default is not recorded as it was written. -/
theorem overrun_of_recorded {parsed : ParsedPhrase}
    (h : takeApart? (joinWords (pieces name [.check expression, .default value])) = some parsed)
    (hcheck : parsed.check = some ("check(" ++ expression ++ ")")) :
    overrun expression.toList (joinWords ([] :: modifierTexts [.default value])) = [] := by
  have hM : ∀ modifier ∈ [Modifier.check expression, .default value],
      modifier = .check expression ∨ modifier = .default value := by simp
  obtain ⟨hname, -⟩ := List.forall_mem_cons.1 (tidy_and_fresh hpiece hfresh he hv)
  obtain ⟨rest, check, htake, rfl⟩ := eq_assemble_of_takeApart? h
  rw [takeModifiers_plain hpiece hfresh (plain_of_operands he hv hM)] at htake
  simp only [takeCheck?, pieces_check_default, occurs_checkKey_joinWords, if_true,
    findCheck?_joinWords (List.forall_mem_singleton.2 hname) he.balanced, Option.map_some,
    Option.some.injEq, Prod.mk.injEq] at htake
  obtain ⟨-, rfl⟩ := htake
  rw [← ofList_clause] at hcheck
  have hclause := String.ofList_injective (Option.some.inj hcheck)
  exact List.append_right_eq_self.1 hclause

end

end

/-- **A check clause and a default may change places** exactly if the expression has no parentheses
or the default does not nest any; behind the default the clause is always recorded as it was
written. -/
theorem exchangeable_iff {phrase : String} {type : DataType}
    (hparse : DataType.parse phrase = .ok type) {expression value : String}
    (he : PlainOperand expression.toList) (hv : PlainOperand value.toList) :
    (parsePhrase (phraseText type.display [.default value, .check expression])).result =
        .ok (recorded type.display expression value) ∧
      (Exchangeable type.display expression value ↔
        Parenless expression.toList ∨ nestsWithin 1 0 value.toList = true) := by
  have hpiece : Piece type.display.toList := TypeText.piece (.inr ⟨phrase, type, hparse, rfl⟩)
  have hfresh : ∀ key ∈ keywords, ¬ key <:+: type.display.toList := fun _ hkey =>
    fresh_display hparse hkey
  have hbehind : (parsePhrase (phraseText type.display [.default value, .check expression])).result =
      .ok (recorded type.display expression value) := by
    rw [result_parsePhrase_eq_ok, phraseText_toList]
    exact takeApart?_default_check hpiece hfresh he hv
  refine ⟨hbehind, ?_⟩
  rw [← overrun_default hv.balanced]
  constructor
  · rintro ⟨parsed, hfront, -, -, hcheck, -⟩
    rw [result_parsePhrase_eq_ok, phraseText_toList] at hfront
    exact overrun_of_recorded hpiece hfresh he hv hfront hcheck
  · intro ho
    refine ⟨recorded type.display expression value, ?_, hbehind, rfl, rfl, rfl⟩
    rw [result_parsePhrase_eq_ok, phraseText_toList]
    exact takeApart?_check_default hpiece hfresh he hv ho

/-- Nested parentheses in the clause do no harm as long as the default has none that nest. -/
theorem exchangeable_iff_timestamp :
    DataType.parse "timestamp (3) with time zone" = .ok (.timestamp 3 true) ∧
    PlainOperand "at in (f(a), g(b))".toList ∧ PlainOperand "max(a) + now()".toList ∧
    Exchangeable (DataType.timestamp 3 true).display "at in (f(a), g(b))" "max(a) + now()" := by
  have hparse : DataType.parse "timestamp (3) with time zone" = .ok (.timestamp 3 true) := by
    decide +kernel
  have he : PlainOperand "at in (f(a), g(b))".toList := by decide +kernel
  have hv : PlainOperand "max(a) + now()".toList := by decide +kernel
  obtain ⟨-, hiff⟩ := exchangeable_iff hparse he hv
  exact ⟨hparse, he, hv, hiff.2 (.inr (by decide))⟩

/-- **A clause that runs on** takes the default with it, although its own parentheses nest once. -/
theorem not_exchangeable_nested_default :
    DataType.parse "integer" = .ok (.plain .integer) ∧
    PlainOperand "f(x) > 0".toList ∧ nestsWithin 1 0 "f(x) > 0".toList = true ∧
    PlainOperand "g(h(1))".toList ∧
    ¬ Exchangeable (DataType.plain .integer).display "f(x) > 0" "g(h(1))" := by
  have hrun : (parsePhrase (phraseText (DataType.plain .integer).display
      [.check "f(x) > 0", .default "g(h(1))"])).result = .ok
        { dtype := "integer", nullability := .null, nullable := true, unique := false, pk := false,
          default := none, check := some "check(f(x) > 0) default g(h(1))" } := by
    decide +kernel
  refine ⟨by decide +kernel, by decide +kernel, by decide, by decide +kernel, ?_⟩
  rintro ⟨parsed, hfront, -, -, -, hdefault⟩
  rw [hrun] at hfront
  cases hfront
  cases hdefault

end SchemaPhrase.Phrase
