import SchemaPhrase.Proofs.Phrase.Completeness
import SchemaPhrase.Proofs.Phrase.Passes

/-!
# Literals and check expressions that are kept

A quoted literal and a check expression are recorded as they were written (`LiteralKept`,
`ExpressionKept`) exactly if no pass finds its keyword in them. The searches know neither literals
nor clauses, and only lower case stops at a quote: a keyword between quotes acts on the column, and
what is left of the literal is collapsed with the rest of the phrase.

The literal and the expression stand behind a front without keywords and between two marks that no
keyword has, so that a keyword in the phrase is one in them (`infix_between`). A phrase in which
nothing was found is then taken apart where it was put together; the other way round, what was
recorded has all letters that were written, and `Untouched.of_count` applies.
-/

set_option autoImplicit false

namespace SchemaPhrase.Phrase

open Text

/-- The text between quotes. -/
def literal (text : List Char) : List Char := quote :: text ++ [quote]

/-- A text column with a literal as its default is parsed into just that. -/
def LiteralKept (text : String) : Prop :=
  ∃ parsed, (parsePhrase ("text default '" ++ text ++ "'")).result = .ok parsed ∧
    parsed.dtype = "text" ∧ parsed.default = some ("'" ++ text ++ "'") ∧
    parsed.unique = false ∧ parsed.pk = false ∧ parsed.check = none ∧
    parsed.nullability = .null

/-- A text column with a check expression is parsed into just that. -/
def ExpressionKept (expression : String) : Prop :=
  ∃ parsed, (parsePhrase ("text check(" ++ expression ++ ")")).result = .ok parsed ∧
    parsed.dtype = "text" ∧ parsed.check = some ("check(" ++ expression ++ ")") ∧
    parsed.default = none ∧ parsed.unique = false ∧ parsed.pk = false ∧ parsed.nullable = true

/-- An expression that a check clause may hold: it is not empty, has no quote, its parentheses
pair up, and neither lower case nor a collapse changes it. -/
structure PlainExpression (expression : List Char) : Prop where
  nonempty : expression ≠ []
  unquoted : quote ∉ expression
  balanced : Balanced expression
  lower : lowercaseUnquoted expression = expression
  collapsed : collapse expression = expression

/-! ## What was recorded -/

/-- A phrase that is taken apart goes through the passes one after another. -/
theorem eq_assemble_of_takeApart? {phrase : List Char} {parsed : ParsedPhrase}
    (h : takeApart? phrase = some parsed) :
    ∃ rest check, takeCheck? (takeModifiers phrase).rest = some (rest, check) ∧
      parsed = assemble (takeModifiers phrase) check rest := by
  rw [takeApart?, Option.map_eq_some_iff] at h
  obtain ⟨⟨rest, check⟩, htake, hparsed⟩ := h
  exact ⟨rest, check, htake, hparsed.symm⟩

theorem takeCheck?_eq_some_none {text rest : List Char} (h : takeCheck? text = some (rest, none)) :
    rest = text ∧ ¬ checkKey <:+: text := by
  unfold takeCheck? at h
  split at h
  · obtain ⟨clause, -, hpair⟩ := Option.map_eq_some_iff.1 h
    cases hpair
  · next hoccurs =>
    cases h
    exact ⟨rfl, mt occurs_iff.2 hoccurs⟩

theorem infix_of_takeCheck? {text rest clause : List Char}
    (h : takeCheck? text = some (rest, some clause)) : clause <:+: text ∧ checkKey <+: clause := by
  unfold takeCheck? at h
  split at h
  · obtain ⟨found, hfound, hpair⟩ := Option.map_eq_some_iff.1 h
    cases hpair
    exact infix_of_findCheck? hfound
  · cases h

theorem count_takeDefault {text value : List Char} (h : (takeDefault text).2 = some value)
    (c : Char) : "default".toList.count c + value.count c ≤ text.count c := by
  unfold takeDefault at h
  split at h
  · next before after hsplit =>
    cases h
    have htrim := (trim_sublist after).count_le c
    rw [eq_of_splitAt? hsplit, List.count_append, List.count_append]
    omega
  · cases h

theorem default_assemble {modifiers : Modifiers} {check : Option (List Char)}
    {text value : List Char}
    (h : (assemble modifiers check text).default = some (String.ofList value)) :
    (takeDefault text).2 = some value ∨ serialDefault.toList = value := by
  have hor : ((takeDefault text).2.map String.ofList).or
      (if modifiers.serial then some serialDefault else none) = some (String.ofList value) := h
  rcases Option.or_eq_some_iff.1 hor with hfound | ⟨-, hserial⟩
  · obtain ⟨found, hfound, hlist⟩ := Option.map_eq_some_iff.1 hfound
    exact .inl (by rw [hfound, String.ofList_injective hlist])
  · split at hserial
    · rw [Option.some.inj hserial, String.toList_ofList]
      exact .inr rfl
    · cases hserial

section
variable {phrase : List Char} {parsed : ParsedPhrase} (hl : Lowered phrase)
  (h : takeApart? phrase = some parsed) (hunique : parsed.unique = false)
  (hpk : parsed.pk = false)
include hl h hunique hpk

/-- A phrase has nothing but its type and its default if no letter of them is lost. -/
theorem untouched_of_default {value : List Char}
    (hdefault : parsed.default = some (String.ofList value)) (hcheck : parsed.check = none)
    (hvalue : serialDefault.toList ≠ value) (hcount : phrase.count 'l' ≤ 1 + value.count 'l') :
    Untouched phrase ∧ ¬ checkKey <:+: collapse phrase := by
  obtain ⟨rest, check, htake, rfl⟩ := eq_assemble_of_takeApart? h
  have hnone : check.map String.ofList = none := hcheck
  rw [Option.map_eq_none_iff.1 hnone] at htake
  obtain ⟨hrest, habsent⟩ := takeCheck?_eq_some_none htake
  subst hrest
  have hkept := count_takeDefault ((default_assemble hdefault).resolve_right hvalue) 'l'
  have hkey : "default".toList.count 'l' = 1 := by decide
  have huntouched := Untouched.of_count hl hunique hpk (by omega)
  rw [huntouched.takeModifiers_lowered hl] at habsent
  exact ⟨huntouched, habsent⟩

/-- A phrase has nothing but its type and its check clause if no letter of them is lost. -/
theorem untouched_of_check {clause : List Char}
    (hcheck : parsed.check = some (String.ofList clause))
    (hcount : phrase.count 'l' ≤ clause.count 'l') : Untouched phrase := by
  obtain ⟨rest, check, htake, rfl⟩ := eq_assemble_of_takeApart? h
  have hsome : check.map String.ofList = some (String.ofList clause) := hcheck
  obtain ⟨found, rfl, hlist⟩ := Option.map_eq_some_iff.1 hsome
  obtain rfl := String.ofList_injective hlist
  have hkept := (infix_of_takeCheck? htake).1.sublist.count_le 'l'
  exact .of_count hl hunique hpk (by omega)

end

/-! ## Literals -/

theorem toList_around (front inner back : String) :
    (front ++ inner ++ back).toList = front.toList ++ (inner.toList ++ back.toList) := by
  rw [String.toList_append, String.toList_append, List.append_assoc]

/-- What stands in front of a literal. -/
def literalFront : List Char := "text ".toList ++ "default".toList

/-- The phrase of a text column with a literal as its default. -/
def literalPhrase (text : List Char) : List Char :=
  literalFront ++ ' ' :: literal text

theorem tidy_text : Tidy "text".toList := ⟨by decide, by decide⟩

theorem tidy_literalFront : Tidy literalFront := ⟨by decide, by decide⟩

theorem toList_literalPhrase (text : String) :
    ("text default '" ++ text ++ "'").toList = literalPhrase text.toList := by
  have hfront : "text default '".toList = literalFront ++ [' ', quote] := by decide
  have hmark : "'".toList = [quote] := by decide
  rw [toList_around, hfront, hmark, List.append_assoc]
  rfl

theorem literalPhrase_eq (text : List Char) :
    literalPhrase text = (literalFront ++ [' ']) ++ quote :: (text ++ [quote]) := by
  simp only [literalPhrase, literal, List.append_assoc, List.cons_append, List.nil_append]

theorem infix_literalPhrase {key text : List Char} (hk : key ∈ checkKey :: plainKeywords) :
    key <:+: literalPhrase text ↔ key <:+: text := by
  have hkeys : ∀ k ∈ checkKey :: plainKeywords, k ≠ [] ∧ quote ∉ k ∧
      occurs k (literalFront ++ [' ']) = false := by decide
  obtain ⟨hne, hquote, hfront⟩ := hkeys key hk
  rw [literalPhrase_eq]
  exact infix_between hne hquote hquote (occurs_eq_false_iff.1 hfront)

theorem words_literal_ne_nil (text : List Char) : words (literal text) ≠ [] :=
  words_ne_nil _ (by decide)

theorem collapse_literalPhrase (text : List Char) :
    collapse (literalPhrase text) = literalFront ++ ' ' :: collapse (literal text) :=
  collapse_append_space tidy_literalFront (words_literal_ne_nil text)

theorem takeDefault_literalPhrase (text : List Char) :
    takeDefault (collapse (literalPhrase text)) =
      ("text".toList, some (collapse (literal text))) := by
  have hvalue : Tidy (collapse (literal text)) :=
    .of_words (words_literal_ne_nil text) fun _ => mem_words
  rw [collapse_literalPhrase]
  exact takeDefault_of_fresh tidy_text hvalue (occurs_eq_false_iff.1 (by decide))

theorem lowered_literalPhrase {text : List Char} (hq : quote ∉ text) :
    Lowered (literalPhrase text) := by
  have hfront : Lowered (literalFront ++ [' ']) := .of_fixed (by decide) (by decide)
  rw [literalPhrase_eq]
  exact hfront.append (.quoted hq)

section
variable {text : List Char} (hq : quote ∉ text)
include hq

/-- **A phrase in which nothing is found** is cut at its default. -/
theorem takeApart?_literalPhrase (h : Untouched (literalPhrase text))
    (hcheck : ¬ checkKey <:+: collapse (literalPhrase text)) :
    takeApart? (literalPhrase text) = some
      { dtype := "text", nullability := .null, nullable := false, unique := false, pk := false,
        default := some (String.ofList (collapse (literal text))), check := none } := by
  rw [takeApart?, h.takeModifiers_lowered (lowered_literalPhrase hq)]
  simp only [takeCheck?, if_neg (mt occurs_iff.1 hcheck), Option.map_some, assemble,
    takeDefault_literalPhrase]
  rfl

theorem untouched_of_literal {parsed : ParsedPhrase}
    (h : takeApart? (literalPhrase text) = some parsed)
    (hdefault : parsed.default = some (String.ofList (literal text)))
    (hunique : parsed.unique = false) (hpk : parsed.pk = false) (hcheck : parsed.check = none) :
    Untouched (literalPhrase text) ∧ ¬ checkKey <:+: collapse (literalPhrase text) := by
  have hfront : literalFront.count 'l' = 1 := by decide
  have hcount : (literalPhrase text).count 'l' = 1 + (literal text).count 'l' := by
    rw [literalPhrase, List.count_append, hfront, List.count_cons_of_ne (by decide)]
  have hserial : serialDefault.toList ≠ literal text := by
    intro hs
    have hhead : serialDefault.toList.head? = some quote := congrArg List.head? hs
    exact absurd hhead (by decide)
  exact untouched_of_default (lowered_literalPhrase hq) h hunique hpk hdefault hcheck hserial
    (Nat.le_of_eq hcount)

end

/-- **A literal is kept** exactly if it holds no keyword and is collapsed. -/
theorem literalKept_iff {text : String} (hq : quote ∉ text.toList) :
    LiteralKept text ↔
      (∀ key ∈ checkKey :: plainKeywords, ¬ key <:+: text.toList) ∧
        collapse (literal text.toList) = literal text.toList := by
  have hquoted : "'" ++ text ++ "'" = String.ofList (literal text.toList) := by
    have hmark : "'".toList = [quote] := by decide
    rw [← String.toList_inj, toList_around, hmark, String.toList_ofList]
    rfl
  have hresult : ∀ parsed, (parsePhrase ("text default '" ++ text ++ "'")).result = .ok parsed ↔
      takeApart? (literalPhrase text.toList) = some parsed := fun parsed => by
    rw [result_parsePhrase_eq_ok, toList_literalPhrase]
  have hphrase (hcollapse : collapse (literal text.toList) = literal text.toList) :
      collapse (literalPhrase text.toList) = literalPhrase text.toList := by
    rw [collapse_literalPhrase, hcollapse]
    rfl
  have hkeys : (∀ key ∈ checkKey :: plainKeywords, ¬ key <:+: text.toList) ↔
      ¬ checkKey <:+: literalPhrase text.toList ∧
        ∀ key ∈ plainKeywords, ¬ key <:+: literalPhrase text.toList := by
    have hmoved : (∀ key ∈ checkKey :: plainKeywords, ¬ key <:+: text.toList) ↔
        ∀ key ∈ checkKey :: plainKeywords, ¬ key <:+: literalPhrase text.toList :=
      forall₂_congr fun key hk => not_congr (infix_literalPhrase hk).symm
    exact hmoved.trans List.forall_mem_cons
  simp only [LiteralKept, hresult, hquoted, hkeys]
  constructor
  · rintro ⟨parsed, h, -, hdefault, hunique, hpk, hcheck, -⟩
    obtain ⟨huntouched, habsent⟩ := untouched_of_literal hq h hdefault hunique hpk hcheck
    rw [takeApart?_literalPhrase hq huntouched habsent] at h
    obtain rfl := Option.some.inj h
    have hcollapse : collapse (literal text.toList) = literal text.toList :=
      String.ofList_injective (Option.some.inj hdefault)
    rw [hphrase hcollapse] at habsent
    exact ⟨⟨habsent, (untouched_iff (hphrase hcollapse)).1 huntouched⟩, hcollapse⟩
  · rintro ⟨⟨habsent, hfresh⟩, hcollapse⟩
    rw [← untouched_iff (hphrase hcollapse)] at hfresh
    rw [← hphrase hcollapse] at habsent
    refine ⟨_, takeApart?_literalPhrase hq hfresh habsent, rfl, ?_, rfl, rfl, rfl, rfl⟩
    rw [hcollapse]

/-! ## Check expressions -/

/-- What stands in front of the opening parenthesis. -/
def clauseFront : List Char := "text check".toList

/-- The phrase of a text column with a check clause. -/
def expressionPhrase (expression : List Char) : List Char :=
  clauseFront ++ '(' :: (expression ++ [')'])

theorem expressionPhrase_eq (expression : List Char) :
    expressionPhrase expression = "text".toList ++ ' ' :: clause expression := by
  simp only [clause, expressionPhrase, List.append_assoc, List.cons_append]
  rfl

theorem toList_expressionPhrase (expression : String) :
    ("text check(" ++ expression ++ ")").toList = expressionPhrase expression.toList := by
  have hfront : "text check(".toList = clauseFront ++ ['('] := by decide
  have hclosing : ")".toList = [')'] := by decide
  rw [toList_around, hfront, hclosing, List.append_assoc]
  rfl

theorem infix_expressionPhrase {key expression : List Char} (hk : key ∈ plainKeywords) :
    key <:+: expressionPhrase expression ↔ key <:+: expression := by
  have hkeys : ∀ k ∈ plainKeywords, k ≠ [] ∧ '(' ∉ k ∧ ')' ∉ k ∧
      occurs k clauseFront = false := by decide
  obtain ⟨hne, hopening, hclosing, hfront⟩ := hkeys key hk
  exact infix_between hne hopening hclosing (occurs_eq_false_iff.1 hfront)

section
variable {expression : List Char} (he : PlainExpression expression)
include he

theorem PlainExpression.tidy : Tidy expression := ⟨he.collapsed, he.nonempty⟩

theorem PlainExpression.lowered : Lowered expression := by
  have hcount : expression.count quote = 0 := List.count_eq_zero_of_not_mem he.unquoted
  exact .of_fixed (by rw [hcount]) he.lower

theorem PlainExpression.tidy_clause : Tidy (clause expression) := by
  have hfront : ∀ c ∈ checkKey ++ ['('], isBlank c = false := forall_mem_of_all (by decide)
  have hclosing : ∀ c ∈ [')'], isBlank c = false := forall_mem_of_all (by decide)
  have hclause := (he.tidy.prepend hfront).append hclosing
  rwa [List.append_assoc checkKey, List.singleton_append] at hclause

theorem PlainExpression.collapse_phrase :
    collapse (expressionPhrase expression) = expressionPhrase expression := by
  rw [expressionPhrase_eq, collapse_append_space tidy_text he.tidy_clause.words_ne_nil,
    he.tidy_clause.collapsed]

theorem PlainExpression.lowered_phrase : Lowered (expressionPhrase expression) := by
  have hfront : Lowered (clauseFront ++ ['(']) := .of_fixed (by decide) (by decide)
  have hclosing : Lowered [')'] := .of_fixed (by decide) (by decide)
  have hphrase := hfront.append (he.lowered.append hclosing)
  rwa [List.append_assoc, List.singleton_append] at hphrase

theorem PlainExpression.takeCheck?_phrase :
    takeCheck? (expressionPhrase expression) =
      some ("text".toList, some (clause expression)) := by
  have hfront : ∀ piece ∈ ["text".toList], Tidy piece ∧ ¬ checkKey <:+: piece := by
    simpa using ⟨tidy_text, occurs_eq_false_iff.1 (by decide : occurs checkKey "text".toList = _)⟩
  have hnothing : overrun expression (joinWords [[]]) = [] := overrun_eq_nil_iff.2 (.inr rfl)
  rw [expressionPhrase_eq]
  exact takeCheck?_joinWords hfront (List.forall_mem_nil _) he.balanced hnothing

/-- **A phrase in which nothing is found** but a clause is cut there. -/
theorem PlainExpression.takeApart?_phrase (h : Untouched (expressionPhrase expression)) :
    takeApart? (expressionPhrase expression) = some
      { dtype := "text", nullability := .null, nullable := true, unique := false, pk := false,
        default := none, check := some (String.ofList (clause expression)) } := by
  have hdefault : takeDefault "text".toList = ("text".toList, none) := by decide
  rw [takeApart?, h.takeModifiers_lowered he.lowered_phrase]
  simp only [he.collapse_phrase, he.takeCheck?_phrase, Option.map_some, assemble, hdefault]
  rfl

end

/-- **An expression is kept** exactly if it holds no keyword but `check` and `default`. -/
theorem expressionKept_iff {expression : String} (he : PlainExpression expression.toList) :
    ExpressionKept expression ↔ ∀ key ∈ plainKeywords, ¬ key <:+: expression.toList := by
  have hresult : ∀ parsed, (parsePhrase ("text check(" ++ expression ++ ")")).result =
      .ok parsed ↔ takeApart? (expressionPhrase expression.toList) = some parsed := fun parsed => by
    rw [result_parsePhrase_eq_ok, toList_expressionPhrase]
  have hkeys : (∀ key ∈ plainKeywords, ¬ key <:+: expression.toList) ↔
      ∀ key ∈ plainKeywords, ¬ key <:+: expressionPhrase expression.toList :=
    forall₂_congr fun key hk => not_congr (infix_expressionPhrase hk).symm
  simp only [ExpressionKept, hresult, ← ofList_clause, hkeys, ← untouched_iff he.collapse_phrase]
  constructor
  · rintro ⟨parsed, h, -, hcheck, -, hunique, hpk, -⟩
    have hfront : "text".toList.count 'l' = 0 := by decide
    refine untouched_of_check he.lowered_phrase h hunique hpk hcheck (Nat.le_of_eq ?_)
    rw [expressionPhrase_eq, List.count_append, List.count_cons_of_ne (by decide), hfront,
      Nat.zero_add]
  · intro h
    exact ⟨_, he.takeApart?_phrase h, rfl, rfl, rfl, rfl, rfl, rfl⟩

/-! ## Both -/

/-- **What stands in a literal or in a check expression is recorded as it was written exactly if no
pass finds its keyword there**, and a literal only if white space in it is in normal form. -/
theorem kept_iff_no_keyword :
    (∀ text : String, quote ∉ text.toList →
      (LiteralKept text ↔
        (∀ key ∈ checkKey :: plainKeywords, ¬ key <:+: text.toList) ∧
          collapse (literal text.toList) = literal text.toList)) ∧
    ∀ expression : String, PlainExpression expression.toList →
      (ExpressionKept expression ↔ ∀ key ∈ plainKeywords, ¬ key <:+: expression.toList) :=
  ⟨fun _ hq => literalKept_iff hq, fun _ he => expressionKept_iff he⟩

/-- Capitals are no keywords between quotes, and `default` and `check` are none in a clause. -/
theorem kept_iff_no_keyword_default :
    quote ∉ "It is a default NOT NULL".toList ∧ LiteralKept "It is a default NOT NULL" ∧
    PlainExpression "a default check(b)".toList ∧ ExpressionKept "a default check(b)" := by
  have hq : quote ∉ "It is a default NOT NULL".toList := by decide +kernel
  have he : PlainExpression "a default check(b)".toList :=
    ⟨by decide +kernel, by decide +kernel, by decide +kernel, by decide +kernel, by decide +kernel⟩
  obtain ⟨hliteral, hexpression⟩ := kept_iff_no_keyword
  exact ⟨hq, (hliteral _ hq).2 ⟨by decide +kernel, by decide +kernel⟩, he,
    (hexpression _ he).2 (by decide +kernel)⟩

/-- A marker in a literal or in a clause is taken out and becomes the column's, and two blanks in a
literal become one. -/
theorem keyword_between_marks :
    (quote ∉ "not null".toList ∧ ¬ LiteralKept "not null") ∧
    (quote ∉ "a  b".toList ∧ ¬ LiteralKept "a  b") ∧
    PlainExpression "x is not null".toList ∧ ¬ ExpressionKept "x is not null" := by
  refine ⟨⟨by decide +kernel, ?_⟩, ⟨by decide +kernel, ?_⟩, ?_, ?_⟩
  · rintro ⟨parsed, hrun, -, hdefault, -⟩
    have hmarked : (parsePhrase ("text default '" ++ "not null" ++ "'")).result = .ok
        { dtype := "text", nullability := .notNull, nullable := false, unique := false, pk := false,
          default := some "''", check := none } := by decide +kernel
    rw [hmarked] at hrun
    cases hrun
    exact absurd hdefault (by decide +kernel)
  · rintro ⟨parsed, hrun, -, hdefault, -⟩
    have hcollapsed : (parsePhrase ("text default '" ++ "a  b" ++ "'")).result = .ok
        { dtype := "text", nullability := .null, nullable := false, unique := false, pk := false,
          default := some "'a b'", check := none } := by decide +kernel
    rw [hcollapsed] at hrun
    cases hrun
    exact absurd hdefault (by decide +kernel)
  · exact ⟨by decide +kernel, by decide +kernel, by decide +kernel, by decide +kernel,
      by decide +kernel⟩
  · rintro ⟨parsed, hrun, -, hcheck, -⟩
    have hmarked : (parsePhrase ("text check(" ++ "x is not null" ++ ")")).result = .ok
        { dtype := "text", nullability := .notNull, nullable := false, unique := false, pk := false,
          default := none, check := some "check(x is )" } := by decide +kernel
    rw [hmarked] at hrun
    cases hrun
    exact absurd hcheck (by decide +kernel)

end SchemaPhrase.Phrase
