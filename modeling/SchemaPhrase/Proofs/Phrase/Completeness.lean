import SchemaPhrase.Proofs.Phrase.Passes

/-!
# Phrases with modifiers in any order

`parsePhrase_phraseText`: a type text followed by modifiers in any order is taken apart into that
type and those modifiers.

Behind the passes for single keywords the phrase still is pieces joined by single spaces. Three
passes are left: `extractSerial_pieces` exchanges the type, `takeCheck?_pieces` takes out the check
clause whose end the parentheses mark, and `takeDefault_pieces` cuts off the last piece.
-/

set_option autoImplicit false

namespace SchemaPhrase.Phrase

open Text

/-- The type that a type text stands for. -/
def plainType (name : String) : String :=
  if name = "serial" then "integer" else name

theorem TypeText.front_plainType {name : String} (h : TypeText name) : Front (plainType name) := by
  unfold plainType
  split
  · exact front_integer
  · exact h.front

/-- **`serial`** is a type of its own; exchanging it leaves an integer. -/
theorem extractSerial_pieces {name : String} {modifiers : List Modifier} (hname : TypeText name)
    (hM : ∀ modifier ∈ modifiers, modifier.Admissible) :
    extractKeyword "serial".toList "integer".toList (joinWords (pieces name modifiers)) =
      ⟨joinWords (pieces (plainType name) modifiers), decide (name = "serial")⟩ := by
  have hmodifiers : ∀ piece ∈ modifierTexts modifiers,
      Piece piece ∧ ¬ "serial".toList <:+: piece := fun piece hp =>
    ⟨piece_of_mem_modifierTexts hM hp, fresh_of_mem_modifierTexts hM (by decide)
      (fun modifier _ => (keyword_mem modifier).2) hp⟩
  by_cases hserial : name = "serial"
  · subst hserial
    have hreplace : replaceAll "serial".toList "integer".toList
        (joinWords (pieces "serial" modifiers)) = joinWords (pieces "integer" modifiers) :=
      replaceAll_pieces "integer".toList (by decide) (List.forall_mem_nil _) hmodifiers
    have hinfix : "serial".toList <:+: joinWords (pieces "serial" modifiers) :=
      ⟨[], _, (joinWords_around [] "serial".toList (modifierTexts modifiers)).symm⟩
    rw [extractKeyword_present _ (by decide) (occurs_iff.2 hinfix), hreplace,
      collapse_joinWords_tidy fun _ hp => (piece_of_mem_pieces front_integer hM hp).tidy]
    rfl
  · have habsent : ¬ "serial".toList <:+: joinWords (pieces name modifiers) := by
      refine not_infix_joinWords (by decide) (by decide) fun piece hp => ?_
      rcases List.mem_cons.1 hp with rfl | hp
      · exact hname.fresh (by decide) fun h => absurd h hserial
      · exact (hmodifiers piece hp).2
    rw [extractKeyword_absent _ (occurs_eq_false_iff.2 habsent), plainType, if_neg hserial,
      decide_eq_false hserial]

/-! ## The check clause and the default -/

theorem text_check_eq_clause (expression : String) :
    (Modifier.check expression).text.toList = clause expression.toList := by
  simp [Modifier.text_check, clause, checkKey]

theorem ofList_clause (expression : String) :
    String.ofList (clause expression.toList) = "check(" ++ expression ++ ")" := by
  rw [← text_check_eq_clause, String.ofList_toList]
  rfl

theorem eq_check {modifier : Modifier} (h : modifier.keyword = checkKey) :
    ∃ expression, modifier = .check expression := by
  have hbare : ∀ m ∈ bareModifiers, m.keyword ≠ checkKey := by decide
  have hdefault : "default".toList ≠ checkKey := by decide
  rcases bare_or_valued modifier with hm | ⟨value, rfl⟩ | hm
  · exact absurd h (hbare _ hm)
  · exact absurd h hdefault
  · exact hm

/-- Modifiers behind a check clause do not get into the way of its last parenthesis. -/
theorem parenless_behind_check {expression : String} {after : List Modifier}
    (horder : ∀ modifier ∈ after, Modifier.MayPrecede (.check expression) modifier)
    (hother : ∀ modifier ∈ after, modifier.keyword ≠ checkKey)
    (he : ¬ Parenless expression.toList) :
    Parenless (joinWords ([] :: modifierTexts after)) := by
  refine parenless_joinWords fun piece hp => ?_
  rcases List.mem_cons.1 hp with rfl | hp
  · exact parenless_nil
  · obtain ⟨modifier, hm, rfl⟩ := List.mem_map.1 hp
    cases modifier with
    | unique => decide
    | null => decide
    | notNull => decide
    | primaryKey => decide
    | default value =>
      rw [Modifier.text_default, parenless_append, parenless_cons]
      exact ⟨by decide, by decide, (horder _ hm).resolve_left he⟩
    | check other => exact absurd rfl (hother _ hm)

theorem tidy_of_mem_pieces {name : String} {modifiers : List Modifier} (hname : Front name)
    (hM : ∀ modifier ∈ modifiers, modifier.Admissible)
    (hother : ∀ modifier ∈ modifiers, modifier.keyword ≠ checkKey) :
    ∀ piece ∈ pieces name modifiers, Tidy piece ∧ ¬ checkKey <:+: piece := fun _ hp =>
  ⟨(piece_of_mem_pieces hname hM hp).tidy,
    fresh_of_mem_pieces hname hM (by decide) hother (by decide) hp⟩

section
variable {name : String} {modifiers : List Modifier} (hname : Front name)
  (hM : Arrangement modifiers)
include hname hM

/-- **The check clause** is found exactly if it is listed, and taken out. -/
theorem takeCheck?_pieces :
    ∃ found, takeCheck? (joinWords (pieces name modifiers)) =
        some (joinWords (pieces name (modifiers.filter (·.keyword ≠ checkKey))), found) ∧
      ∀ text, found.map String.ofList = some text ↔
        ∃ expression, .check expression ∈ modifiers ∧ text = "check(" ++ expression ++ ")" := by
  by_cases hcheck : ∃ expression, .check expression ∈ modifiers
  · obtain ⟨expression, hm⟩ := hcheck
    -- no other piece holds `check`, so the first one that is found opens the clause
    have hbalanced : Balanced expression.toList := (hM.admissible _ hm).2.1
    obtain ⟨before, after, hmodifiers, hfilter, hadmissible, hother⟩ := hM.split hm
    have horder : ∀ m ∈ after, Modifier.MayPrecede (.check expression) m :=
      (List.pairwise_cons.1 (List.pairwise_append.1 (hmodifiers ▸ hM.order)).2.1).1
    have hnothing : overrun expression.toList (joinWords ([] :: modifierTexts after)) = [] := by
      refine overrun_eq_nil_iff.2 (or_iff_not_imp_left.2 fun hp => ?_)
      exact throughLastPair?_of_parenless true (parenless_behind_check horder
        (fun m hm => hother m (List.mem_append_right _ hm)) hp)
    have hpieces := List.forall_mem_append.1 (pieces_append name before after ▸
      tidy_of_mem_pieces hname hadmissible hother)
    refine ⟨some (clause expression.toList), ?_, fun text => ?_⟩
    · have htext : pieces name modifiers =
          pieces name before ++ clause expression.toList :: modifierTexts after := by
        rw [hmodifiers, pieces_append, ← text_check_eq_clause]
        rfl
      have hrest : modifiers.filter (·.keyword ≠ checkKey) = before ++ after := hfilter
      rw [htext, hrest, pieces_append]
      exact takeCheck?_joinWords hpieces.1 hpieces.2 hbalanced hnothing
    · rw [Option.map_some, ofList_clause, Option.some.injEq]
      constructor
      · intro h
        exact ⟨expression, hm, h.symm⟩
      · rintro ⟨other, ho, h⟩
        obtain rfl := Modifier.check.inj (hM.eq_of_keyword ho hm rfl)
        exact h.symm
  · have hother : ∀ modifier ∈ modifiers, modifier.keyword ≠ checkKey := fun modifier hm he => by
      obtain ⟨expression, rfl⟩ := eq_check he
      exact hcheck ⟨expression, hm⟩
    have habsent := not_infix_pieces hname hM.admissible (by decide) hother (by decide)
    refine ⟨none, ?_, fun text => ⟨fun h => by simp at h, ?_⟩⟩
    · rw [takeCheck?, if_neg (by rwa [occurs_iff]), List.filter_eq_self.2 (by simpa using hother)]
    · rintro ⟨expression, hm, -⟩
      exact absurd ⟨expression, hm⟩ hcheck

/-- **The default** is what stands behind the type, if anything does. -/
theorem takeDefault_pieces (honly : ∀ m ∈ modifiers, ∃ value, m = .default value) :
    ∃ found, takeDefault (joinWords (pieces name modifiers)) = (name.toList, found) ∧
      ∀ text, found.map String.ofList = some text ↔ .default text ∈ modifiers := by
  have hfresh : ¬ "default".toList <:+: name.toList := hname.fresh _ (by decide) (by decide)
  cases modifiers with
  | nil =>
    refine ⟨none, ?_, fun text => by simp⟩
    exact takeDefault_absent hfresh
  | cons modifier others =>
    obtain ⟨value, rfl⟩ := honly modifier List.mem_cons_self
    have hothers : others = [] := by
      refine List.eq_nil_iff_forall_not_mem.2 fun other ho => ?_
      obtain ⟨next, rfl⟩ := honly other (List.mem_cons_of_mem _ ho)
      have hnodup := List.nodup_cons.1 hM.distinct
      exact hnodup.1 (List.mem_map.2 ⟨_, ho, rfl⟩)
    subst hothers
    obtain ⟨hne, -, hcollapse, -⟩ := hM.admissible _ List.mem_cons_self
    refine ⟨some value.toList, ?_, fun text => ?_⟩
    · show takeDefault (name.toList ++ ' ' :: (Modifier.default value).text.toList) = _
      rw [Modifier.text_default]
      exact takeDefault_of_fresh hname.piece.tidy ⟨hcollapse, hne⟩ hfresh
    · simp [eq_comm]

end

/-! ## All passes -/

theorem keyword_ne_iff (modifier : Modifier) :
    modifier.keyword ≠ "null".toList ∧ modifier.keyword ≠ "unique".toList ∧
      modifier.keyword ≠ "primary key".toList ↔ modifier ∉ bareModifiers := by
  have hbare : ∀ m ∈ bareModifiers, m.keyword = "null".toList ∨ m.keyword = "unique".toList ∨
      m.keyword = "primary key".toList := by decide
  constructor
  · rintro ⟨hnull, hunique, hpk⟩ hm
    rcases hbare _ hm with h | h | h
    · exact hnull h
    · exact hunique h
    · exact hpk h
  · intro h
    have hvalued : ∀ key ∈ ["default".toList, checkKey], key ≠ "null".toList ∧
        key ≠ "unique".toList ∧ key ≠ "primary key".toList := by decide
    rcases bare_or_valued modifier with hm | ⟨value, rfl⟩ | ⟨expression, rfl⟩
    · exact absurd hm h
    · exact hvalued "default".toList (by decide)
    · exact hvalued checkKey (by decide)

theorem takeModifiers_pieces {name : String} {modifiers : List Modifier} (hname : TypeText name)
    (hM : Arrangement modifiers) :
    ∃ left, left.Sublist modifiers ∧
      (∀ modifier, modifier ∈ left ↔ modifier ∈ modifiers ∧ modifier ∉ bareModifiers) ∧
      takeModifiers (joinWords (pieces name modifiers)) =
        { rest := joinWords (pieces (plainType name) left)
          nullability := if .notNull ∈ modifiers then .notNull else .null
          unique := decide (.unique ∈ modifiers)
          pk := decide (.primaryKey ∈ modifiers)
          serial := decide (name = "serial") } := by
  obtain ⟨marked, hmarked⟩ : ∃ marked, marked = modifiers.filter (·.keyword ≠ "null".toList) :=
    ⟨_, rfl⟩
  obtain ⟨others, hothers⟩ : ∃ others, others = marked.filter (·.keyword ≠ "unique".toList) :=
    ⟨_, rfl⟩
  obtain ⟨left, hleft⟩ : ∃ left, left = others.filter (·.keyword ≠ "primary key".toList) :=
    ⟨_, rfl⟩
  have hsub₁ : marked.Sublist modifiers := hmarked ▸ List.filter_sublist
  have hsub₂ : others.Sublist modifiers := (hothers ▸ List.filter_sublist).trans hsub₁
  have hsub₃ : left.Sublist modifiers := (hleft ▸ List.filter_sublist).trans hsub₂
  refine ⟨left, hsub₃, fun modifier => ?_, ?_⟩
  · rw [← keyword_ne_iff, hleft, hothers, hmarked]
    simp only [List.mem_filter, decide_eq_true_eq, and_assoc]
  · have hsplit : splitNullability (joinWords (pieces name modifiers)) =
        (joinWords (pieces name marked), if .notNull ∈ modifiers then .notNull else .null) :=
      hmarked ▸ splitNullability_pieces hname.front hM
    have hunique : extractKeyword "unique".toList [] (joinWords (pieces name marked)) =
        ⟨joinWords (pieces name others), decide (.unique ∈ marked)⟩ :=
      hothers ▸ extractKeyword_pieces hname.front (hM.sublist hsub₁) (.inl rfl)
    have hpk : extractKeyword "primary key".toList [] (joinWords (pieces name others)) =
        ⟨joinWords (pieces name left), decide (.primaryKey ∈ others)⟩ :=
      hleft ▸ extractKeyword_pieces hname.front (hM.sublist hsub₂) (.inr rfl)
    have hserial := extractSerial_pieces hname (hM.sublist hsub₃).admissible
    have hmarks : Modifier.unique.keyword ≠ "null".toList ∧
        Modifier.primaryKey.keyword ≠ "null".toList ∧
        Modifier.primaryKey.keyword ≠ "unique".toList := by decide
    have hmarkedUnique : .unique ∈ marked ↔ .unique ∈ modifiers := by
      rw [hmarked, List.mem_filter, and_iff_left (decide_eq_true hmarks.1)]
    have hothersPk : .primaryKey ∈ others ↔ .primaryKey ∈ modifiers := by
      rw [hothers, List.mem_filter, and_iff_left (decide_eq_true hmarks.2.2), hmarked,
        List.mem_filter, and_iff_left (decide_eq_true hmarks.2.1)]
    simp only [takeModifiers, hsplit, hunique, hpk, hserial, hmarkedUnique, hothersPk]

/-- **What the passes find** is what the phrase says. A default, a serial type and a key each make
the column non-null. -/
theorem outcome_of_found {name : String} {modifiers : List Modifier}
    {default check : Option String}
    (hdefault : ∀ text, default = some text ↔ .default text ∈ modifiers)
    (hcheck : ∀ text, check = some text ↔
      ∃ expression, .check expression ∈ modifiers ∧ text = "check(" ++ expression ++ ")") :
    Outcome name modifiers
      { dtype := plainType name
        nullability := if .notNull ∈ modifiers then .notNull else .null
        nullable := (default.or (if name = "serial" then some serialDefault else none)).isNone &&
          !decide (.primaryKey ∈ modifiers) &&
          (if .notNull ∈ modifiers then Nullability.notNull else .null).isNullable
        unique := decide (.unique ∈ modifiers)
        pk := decide (.primaryKey ∈ modifiers)
        default := default.or (if name = "serial" then some serialDefault else none)
        check } := by
  have hnone : (∀ value, .default value ∉ modifiers) ↔ ∀ value, default ≠ some value :=
    forall_congr' fun value => not_congr (hdefault value).symm
  refine ⟨rfl, decide_eq_true_iff, decide_eq_true_iff, by simp, hcheck, fun text => ?_, ?_⟩
  · show default.or _ = some text ↔ _
    rw [← hdefault, hnone]
    cases default with
    | none => by_cases hserial : name = "serial" <;> simp [hserial, eq_comm]
    | some value => simp
  · show (_ && _ && _) = true ↔ _
    have hmark : (if .notNull ∈ modifiers then Nullability.notNull else .null).isNullable = true ↔
        .notNull ∉ modifiers := by
      split <;> simp_all [Nullability.isNullable]
    rw [Bool.and_eq_true, Bool.and_eq_true, hmark, hnone]
    cases default with
    | none => by_cases hserial : name = "serial" <;> simp [hserial, and_comm]
    | some value => simp

theorem parsePhrase_outcome {name : String} {modifiers : List Modifier} (hname : TypeText name)
    (hM : Arrangement modifiers) :
    ∃ parsed, (parsePhrase (phraseText name modifiers)).result = .ok parsed ∧
      Outcome name modifiers parsed := by
  obtain ⟨left, hsub, hleft, htake⟩ := takeModifiers_pieces hname hM
  have hfront := hname.front_plainType
  obtain ⟨check, htakeCheck, hcheck⟩ := takeCheck?_pieces hfront (hM.sublist hsub)
  have hdefaults : ∀ m ∈ left.filter (·.keyword ≠ checkKey), ∃ value, m = .default value := by
    intro m hm
    obtain ⟨hml, hkey⟩ := List.mem_filter.1 hm
    rcases bare_or_valued m with h | h | ⟨expression, rfl⟩
    · exact absurd h ((hleft m).1 hml).2
    · exact h
    · exact absurd rfl (of_decide_eq_true hkey)
  obtain ⟨default, htakeDefault, hdefault⟩ :=
    takeDefault_pieces hfront (hM.sublist (List.filter_sublist.trans hsub)) hdefaults
  have hvalued : ∀ text, .check text ∉ bareModifiers ∧ .default text ∉ bareModifiers := fun text =>
    ⟨by simp [bareModifiers], by simp [bareModifiers]⟩
  have hkey : ∀ value, (Modifier.default value).keyword ≠ checkKey := fun value =>
    show "default".toList ≠ checkKey by decide
  have hcheckLeft : ∀ expression, .check expression ∈ left ↔ .check expression ∈ modifiers := by
    intro expression
    rw [hleft, and_iff_left (hvalued _).1]
  have hdefaultLeft : ∀ value, .default value ∈ left.filter (·.keyword ≠ checkKey) ↔
      .default value ∈ modifiers := by
    intro value
    rw [List.mem_filter, and_iff_left (decide_eq_true (hkey value)), hleft,
      and_iff_left (hvalued _).2]
  simp only [hcheckLeft] at hcheck
  simp only [hdefaultLeft] at hdefault
  refine ⟨_, result_parsePhrase_eq_ok.2 ?_, outcome_of_found hdefault hcheck⟩
  rw [takeApart?, phraseText_toList]
  simp only [htake, htakeCheck, Option.map_some, assemble, htakeDefault, String.ofList_toList,
    decide_eq_true_eq]

/-! ## The order of the modifiers -/

/-- **Completeness and independence of the order.** A type text with modifiers behind it is taken
apart into what they say, and any other order of the same modifiers gives the same parsed phrase. -/
theorem parsePhrase_phraseText {name : String} {modifiers : List Modifier} (hname : TypeText name)
    (hM : Arrangement modifiers) :
    ∃ parsed, (parsePhrase (phraseText name modifiers)).result = .ok parsed ∧
      Outcome name modifiers parsed ∧
      ∀ others, Arrangement others → others.Perm modifiers →
        (parsePhrase (phraseText name others)).result = .ok parsed := by
  obtain ⟨parsed, hparsed, houtcome⟩ := parsePhrase_outcome hname hM
  refine ⟨parsed, hparsed, houtcome, fun others hO hperm => ?_⟩
  obtain ⟨other, hother, hsame⟩ := parsePhrase_outcome hname hO
  rw [hother, (hsame.perm hperm).eq houtcome]

/-- A phrase in which the check clause and the default both have parentheses. -/
theorem parsePhrase_phraseText_timestamp :
    TypeText "timestamp( 3 ) with time zone" ∧
    Arrangement [.default "now()", .primaryKey, .check "at in (1, 2)", .notNull, .unique] ∧
    ∃ parsed, (parsePhrase (phraseText "timestamp( 3 ) with time zone"
        [.default "now()", .primaryKey, .check "at in (1, 2)", .notNull, .unique])).result =
          .ok parsed ∧
      Outcome "timestamp( 3 ) with time zone"
        [.default "now()", .primaryKey, .check "at in (1, 2)", .notNull, .unique] parsed ∧
      ∀ others, Arrangement others →
        others.Perm [.default "now()", .primaryKey, .check "at in (1, 2)", .notNull, .unique] →
        (parsePhrase (phraseText "timestamp( 3 ) with time zone" others)).result = .ok parsed := by
  have hname : TypeText "timestamp( 3 ) with time zone" :=
    .inr ⟨"timestamp (3) with time zone", .timestamp 3 true, by decide +kernel, by decide +kernel⟩
  have hvalue : Modifier.Admissible (.default "now()") :=
    ⟨by decide, by decide, by decide +kernel, by decide +kernel, by decide, by decide +kernel⟩
  have hexpression : Modifier.Admissible (.check "at in (1, 2)") :=
    ⟨by decide +kernel, by decide, by decide +kernel, by decide, by decide +kernel⟩
  have hM : Arrangement
      [.default "now()", .primaryKey, .check "at in (1, 2)", .notNull, .unique] := by
    refine ⟨?_, by decide, ?_⟩
    · simp only [List.forall_mem_cons]
      exact ⟨hvalue, trivial, hexpression, trivial, trivial, List.forall_mem_nil _⟩
    · simp [Modifier.MayPrecede]
  exact ⟨hname, hM, parsePhrase_phraseText hname hM⟩

end SchemaPhrase.Phrase
