import Mathlib.Data.List.Nodup
import SchemaPhrase.Proofs.Phrase.Grammar

/-!
# Passes over the pieces of a phrase

A phrase of the grammar is pieces joined by single spaces (`pieces`), and the passes that look for
modifiers without a value each take out one piece:

- `splitNullability_pieces`: the nullability marker;
- `extractKeyword_pieces`: `unique` and `primary key`.

What a pass needs of the text is that its keyword stands in no piece but one (`not_infix_pieces`,
`replaceAll_bare`). What it leaves are pieces again, so the next pass finds the same.
-/

set_option autoImplicit false

namespace SchemaPhrase.Phrase

open Text

/-- The texts of some modifiers. -/
def modifierTexts (modifiers : List Modifier) : List (List Char) :=
  modifiers.map fun modifier => modifier.text.toList

/-- The type text and the texts of the modifiers. -/
def pieces (name : String) (modifiers : List Modifier) : List (List Char) :=
  name.toList :: modifierTexts modifiers

theorem toList_intercalate_space (texts : List String) :
    (" ".intercalate texts).toList = joinWords (texts.map String.toList) := by
  induction texts with
  | nil => simp [joinWords]
  | cons text texts ih =>
    cases texts with
    | nil => simp
    | cons next texts =>
      rw [List.map_cons, joinWords_cons _ (by simp), ← ih]
      simp

theorem phraseText_toList (name : String) (modifiers : List Modifier) :
    (phraseText name modifiers).toList = joinWords (pieces name modifiers) := by
  rw [phraseText, toList_intercalate_space, List.map_cons, List.map_map]
  rfl

/-- A type text as the passes see it: a piece without any keyword but `serial`. -/
structure Front (name : String) : Prop where
  piece : Piece name.toList
  fresh : ∀ key ∈ keywords, key ≠ "serial".toList → ¬ key <:+: name.toList

theorem TypeText.front {name : String} (h : TypeText name) : Front name :=
  ⟨h.piece, fun _ hkey hserial => h.fresh hkey fun _ => hserial⟩

theorem front_integer : Front "integer" := by
  refine ⟨piece_of_fixed (by decide), fun key hkey _ => ?_⟩
  have hne : ∀ k ∈ keywords, [] ≠ k := by decide
  exact not_infix_fixed (by decide) hkey (hne key hkey)

/-! ## Modifiers and their pieces -/

/-- The modifiers other than one of them, in front of it and behind it. -/
theorem Arrangement.split {modifiers : List Modifier} (hM : Arrangement modifiers)
    {modifier : Modifier} (h : modifier ∈ modifiers) :
    ∃ before after, modifiers = before ++ modifier :: after ∧
      modifiers.filter (·.keyword ≠ modifier.keyword) = before ++ after ∧
      (∀ other ∈ before ++ after, other.Admissible) ∧
      ∀ other ∈ before ++ after, other.keyword ≠ modifier.keyword := by
  obtain ⟨before, after, rfl⟩ := List.append_of_mem h
  have hdistinct := hM.distinct
  rw [List.map_append, List.map_cons, List.nodup_middle, List.nodup_cons] at hdistinct
  have hother : ∀ other ∈ before ++ after, other.keyword ≠ modifier.keyword := by
    intro other ho he
    exact hdistinct.1 (by rw [← List.map_append, ← he]; exact List.mem_map_of_mem ho)
  refine ⟨before, after, rfl, ?_, fun other ho => ?_, hother⟩
  · rw [List.filter_append, List.filter_cons_of_neg (by simp), ← List.filter_append,
      List.filter_eq_self]
    simpa using hother
  · exact hM.admissible other (List.Sublist.subset (by simp) ho)

theorem Arrangement.eq_of_keyword {modifiers : List Modifier} (hM : Arrangement modifiers)
    {modifier other : Modifier} (hm : modifier ∈ modifiers) (ho : other ∈ modifiers)
    (h : modifier.keyword = other.keyword) : modifier = other :=
  List.inj_on_of_nodup_map hM.distinct hm ho h

theorem pieces_append (name : String) (before after : List Modifier) :
    pieces name (before ++ after) = pieces name before ++ modifierTexts after := by
  simp [pieces, modifierTexts]

section
variable {name : String} {modifiers : List Modifier} (hname : Front name)
  (hM : ∀ modifier ∈ modifiers, modifier.Admissible)

include hM in
theorem piece_of_mem_modifierTexts {piece : List Char} (h : piece ∈ modifierTexts modifiers) :
    Piece piece := by
  obtain ⟨modifier, hm, rfl⟩ := List.mem_map.1 h
  exact (hM modifier hm).piece

include hname hM in
theorem piece_of_mem_pieces {piece : List Char} (h : piece ∈ pieces name modifiers) :
    Piece piece := by
  rcases List.mem_cons.1 h with rfl | h
  · exact hname.piece
  · exact piece_of_mem_modifierTexts hM h

variable {key : List Char} (hkey : key ∈ keywords)
  (hother : ∀ modifier ∈ modifiers, modifier.keyword ≠ key)

include hM hkey hother in
theorem fresh_of_mem_modifierTexts {piece : List Char} (h : piece ∈ modifierTexts modifiers) :
    ¬ key <:+: piece := by
  obtain ⟨modifier, hm, rfl⟩ := List.mem_map.1 h
  exact (hM modifier hm).fresh hkey (hother modifier hm)

include hname hM hkey hother in
theorem fresh_of_mem_pieces (hserial : key ≠ "serial".toList) {piece : List Char}
    (h : piece ∈ pieces name modifiers) : ¬ key <:+: piece := by
  rcases List.mem_cons.1 h with rfl | h
  · exact hname.fresh key hkey hserial
  · exact fresh_of_mem_modifierTexts hM hkey hother h

include hname hM hkey hother in
theorem not_infix_pieces (hserial : key ≠ "serial".toList) :
    ¬ key <:+: joinWords (pieces name modifiers) := by
  refine not_infix_joinWords_of_pieces (List.mem_cons_of_mem _ hkey)
    (fun piece hp => fresh_of_mem_pieces hname hM hkey hother hserial hp) fun piece hp => ?_
  have hpiece := piece_of_mem_pieces hname hM hp
  exact ⟨hpiece.not_suffix, hpiece.no_key_front⟩

end

/-! ## Taking out a modifier without a value -/

/-- The modifiers whose texts are nothing but keywords. -/
def bareModifiers : List Modifier := [.unique, .null, .notNull, .primaryKey]

theorem bare_or_valued (modifier : Modifier) :
    modifier ∈ bareModifiers ∨ (∃ value, modifier = .default value) ∨
      ∃ expression, modifier = .check expression := by
  cases modifier with
  | unique => exact .inl (by decide)
  | null => exact .inl (by decide)
  | notNull => exact .inl (by decide)
  | primaryKey => exact .inl (by decide)
  | default value => exact .inr (.inl ⟨value, rfl⟩)
  | check expression => exact .inr (.inr ⟨expression, rfl⟩)

theorem bare_of_keyword {modifier : Modifier} (hd : modifier.keyword ≠ "default".toList)
    (hc : modifier.keyword ≠ checkKey) : modifier ∈ bareModifiers := by
  rcases bare_or_valued modifier with h | ⟨value, rfl⟩ | ⟨expression, rfl⟩
  · exact h
  · exact absurd rfl hd
  · exact absurd rfl hc

/-- **`unique` and `primary key`** are known by keywords that no other modifier has. -/
theorem eq_of_keyword_eq {modifier other : Modifier}
    (hm : modifier = .unique ∨ modifier = .primaryKey) (h : other.keyword = modifier.keyword) :
    other = modifier := by
  have hall : ∀ m ∈ [Modifier.unique, .primaryKey], m.keyword ≠ "default".toList ∧
      m.keyword ≠ checkKey ∧ ∀ o ∈ bareModifiers, o.keyword = m.keyword → o = m := by decide
  obtain ⟨hd, hc, ho⟩ := hall modifier (by simpa using hm)
  exact ho _ (bare_of_keyword (h ▸ hd) (h ▸ hc)) h

theorem keyword_mem (modifier : Modifier) :
    modifier.keyword ∈ keywords ∧ modifier.keyword ≠ "serial".toList := by
  have hbare : ∀ m ∈ bareModifiers, m.keyword ∈ keywords ∧ m.keyword ≠ "serial".toList := by decide
  have hvalued : ∀ key ∈ ["default".toList, checkKey], key ∈ keywords ∧ key ≠ "serial".toList := by
    decide
  rcases bare_or_valued modifier with h | ⟨value, rfl⟩ | ⟨expression, rfl⟩
  · exact hbare _ h
  · exact hvalued "default".toList (by decide)
  · exact hvalued checkKey (by decide)

theorem keyword_infix_text (modifier : Modifier) :
    modifier.keyword <:+: modifier.text.toList := by
  cases modifier with
  | unique => exact List.infix_rfl
  | null => exact List.infix_rfl
  | notNull => exact (List.suffix_append "not ".toList _).isInfix
  | primaryKey => exact List.infix_rfl
  | default value => exact Modifier.text_default value ▸ (List.prefix_append _ _).isInfix
  | check expression => exact Modifier.text_check expression ▸ (List.prefix_append _ _).isInfix

section
variable {name : String} {before after : List Modifier} (hname : Front name)
  (hM : ∀ modifier ∈ before ++ after, modifier.Admissible)
include hname hM

/-- **The text of a bare modifier** is exchanged where the modifier stands, and nowhere else. -/
theorem replaceAll_bare {modifier : Modifier} (hbare : modifier ∈ bareModifiers)
    (hother : ∀ other ∈ before ++ after, other.keyword ≠ modifier.keyword) :
    replaceAll modifier.text.toList []
        (joinWords (pieces name (before ++ modifier :: after))) =
      joinWords (pieces name before ++ [] :: modifierTexts after) := by
  obtain ⟨hkey, hserial⟩ := keyword_mem modifier
  have htexts : ∀ m ∈ bareModifiers, m.text.toList ∈ "not null".toList :: keywords := by decide
  obtain ⟨hb, ha⟩ := List.forall_mem_append.1 hM
  obtain ⟨hotherb, hothera⟩ := List.forall_mem_append.1 hother
  rw [pieces_append]
  refine replaceAll_pieces [] (htexts _ hbare) (fun piece hp => ?_) fun piece hp => ?_
  · refine ⟨piece_of_mem_pieces hname hb hp, fun hi => ?_⟩
    exact fresh_of_mem_pieces hname hb hkey hotherb hserial hp
      ((keyword_infix_text modifier).trans hi)
  · refine ⟨piece_of_mem_modifierTexts ha hp, fun hi => ?_⟩
    exact fresh_of_mem_modifierTexts ha hkey hothera hp ((keyword_infix_text modifier).trans hi)

/-- The blanks that a modifier leaves behind go with the next collapse. -/
theorem collapse_gap :
    collapse (joinWords (pieces name before ++ [] :: modifierTexts after)) =
      joinWords (pieces name (before ++ after)) := by
  obtain ⟨hb, ha⟩ := List.forall_mem_append.1 hM
  rw [pieces_append]
  refine collapse_joinWords_gap (fun piece hp => ?_) fun piece hp => ?_
  · exact (piece_of_mem_pieces hname hb hp).tidy
  · exact (piece_of_mem_modifierTexts ha hp).tidy

end

theorem text_infix_pieces (name : String) (before : List Modifier) (modifier : Modifier)
    (after : List Modifier) :
    modifier.text.toList <:+: joinWords (pieces name (before ++ modifier :: after)) := by
  rw [pieces_append]
  exact ⟨_, _, (joinWords_around _ _ (modifierTexts after)).symm⟩

section
variable {name : String} {modifiers : List Modifier} (hname : Front name)
  (hM : Arrangement modifiers)
include hname hM

/-- **`unique` and `primary key`** are found exactly if they are listed, and taken out. -/
theorem extractKeyword_pieces {modifier : Modifier}
    (hone : modifier = .unique ∨ modifier = .primaryKey) :
    extractKeyword modifier.keyword [] (joinWords (pieces name modifiers)) =
      ⟨joinWords (pieces name (modifiers.filter (·.keyword ≠ modifier.keyword))),
        decide (modifier ∈ modifiers)⟩ := by
  obtain ⟨hkey, hserial⟩ := keyword_mem modifier
  have hall : ∀ m ∈ [Modifier.unique, .primaryKey], m ∈ bareModifiers ∧
      m.text.toList = m.keyword := by decide
  obtain ⟨hbare, hown⟩ := hall modifier (by simpa using hone)
  by_cases hm : modifier ∈ modifiers
  · obtain ⟨before, after, rfl, hfilter, hadmissible, hother⟩ := hM.split hm
    have hinfix := text_infix_pieces name before modifier after
    rw [hown] at hinfix
    have hne : modifier.keyword ≠ [] := by
      have hall : ∀ k ∈ keywords, k ≠ [] := by decide
      exact hall _ hkey
    rw [hfilter, extractKeyword_present [] hne (occurs_iff.2 hinfix), ← hown,
      replaceAll_bare hname hadmissible hbare hother, collapse_gap hname hadmissible]
    simp
  · have hother : ∀ other ∈ modifiers, other.keyword ≠ modifier.keyword := fun other ho he =>
      hm (eq_of_keyword_eq hone he ▸ ho)
    have habsent := not_infix_pieces hname hM.admissible hkey hother hserial
    rw [extractKeyword_absent [] (occurs_eq_false_iff.2 habsent),
      List.filter_eq_self.2 (by simpa using hother)]
    simp [hm]

end

/-! ## Nullability -/

theorem take_absent {marker found : Nullability} {text : List Char}
    (h : ¬ marker.text.toList <:+: text) : marker.take (text, found) = (text, found) := by
  rw [Nullability.take, if_neg (by rwa [occurs_iff])]

theorem take_present {marker : Nullability} (found : Nullability) {text : List Char}
    (h : marker.text.toList <:+: text) :
    marker.take (text, found) = (replaceAll marker.text.toList [] text, marker) := by
  rw [Nullability.take, if_pos (occurs_iff.2 h)]

section
variable {name : String} {before after : List Modifier} (hname : Front name)
  (hM : ∀ modifier ∈ before ++ after, modifier.Admissible)
  (hother : ∀ modifier ∈ before ++ after, modifier.keyword ≠ "null".toList)
include hname hM hother

/-- Behind a marker taken out there is no second one. -/
theorem not_infix_gap :
    ¬ "null".toList <:+: joinWords (pieces name before ++ [] :: modifierTexts after) := by
  obtain ⟨hb, ha⟩ := List.forall_mem_append.1 hM
  obtain ⟨hotherb, hothera⟩ := List.forall_mem_append.1 hother
  refine not_infix_joinWords (by decide) (by decide) fun piece hp => ?_
  rcases List.mem_append.1 hp with hp | hp
  · exact fresh_of_mem_pieces hname hb (by decide) hotherb (by decide) hp
  · rcases List.mem_cons.1 hp with rfl | hp
    · decide
    · exact fresh_of_mem_modifierTexts ha (by decide) hothera hp

theorem take_listed (marker : Nullability) {modifier : Modifier}
    (htext : marker.text = modifier.text) (hkey : modifier.keyword = "null".toList)
    (hbare : modifier ∈ bareModifiers) (found : Nullability) :
    marker.take (joinWords (pieces name (before ++ modifier :: after)), found) =
      (joinWords (pieces name before ++ [] :: modifierTexts after), marker) := by
  have hinfix : marker.text.toList <:+: joinWords (pieces name (before ++ modifier :: after)) :=
    htext ▸ text_infix_pieces name before modifier after
  rw [take_present found hinfix, htext, replaceAll_bare hname hM hbare (hkey ▸ hother)]

end

section
variable {name : String} {modifiers : List Modifier} (hname : Front name)
  (hM : Arrangement modifiers)

theorem eq_null_or_notNull {modifier : Modifier} (h : modifier.keyword = "null".toList) :
    modifier = .null ∨ modifier = .notNull := by
  have hall : ∀ m ∈ bareModifiers, m.keyword = "null".toList → m = .null ∨ m = .notNull := by
    decide
  exact hall _ (bare_of_keyword (by rw [h]; decide) (by rw [h]; decide)) h

include hname hM

/-- `not null` is not made up of pieces. -/
theorem not_infix_notNull (h : .notNull ∉ modifiers) :
    ¬ "not null".toList <:+: joinWords (pieces name modifiers) := by
  refine not_infix_joinWords_of_pieces (by decide) (fun piece hp hi => ?_) fun piece hp => ?_
  · have hnull : "null".toList <:+: piece :=
      (List.suffix_append "not ".toList _).isInfix.trans hi
    rcases List.mem_cons.1 hp with rfl | hp
    · exact hname.fresh _ (by decide) (by decide) hnull
    · obtain ⟨modifier, hm, rfl⟩ := List.mem_map.1 hp
      by_cases hkey : modifier.keyword = "null".toList
      · rcases eq_null_or_notNull hkey with rfl | rfl
        · have hnot : ¬ "not null".toList <:+: "null".toList :=
            not_infix_of_notMem (by decide : 'o' ∈ "not null".toList) (by decide)
          exact hnot hi
        · exact h hm
      · exact (hM.admissible modifier hm).fresh (by decide) hkey hnull
  · have hpiece := piece_of_mem_pieces hname hM.admissible hp
    exact ⟨hpiece.not_suffix, hpiece.no_key_front⟩

/-- **The nullability markers** are taken out; `not null` holds exactly if it is listed. -/
theorem splitNullability_pieces :
    splitNullability (joinWords (pieces name modifiers)) =
      (joinWords (pieces name (modifiers.filter (·.keyword ≠ "null".toList))),
        if .notNull ∈ modifiers then .notNull else .null) := by
  have hfixed : lowercaseUnquoted (joinWords (pieces name modifiers)) =
      joinWords (pieces name modifiers) :=
    (Lowered.joinWords fun _ hp => (piece_of_mem_pieces hname hM.admissible hp).lowered).fixed
  unfold splitNullability
  rw [hfixed]
  -- both markers hold `null`, so what `not null` leaves must not look like the other one
  by_cases hnot : .notNull ∈ modifiers
  · obtain ⟨before, after, rfl, hfilter, hadmissible, hother⟩ := hM.split hnot
    have hgap : ¬ Nullability.null.text.toList <:+: _ := not_infix_gap hname hadmissible hother
    rw [take_listed hname hadmissible hother .notNull rfl rfl (by decide),
      take_absent hgap, if_pos hnot]
    exact congrArg (·, Nullability.notNull)
      ((collapse_gap hname hadmissible).trans (congrArg _ (congrArg _ hfilter.symm)))
  · have habsent : ¬ Nullability.notNull.text.toList <:+: _ := not_infix_notNull hname hM hnot
    rw [take_absent habsent, if_neg hnot]
    by_cases hnull : .null ∈ modifiers
    · obtain ⟨before, after, rfl, hfilter, hadmissible, hother⟩ := hM.split hnull
      rw [take_listed hname hadmissible hother .null rfl rfl (by decide)]
      exact congrArg (·, Nullability.null)
        ((collapse_gap hname hadmissible).trans (congrArg _ (congrArg _ hfilter.symm)))
    · have hother : ∀ modifier ∈ modifiers, modifier.keyword ≠ "null".toList := by
        intro modifier hm he
        rcases eq_null_or_notNull he with rfl | rfl
        · exact hnull hm
        · exact hnot hm
      have hfree : ¬ Nullability.null.text.toList <:+: joinWords (pieces name modifiers) :=
        not_infix_pieces hname hM.admissible (by decide) hother (by decide)
      rw [take_absent hfree, List.filter_eq_self.2 (by simpa using hother)]
      exact congrArg (·, Nullability.null) (collapse_joinWords_tidy fun _ hp =>
        (piece_of_mem_pieces hname hM.admissible hp).tidy)

end

end SchemaPhrase.Phrase
