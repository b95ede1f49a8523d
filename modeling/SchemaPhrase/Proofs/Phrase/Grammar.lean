import SchemaPhrase.Phrase.Parse
import SchemaPhrase.Proofs.DataType.Display
import SchemaPhrase.Proofs.Phrase.Clause

/-!
# The grammar of column-definition phrases

A phrase is a type text and modifiers, joined by single spaces (`phraseText`). `Arrangement` states
which lists of modifiers are meant: each keyword at most once, values and expressions that hold no
keyword (`Inert`), and no parenthesis behind a check clause that has some. `Outcome` is what such a
phrase says; it does not depend on the order of the modifiers (`Outcome.perm`), and nothing but one
parsed phrase has it (`Outcome.eq`).

The pieces of a phrase are the type text and the texts of its modifiers. Each is a `Piece`, and
holds no keyword but its own (`TypeText.fresh`, `Modifier.Admissible.fresh`), so that joined pieces
hold a keyword only where a piece does (`not_infix_joinWords_of_pieces`).
-/

set_option autoImplicit false

namespace SchemaPhrase.Phrase

open Text

/-- Something that a phrase says besides its data type. -/
inductive Modifier where
  | unique
  | null
  | notNull
  | primaryKey
  | default (value : String)
  | check (expression : String)
  deriving DecidableEq, Repr

namespace Modifier

def text : Modifier → String
  | unique => "unique"
  | null => "null"
  | notNull => "not null"
  | primaryKey => "primary key"
  | default value => "default " ++ value
  | check expression => "check(" ++ expression ++ ")"

/-- The keyword by which a modifier is known; the two markers share one. -/
def keyword : Modifier → List Char
  | unique => "unique".toList
  | null => "null".toList
  | notNull => "null".toList
  | primaryKey => "primary key".toList
  | default _ => "default".toList
  | check _ => checkKey

end Modifier

/-- The keywords of a phrase. -/
def keywords : List (List Char) :=
  ["null".toList, "unique".toList, "primary key".toList, "serial".toList, "check".toList,
    "default".toList]

/-- A text that lower case leaves alone and that has no keyword in it, not even inside a word. -/
structure Inert (text : List Char) : Prop where
  fresh : ∀ key ∈ keywords, occurs key text = false
  paired : text.count quote % 2 = 0
  lower : lowercaseUnquoted text = text

/-- What the value of a default and the expression of a check clause may be. -/
def Modifier.Admissible : Modifier → Prop
  | default value =>
    value.toList ≠ [] ∧ ¬ "not".toList <:+ value.toList ∧ collapse value.toList = value.toList ∧
      Inert value.toList
  | check expression =>
    collapse (check expression).text.toList = (check expression).text.toList ∧
      Balanced expression.toList ∧ Inert expression.toList
  | _ => True

/-- A value behind a check clause has no parenthesis if the expression has one. -/
def Modifier.MayPrecede : Modifier → Modifier → Prop
  | check expression, default value => Parenless expression.toList ∨ Parenless value.toList
  | _, _ => True

/-- The lists of modifiers that a phrase may have behind its type, in the order given. -/
structure Arrangement (modifiers : List Modifier) : Prop where
  admissible : ∀ modifier ∈ modifiers, modifier.Admissible
  distinct : (modifiers.map Modifier.keyword).Nodup
  order : modifiers.Pairwise Modifier.MayPrecede

theorem Arrangement.sublist {modifiers others : List Modifier} (h : Arrangement modifiers)
    (hs : others.Sublist modifiers) : Arrangement others :=
  ⟨fun m hm => h.admissible m (hs.subset hm), h.distinct.sublist (hs.map _), h.order.sublist hs⟩

/-- The text of a type: `serial`, or the canonical phrase of a type that some phrase names. -/
def TypeText (name : String) : Prop :=
  name = "serial" ∨ ∃ phrase type, DataType.parse phrase = .ok type ∧ name = type.display

/-- The phrase of a type text and modifiers. -/
def phraseText (name : String) (modifiers : List Modifier) : String :=
  " ".intercalate (name :: modifiers.map Modifier.text)

/-! ## What a phrase says -/

/-- **What a phrase says**, read off its type text and the modifiers that are listed. -/
structure Outcome (name : String) (modifiers : List Modifier) (parsed : ParsedPhrase) : Prop where
  dtype : parsed.dtype = if name = "serial" then "integer" else name
  unique : parsed.unique = true ↔ .unique ∈ modifiers
  pk : parsed.pk = true ↔ .primaryKey ∈ modifiers
  nullability : parsed.nullability = .notNull ↔ .notNull ∈ modifiers
  check : ∀ text, parsed.check = some text ↔
    ∃ expression, .check expression ∈ modifiers ∧ text = "check(" ++ expression ++ ")"
  default : ∀ text, parsed.default = some text ↔
    .default text ∈ modifiers ∨
      (∀ value, .default value ∉ modifiers) ∧ name = "serial" ∧ text = serialDefault
  nullable : parsed.nullable = true ↔
    .notNull ∉ modifiers ∧ .primaryKey ∉ modifiers ∧ (∀ value, .default value ∉ modifiers) ∧
      name ≠ "serial"

theorem Outcome.perm {name : String} {modifiers others : List Modifier} {parsed : ParsedPhrase}
    (h : Outcome name modifiers parsed) (hp : modifiers.Perm others) :
    Outcome name others parsed := by
  obtain ⟨hdtype, hunique, hpk, hnullability, hcheck, hdefault, hnullable⟩ := h
  simp only [hp.mem_iff] at *
  exact ⟨hdtype, hunique, hpk, hnullability, hcheck, hdefault, hnullable⟩

/-- Type text and modifiers leave nothing open. -/
theorem Outcome.eq {name : String} {modifiers : List Modifier} {parsed other : ParsedPhrase}
    (h : Outcome name modifiers parsed) (ho : Outcome name modifiers other) : parsed = other := by
  have hmark : parsed.nullability = other.nullability := by
    have hiff := h.nullability.trans ho.nullability.symm
    cases hp : parsed.nullability <;> cases hq : other.nullability <;> simp_all
  have hdtype := h.dtype.trans ho.dtype.symm
  have hnullable := Bool.eq_iff_iff.2 (h.nullable.trans ho.nullable.symm)
  have hunique := Bool.eq_iff_iff.2 (h.unique.trans ho.unique.symm)
  have hpk := Bool.eq_iff_iff.2 (h.pk.trans ho.pk.symm)
  have hdefault := Option.ext fun text => (h.default text).trans (ho.default text).symm
  have hcheck := Option.ext fun text => (h.check text).trans (ho.check text).symm
  cases parsed
  cases other
  simp_all

/-! ## Pieces -/

/-- A piece of a phrase: tidy, in lower case, and with neither the first word of `not null` at its
end nor the second of `primary key` at its front. -/
structure Piece (text : List Char) : Prop where
  tidy : Tidy text
  lowered : Lowered text
  not_suffix : ¬ "not".toList <:+ text
  no_key_front : ¬ "key".toList <+: text

/-- The texts that stand in phrases as they are, each with the keyword in it. -/
def fixedTexts : List (String × List Char) :=
  [("unique", "unique".toList), ("null", "null".toList), ("not null", "null".toList),
    ("primary key", "primary key".toList), ("default", "default".toList), ("check", checkKey),
    ("serial", "serial".toList), ("integer", [])]

theorem piece_of_fixed {text : String} (h : text ∈ fixedTexts.map Prod.fst) :
    Piece text.toList := by
  have htidy : ∀ t ∈ fixedTexts.map Prod.fst, collapse t.toList = t.toList ∧ t.toList ≠ [] := by
    decide +kernel
  have hchars : ∀ t ∈ fixedTexts.map Prod.fst, t.toList.all (fun c => decide (c ≠ quote ∧
      (c.toNat < 0x41 ∨ 0x5B ≤ c.toNat ∧ c.toNat < 0xC0))) = true := by decide +kernel
  have hends : ∀ t ∈ fixedTexts.map Prod.fst,
      ¬ "not".toList <:+ t.toList ∧ ¬ "key".toList <+: t.toList := by decide +kernel
  refine ⟨⟨(htidy _ h).1, (htidy _ h).2⟩, .of_forall fun c hc => ?_, (hends _ h).1, (hends _ h).2⟩
  obtain ⟨hquote, hlower⟩ := forall_mem_of_all (hchars _ h) c hc
  exact ⟨hquote, lowerChar_of_lt hlower⟩

theorem not_infix_fixed {text : String} {own key : List Char} (h : (text, own) ∈ fixedTexts)
    (hkey : key ∈ keywords) (hne : own ≠ key) : ¬ key <:+: text.toList := by
  have hall : ∀ entry ∈ fixedTexts, ∀ k ∈ keywords, entry.2 ≠ k →
      occurs k entry.1.toList = false := by decide +kernel
  exact occurs_eq_false_iff.1 (hall _ h key hkey hne)

theorem Modifier.text_default (value : String) :
    (default value).text.toList = "default".toList ++ ' ' :: value.toList := by
  simp [text]

theorem Modifier.text_check (expression : String) :
    (check expression).text.toList = "check".toList ++ '(' :: (expression.toList ++ [')']) := by
  simp [text]

section
variable {value expression : String}

theorem Modifier.tidy_default (h : Tidy value.toList) : Tidy (default value).text.toList := by
  have hkey : Piece "default".toList := piece_of_fixed (by decide)
  have hpair : ∀ piece ∈ ["default".toList, value.toList], Tidy piece := by
    simpa using ⟨hkey.tidy, h⟩
  rw [text_default]
  exact ⟨collapse_joinWords_tidy hpair, by simp⟩

theorem Modifier.lowered_default (h : Lowered value.toList) :
    Lowered (default value).text.toList := by
  have hkey : Piece "default".toList := piece_of_fixed (by decide)
  have hpair : ∀ piece ∈ ["default".toList, value.toList], Lowered piece := by
    simpa using ⟨hkey.lowered, h⟩
  rw [text_default]
  exact .joinWords hpair

theorem Modifier.lowered_check (h : Lowered expression.toList) :
    Lowered (check expression).text.toList := by
  have hkey : Piece "check".toList := piece_of_fixed (by decide)
  have hopen : Lowered ['('] := .of_fixed (by decide) (by decide)
  have hclose : Lowered [')'] := .of_fixed (by decide) (by decide)
  rw [text_check]
  exact hkey.lowered.append (hopen.append (h.append hclose))

theorem Modifier.no_key_front_default (value : String) :
    ¬ "key".toList <+: (default value).text.toList := by
  rw [text_default, prefix_append_cons (by decide)]
  exact (piece_of_fixed (by decide)).no_key_front

theorem Modifier.no_key_front_check (expression : String) :
    ¬ "key".toList <+: (check expression).text.toList := by
  rw [text_check, prefix_append_cons (by decide)]
  exact (piece_of_fixed (by decide)).no_key_front

end

theorem Modifier.Admissible.piece {modifier : Modifier} (h : modifier.Admissible) :
    Piece modifier.text.toList := by
  cases modifier with
  | unique => exact piece_of_fixed (by decide)
  | null => exact piece_of_fixed (by decide)
  | notNull => exact piece_of_fixed (by decide)
  | primaryKey => exact piece_of_fixed (by decide)
  | default value =>
    obtain ⟨hne, hnot, hcollapse, hinert⟩ := h
    refine ⟨tidy_default ⟨hcollapse, hne⟩, lowered_default (.of_fixed hinert.paired hinert.lower),
      ?_, no_key_front_default value⟩
    rw [text_default, suffix_append_cons (by decide)]
    exact hnot
  | check expression =>
    obtain ⟨hcollapse, -, hinert⟩ := h
    refine ⟨⟨hcollapse, by simp [text]⟩, lowered_check (.of_fixed hinert.paired hinert.lower), ?_,
      no_key_front_check expression⟩
    have hlast : (check expression).text.toList =
        ("check".toList ++ '(' :: expression.toList) ++ ')' :: [] := by simp [text]
    rw [hlast, suffix_append_cons (by decide)]
    decide

theorem TypeText.piece {name : String} (h : TypeText name) : Piece name.toList := by
  rcases h with rfl | ⟨phrase, type, hparse, rfl⟩
  · exact piece_of_fixed (by decide)
  · have hcanonical := DataType.canonical_of_parse hparse
    refine ⟨hcanonical.tidy_display, hcanonical.lowered_display, hcanonical.not_suffix_display, ?_⟩
    have hfresh : ∀ tag ∈ DataType.canonicalTags, 'k' ∉ tag.toList := by decide
    refine fun hp => DataType.not_infix_display hcanonical.tag_ne ?_ hp.isInfix
    exact ⟨'k', by decide, hfresh _ hcanonical, by decide, by decide, fun _ => by decide⟩

/-! ## Keywords in pieces -/

theorem Inert.absent {text key : List Char} (h : Inert text) (hkey : key ∈ keywords) :
    ¬ key <:+: text :=
  occurs_eq_false_iff.1 (h.fresh key hkey)

section
variable {value expression : String} {key : List Char} (hkey : key ∈ keywords)
include hkey

/-- The keyword of a default stands in front of the value, and no keyword lies across both. -/
theorem Modifier.fresh_default (hvalue : ¬ key <:+: value.toList) (hne : "default".toList ≠ key) :
    ¬ key <:+: (default value).text.toList := by
  have hdefault : ¬ key <:+: "default".toList := not_infix_fixed (by decide) hkey hne
  rw [text_default]
  by_cases hspace : ' ' ∈ key
  · have hpair : ∀ k ∈ keywords, ' ' ∈ k → k = "primary".toList ++ ' ' :: "key".toList := by
      decide
    rw [hpair key hkey hspace] at hvalue hdefault ⊢
    rw [infix_append_cons_pair (by decide) (by decide) (by decide)]
    exact not_or.2 ⟨hdefault, not_or.2 ⟨hvalue, fun hp => absurd hp.1 (by decide)⟩⟩
  · have hnil : ∀ k ∈ keywords, k ≠ [] := by decide
    rw [infix_append_cons (hnil key hkey) hspace]
    exact not_or.2 ⟨hdefault, hvalue⟩

theorem Modifier.fresh_check (hexpression : ¬ key <:+: expression.toList) (hne : checkKey ≠ key) :
    ¬ key <:+: (check expression).text.toList := by
  have hmarks : ∀ k ∈ keywords, k ≠ [] ∧ '(' ∉ k ∧ ')' ∉ k := by decide
  obtain ⟨hnil, hopen, hclose⟩ := hmarks key hkey
  have hcheck : ¬ key <:+: "check".toList := not_infix_fixed (by decide) hkey hne
  rw [text_check, infix_append_cons hnil hopen, infix_append_cons hnil hclose]
  exact not_or.2 ⟨hcheck, not_or.2 ⟨hexpression, by simpa using hnil⟩⟩

end

/-- **A modifier holds no keyword but its own.** -/
theorem Modifier.Admissible.fresh {modifier : Modifier} (h : modifier.Admissible) {key : List Char}
    (hkey : key ∈ keywords) (hne : modifier.keyword ≠ key) :
    ¬ key <:+: modifier.text.toList := by
  cases modifier with
  | unique => exact not_infix_fixed (by decide) hkey hne
  | null => exact not_infix_fixed (by decide) hkey hne
  | notNull => exact not_infix_fixed (by decide) hkey hne
  | primaryKey => exact not_infix_fixed (by decide) hkey hne
  | default value => exact fresh_default hkey (h.2.2.2.absent hkey) hne
  | check expression => exact fresh_check hkey (h.2.2.absent hkey) hne

theorem fresh_display {phrase : String} {type : DataType} (h : DataType.parse phrase = .ok type)
    {key : List Char} (hkey : key ∈ keywords) : ¬ key <:+: type.display.toList := by
  have hcanonical := DataType.canonical_of_parse h
  have hall : ∀ tag ∈ DataType.canonicalTags, ∀ k ∈ keywords, k.any (fun c =>
      decide (c ∉ tag.toList ∧ c.isDigit = false ∧ c ∉ [' ', '(', ',', ')'] ∧
        c ∉ "withtimezone".toList)) = true := by decide +kernel
  obtain ⟨c, hc, hown⟩ := List.any_eq_true.1 (hall _ hcanonical key hkey)
  obtain ⟨htag, hdigit, hmark, hzone⟩ := of_decide_eq_true hown
  exact DataType.not_infix_display hcanonical.tag_ne ⟨c, hc, htag, hdigit, hmark, fun _ => hzone⟩

/-- **A type text holds no keyword** but `serial`, which is one. -/
theorem TypeText.fresh {name : String} (h : TypeText name) {key : List Char}
    (hkey : key ∈ keywords) (hserial : name = "serial" → key ≠ "serial".toList) :
    ¬ key <:+: name.toList := by
  rcases h with rfl | ⟨phrase, type, hparse, rfl⟩
  · exact not_infix_fixed (by decide) hkey (hserial rfl).symm
  · exact fresh_display hparse hkey

/-- **Joined pieces hold a keyword only where a piece does.** The two words of `primary key` do not
come together from two pieces. -/
theorem not_infix_joinWords_of_keyword {key : List Char} (hkey : key ∈ keywords)
    {pieces : List (List Char)} (hfresh : ∀ piece ∈ pieces, ¬ key <:+: piece)
    (hfront : ∀ piece ∈ pieces, ¬ "key".toList <+: piece) : ¬ key <:+: joinWords pieces := by
  by_cases hspace : ' ' ∈ key
  · have hpair : ∀ k ∈ keywords, ' ' ∈ k → k = "primary".toList ++ ' ' :: "key".toList := by
      decide
    obtain rfl := hpair key hkey hspace
    exact not_infix_joinWords_pair (by decide) (by decide) (by decide) hfresh
      fun _ _ next hn h => hfront next hn h.2
  · have hne : ∀ k ∈ keywords, k ≠ [] := by decide
    exact not_infix_joinWords (hne key hkey) hspace hfresh

/-- The two words of `not null` do not come together from two pieces, either. -/
theorem not_infix_joinWords_of_pieces {key : List Char}
    (hkey : key ∈ "not null".toList :: keywords) {pieces : List (List Char)}
    (hfresh : ∀ piece ∈ pieces, ¬ key <:+: piece)
    (hends : ∀ piece ∈ pieces, ¬ "not".toList <:+ piece ∧ ¬ "key".toList <+: piece) :
    ¬ key <:+: joinWords pieces := by
  rcases List.mem_cons.1 hkey with rfl | hkey
  · exact not_infix_joinWords_pair (by decide) (by decide) (by decide) hfresh
      fun piece hp _ _ h => (hends piece hp).1 h.1
  · exact not_infix_joinWords_of_keyword hkey hfresh fun piece hp => (hends piece hp).2

/-- **Exchanging a keyword that is one of the pieces** exchanges that piece alone. -/
theorem replaceAll_pieces {key : List Char} (new : List Char)
    (hkey : key ∈ "not null".toList :: keywords) {before after : List (List Char)}
    (hb : ∀ piece ∈ before, Piece piece ∧ ¬ key <:+: piece)
    (ha : ∀ piece ∈ after, Piece piece ∧ ¬ key <:+: piece) :
    replaceAll key new (joinWords (before ++ key :: after)) =
      joinWords (before ++ new :: after) := by
  have hcut : ∀ k ∈ "not null".toList :: keywords, k ≠ [] ∧ ¬ k <:+: ([] : List Char) ∧
      ¬ "not".toList <:+ k.dropLast ∧ ¬ "key".toList <+: k.dropLast := by decide
  obtain ⟨hne, hnil, hnot, hkeyPrefix⟩ := hcut key hkey
  refine replaceAll_joinWords new hne (not_infix_joinWords_of_pieces hkey ?_ ?_)
    (not_infix_joinWords_of_pieces hkey ?_ ?_)
  · simpa [or_imp, forall_and] using ⟨fun p hp => (hb p hp).2, not_infix_dropLast hne⟩
  · intro piece hp
    rcases List.mem_append.1 hp with hp | hp
    · exact ⟨(hb piece hp).1.not_suffix, (hb piece hp).1.no_key_front⟩
    · obtain rfl := List.mem_singleton.1 hp
      exact ⟨hnot, hkeyPrefix⟩
  · intro piece hp
    rcases List.mem_cons.1 hp with rfl | hp
    · exact hnil
    · exact (ha piece hp).2
  · intro piece hp
    rcases List.mem_cons.1 hp with rfl | hp
    · decide
    · exact ⟨(ha piece hp).1.not_suffix, (ha piece hp).1.no_key_front⟩

end SchemaPhrase.Phrase
