import SchemaPhrase.Proofs.Phrase.CheckPattern
import SchemaPhrase.Proofs.Phrase.Verbatim

/-!
# Where a check clause stands and ends

A clause stands at a good position of the text that is left by the passes for single keywords
(`GoodAt`): it opens there, and the parentheses behind the opening one begin with a closing one or
hold two neighbouring ones that close. `parsePhrase_check_iff_goodAt`: a phrase is malformed exactly
if that text holds `check` and has no good position; otherwise the clause that is recorded begins at
the first good position and reaches as far as `Reaches` says. It is the preferred match of
`checkPattern`.

Whether a text has a good position and how far the clause reaches is told by its parentheses alone.
`throughFirst?_eq_some` and `throughLastPair?_eq_some` say so of the two ends of an expression,
`findCheck?_eq_some` of the whole search.
-/

set_option autoImplicit false

namespace SchemaPhrase.Phrase

open Text

/-- The parentheses of a text in their order, all other characters ignored. -/
def parentheses (text : List Char) : List Char := text.filter isParenthesis

/-- Two neighbouring parentheses that close. -/
def closingPair : List Char := [')', ')']

/-- Behind the opening parenthesis of a clause the first one closes, or two neighbouring ones do. -/
def CanEnd (body : List Char) : Prop :=
  (parentheses body).head? = some ')' ∨ closingPair <:+: parentheses body

/-- At this position `check`, at most one blank and a parenthesis stand, and a clause that opens
there can end. -/
def GoodAt (text : List Char) (position : Nat) : Prop :=
  ∃ gap body, Gap gap ∧ text.drop position = checkKey ++ (gap ++ '(' :: body) ∧ CanEnd body

/-- The first good position of a text. -/
def FirstGood (text : List Char) (position : Nat) : Prop :=
  GoodAt text position ∧ ∀ earlier < position, ¬ GoodAt text earlier

/-- An expression with its end, in front of the text `after`: through the first parenthesis if that
one closes, else through the second one of the last neighbouring ones that close. -/
def EndsBefore (through after : List Char) : Prop :=
  through.getLast? = some ')' ∧
    (parentheses through = [')'] ∨
      (parentheses through).head? = some '(' ∧ closingPair <:+ parentheses through ∧
        ¬ closingPair <:+: ')' :: parentheses after)

/-- The clause that begins at this position, and how far it reaches. -/
def Reaches (text : List Char) (position : Nat) (clause : List Char) : Prop :=
  ∃ gap through after, Gap gap ∧ clause = checkKey ++ (gap ++ '(' :: through) ∧
    text.drop position = clause ++ after ∧ EndsBefore through after

/-- The text that is searched for a clause: what the passes for single keywords leave. -/
def searched (phrase : String) : List Char := (takeModifiers phrase.toList).rest

/-- The text holds `check`, but at no position a clause that can end. -/
def Clauseless (text : List Char) : Prop :=
  checkKey <:+: text ∧ ∀ position, ¬ GoodAt text position

theorem parentheses_append (text rest : List Char) :
    parentheses (text ++ rest) = parentheses text ++ parentheses rest :=
  List.filter_append ..

theorem parentheses_cons_of_ne {c : Char} (text : List Char) (ho : c ≠ '(') (hc : c ≠ ')') :
    parentheses (c :: text) = parentheses text :=
  List.filter_cons_of_neg (by simp [isParenthesis, ho, hc])

theorem parentheses_open (text : List Char) :
    parentheses ('(' :: text) = '(' :: parentheses text :=
  List.filter_cons_of_pos rfl

theorem parentheses_close (text : List Char) :
    parentheses (')' :: text) = ')' :: parentheses text :=
  List.filter_cons_of_pos rfl

theorem isParenthesis_of_head? {text : List Char} {c : Char}
    (h : (parentheses text).head? = some c) : c = '(' ∨ c = ')' := by
  have hc := (List.mem_filter.1 (List.mem_of_head? h)).2
  simpa [isParenthesis] using hc

/-! ## The two ends of an expression -/

theorem throughFirst?_eq_none_iff {text : List Char} :
    throughFirst? text = none ↔ (parentheses text).head? ≠ some ')' := by
  induction text with
  | nil => simp [throughFirst?, parentheses]
  | cons c rest ih =>
    rw [throughFirst?]
    by_cases hc : c = ')'
    · subst hc
      simp [parentheses_close]
    · by_cases ho : c = '('
      · subst ho
        simp [parentheses_open]
      · simp [hc, ho, ih, parentheses_cons_of_ne]

theorem throughFirst?_eq_some {text through : List Char} (h : throughFirst? text = some through) :
    through.getLast? = some ')' ∧ parentheses through = [')'] := by
  induction text generalizing through with
  | nil => cases h
  | cons c rest ih =>
    rw [throughFirst?] at h
    by_cases hc : c = ')'
    · rw [if_pos hc] at h
      cases h
      exact ⟨by simp [hc], by simp [hc, parentheses, isParenthesis]⟩
    · by_cases ho : c = '('
      · simp [ho] at h
      · rw [if_neg hc, if_neg ho, Option.map_eq_some_iff] at h
        obtain ⟨more, hmore, rfl⟩ := h
        obtain ⟨hlast, hparens⟩ := ih hmore
        exact ⟨by simp [List.getLast?_cons, hlast], by rw [parentheses_cons_of_ne _ ho hc, hparens]⟩

/-- The parenthesis in front of a text, if it closes. -/
def inFront (closed : Bool) : List Char := if closed then [')'] else []

theorem not_closingPair_infix_inFront (closed : Bool) : ¬ closingPair <:+: inFront closed := by
  cases closed <;> decide

theorem throughLastPair?_eq_none_iff_infix {closed : Bool} {text : List Char} :
    throughLastPair? closed text = none ↔
      ¬ closingPair <:+: inFront closed ++ parentheses text := by
  induction text generalizing closed with
  | nil => simpa [throughLastPair?, parentheses] using not_closingPair_infix_inFront closed
  | cons c rest ih =>
    rw [throughLastPair?]
    by_cases hc : c = ')'
    · subst hc
      have hrest : throughLastPair? true rest = none ↔
          ¬ closingPair <:+: ')' :: parentheses rest := ih
      rw [if_pos rfl, parentheses_close]
      cases closed with
      | false =>
        show _ ↔ ¬ closingPair <:+: ')' :: parentheses rest
        rw [← hrest]
        cases throughLastPair? true rest <;> simp
      | true =>
        have hpair : closingPair <:+: inFront true ++ ')' :: parentheses rest :=
          (List.prefix_append closingPair (parentheses rest)).isInfix
        simp only [hpair, not_true_eq_false, iff_false]
        cases throughLastPair? true rest <;> simp
    · by_cases ho : c = '('
      · subst ho
        have hrest : throughLastPair? false rest = none ↔ ¬ closingPair <:+: parentheses rest := ih
        rw [if_neg hc, if_pos rfl, Option.map_eq_none_iff, hrest, parentheses_open,
          infix_append_cons (by decide) (by decide),
          or_iff_right (not_closingPair_infix_inFront closed)]
      · rw [if_neg hc, if_neg ho, Option.map_eq_none_iff, ih, parentheses_cons_of_ne _ ho hc]

/-- **Through the last two neighbouring parentheses that close.** -/
theorem throughLastPair?_eq_some {closed : Bool} {text through : List Char}
    (h : throughLastPair? closed text = some through) :
    through.getLast? = some ')' ∧ closingPair <:+ inFront closed ++ parentheses through ∧
      ∃ after, text = through ++ after ∧ ¬ closingPair <:+: ')' :: parentheses after := by
  induction text generalizing closed through with
  | nil => cases h
  | cons c rest ih =>
    rw [throughLastPair?] at h
    by_cases hc : c = ')'
    · subst hc
      rw [if_pos rfl] at h
      cases hrest : throughLastPair? true rest with
      | none =>
        -- no pair behind: this parenthesis and the one in front are the last
        rw [hrest] at h
        cases closed with
        | false => cases h
        | true =>
          cases h
          exact ⟨rfl, List.suffix_refl _, rest, rfl, throughLastPair?_eq_none_iff_infix.1 hrest⟩
      | some more =>
        rw [hrest] at h
        cases h
        obtain ⟨hlast, hpair, after, rfl, hafter⟩ := ih hrest
        refine ⟨by simp [List.getLast?_cons, hlast], ?_, after, rfl, hafter⟩
        rw [parentheses_close]
        exact hpair.trans (List.suffix_append _ _)
    · by_cases ho : c = '('
      · subst ho
        rw [if_neg hc, if_pos rfl, Option.map_eq_some_iff] at h
        obtain ⟨more, hmore, rfl⟩ := h
        obtain ⟨hlast, hpair, after, rfl, hafter⟩ := ih hmore
        refine ⟨by simp [List.getLast?_cons, hlast], ?_, after, rfl, hafter⟩
        rw [parentheses_open, List.append_cons]
        exact hpair.trans (List.suffix_append _ _)
      · rw [if_neg hc, if_neg ho, Option.map_eq_some_iff] at h
        obtain ⟨more, hmore, rfl⟩ := h
        obtain ⟨hlast, hpair, after, rfl, hafter⟩ := ih hmore
        refine ⟨by simp [List.getLast?_cons, hlast], ?_, after, rfl, hafter⟩
        rwa [parentheses_cons_of_ne _ ho hc]

theorem clauseBody?_eq_none_iff {body : List Char} : clauseBody? body = none ↔ ¬ CanEnd body := by
  rw [clauseBody?, Option.or_eq_none_iff, throughFirst?_eq_none_iff,
    throughLastPair?_eq_none_iff_infix, CanEnd, not_or]
  rfl

/-- **An expression with its end** is told by the parentheses in it and behind it. -/
theorem clauseBody?_eq_some {body through : List Char} (h : clauseBody? body = some through) :
    ∃ after, body = through ++ after ∧ EndsBefore through after := by
  obtain ⟨after, hbody⟩ := prefix_of_clauseBody? h
  rcases Option.or_eq_some_iff.1 h with hfirst | ⟨hfirst, hpair⟩
  · obtain ⟨hlast, hparens⟩ := throughFirst?_eq_some hfirst
    exact ⟨after, hbody.symm, hlast, .inl hparens⟩
  · obtain ⟨hlast, hsuffix, behind, hbehind, hafter⟩ := throughLastPair?_eq_some hpair
    refine ⟨behind, hbehind, hlast, .inr ⟨?_, hsuffix, hafter⟩⟩
    -- the first parenthesis does not close, or the expression would end there
    rw [throughFirst?_eq_none_iff, hbehind, parentheses_append] at hfirst
    obtain ⟨c, hc⟩ : ∃ c, (parentheses through).head? = some c := by
      cases hnil : parentheses through with
      | nil =>
        rw [hnil] at hsuffix
        exact absurd hsuffix (by decide)
      | cons c rest => exact ⟨c, rfl⟩
    rw [List.head?_append, hc] at hfirst
    rw [hc]
    obtain rfl | rfl := isParenthesis_of_head? hc
    · rfl
    · exact absurd rfl hfirst

theorem clauseAt?_drop_eq_none_iff {text : List Char} {position : Nat} :
    clauseAt? (text.drop position) = none ↔ ¬ GoodAt text position := by
  constructor
  · intro hnone ⟨gap, body, hgap, htext, hends⟩
    rw [htext, clauseAt?_opening body hgap, Option.map_eq_none_iff] at hnone
    exact clauseBody?_eq_none_iff.1 hnone hends
  · intro hbad
    rw [clauseAt?, Option.bind_eq_none_iff]
    intro body hbody
    obtain ⟨gap, hgap, htext⟩ := checkBody?_eq_some_iff.1 hbody
    rw [Option.map_eq_none_iff, clauseBody?_eq_none_iff]
    exact fun hends => hbad ⟨gap, body, hgap, htext, hends⟩

theorem reaches_of_clauseAt? {text clause : List Char} {position : Nat}
    (h : clauseAt? (text.drop position) = some clause) : Reaches text position clause := by
  obtain ⟨body, hbody, hclause⟩ := Option.bind_eq_some_iff.1 h
  obtain ⟨gap, hgap, htext⟩ := checkBody?_eq_some_iff.1 hbody
  rw [htext, clauseAt?_opening body hgap, Option.map_eq_some_iff] at h
  obtain ⟨through, hthrough, rfl⟩ := h
  obtain ⟨after, rfl, hends⟩ := clauseBody?_eq_some hthrough
  exact ⟨gap, through, after, hgap, rfl, by rw [htext]; simp, hends⟩

/-! ## The search -/

theorem findCheck?_eq_none_iff {text : List Char} :
    findCheck? text = none ↔ ∀ position, ¬ GoodAt text position := by
  simp only [← clauseAt?_drop_eq_none_iff]
  induction text with
  | nil => simp [findCheck?, clauseAt?, checkBody?, checkKey]
  | cons c rest ih =>
    rw [findCheck?, Option.or_eq_none_iff, ih]
    constructor
    · rintro ⟨hhere, hrest⟩ position
      cases position with
      | zero => exact hhere
      | succ position => exact hrest position
    · intro h
      exact ⟨h 0, fun position => h (position + 1)⟩

/-- **The clause that is found** begins at the first good position. -/
theorem findCheck?_eq_some {text clause : List Char} (h : findCheck? text = some clause) :
    ∃ position, FirstGood text position ∧ Reaches text position clause := by
  obtain ⟨position, hclause, hearlier⟩ : ∃ position,
      clauseAt? (text.drop position) = some clause ∧
        ∀ earlier < position, clauseAt? (text.drop earlier) = none := by
    induction text with
    | nil => cases h
    | cons c rest ih =>
      rcases Option.or_eq_some_iff.1 h with hhere | ⟨hhere, hrest⟩
      · exact ⟨0, hhere, fun earlier hlt => absurd hlt (Nat.not_lt_zero earlier)⟩
      · obtain ⟨position, hclause, hearlier⟩ := ih hrest
        refine ⟨position + 1, hclause, fun earlier hlt => ?_⟩
        cases earlier with
        | zero => exact hhere
        | succ earlier => exact hearlier earlier (Nat.lt_of_succ_lt_succ hlt)
  refine ⟨position, ⟨?_, fun earlier hlt => ?_⟩, reaches_of_clauseAt? hclause⟩
  · by_contra hbad
    rw [clauseAt?_drop_eq_none_iff.2 hbad] at hclause
    cases hclause
  · exact clauseAt?_drop_eq_none_iff.1 (hearlier earlier hlt)

theorem FirstGood.unique {text : List Char} {position other : Nat} (h : FirstGood text position)
    (ho : FirstGood text other) : position = other := by
  rcases Nat.lt_trichotomy position other with hlt | heq | hgt
  · exact absurd h.1 (ho.2 position hlt)
  · exact heq
  · exact absurd ho.1 (h.2 other hgt)

/-! ## Phrases -/

theorem check_of_takeApart? {phrase : List Char} {parsed : ParsedPhrase}
    (h : takeApart? phrase = some parsed) :
    parsed.check = (findCheck? (takeModifiers phrase).rest).map String.ofList := by
  obtain ⟨rest, check, htake, rfl⟩ := eq_assemble_of_takeApart? h
  show check.map String.ofList = _
  unfold takeCheck? at htake
  split at htake
  · obtain ⟨clause, hclause, hpair⟩ := Option.map_eq_some_iff.1 htake
    cases hpair
    rw [hclause]
  · next habsent =>
    cases htake
    cases hfind : findCheck? (takeModifiers phrase).rest with
    | none => rfl
    | some clause =>
      obtain ⟨hpart, hkey⟩ := infix_of_findCheck? hfind
      exact absurd (occurs_iff.2 (hkey.isInfix.trans hpart)) habsent

theorem takeApart?_eq_none_iff {phrase : String} :
    takeApart? phrase.toList = none ↔ Clauseless (searched phrase) := by
  rw [takeApart?, Option.map_eq_none_iff, takeCheck?, Clauseless, ← occurs_iff,
    ← findCheck?_eq_none_iff]
  unfold searched
  split
  · next hoccurs => rw [Option.map_eq_none_iff, and_iff_right hoccurs]
  · next habsent => simp [habsent]

/-- The passes leave no line breaks. -/
theorem newline_notMem_searched (phrase : String) : '\n' ∉ searched phrase := by
  unfold searched
  rw [← collapse_takeModifiers]
  exact notMem_collapse (by decide) (by decide) _

/-- **A check clause is recorded exactly from the first good position on.** A phrase with `check`
but no good position is malformed, and every other one is parsed. What is recorded is the preferred
match of `checkPattern`. -/
theorem parsePhrase_check_iff_goodAt (phrase : String) :
    ((parsePhrase phrase).result = .error (.malformedCheckClause phrase) ↔
        Clauseless (searched phrase)) ∧
      ((∃ parsed, (parsePhrase phrase).result = .ok parsed) ↔ ¬ Clauseless (searched phrase)) ∧
      (∀ position, FirstGood (searched phrase) position → ∃ parsed clause,
        (parsePhrase phrase).result = .ok parsed ∧ parsed.check = some (String.ofList clause) ∧
          Reaches (searched phrase) position clause) ∧
      ∀ parsed, (parsePhrase phrase).result = .ok parsed →
        parsed.check =
          (checkPattern.find? (searched phrase)).map fun way => String.ofList way.taken := by
  have hok : (∃ parsed, (parsePhrase phrase).result = .ok parsed) ↔
      ¬ Clauseless (searched phrase) := by
    rw [← takeApart?_eq_none_iff, ← ne_eq, Option.ne_none_iff_exists']
    exact exists_congr fun parsed => result_parsePhrase_eq_ok
  have hcheck : ∀ parsed, (parsePhrase phrase).result = .ok parsed →
      parsed.check = (findCheck? (searched phrase)).map String.ofList := fun parsed h =>
    check_of_takeApart? (result_parsePhrase_eq_ok.1 h)
  refine ⟨?_, hok, fun position hfirst => ?_, fun parsed h => ?_⟩
  · rw [result_parsePhrase_eq_error, and_iff_left rfl, takeApart?_eq_none_iff]
  · obtain ⟨parsed, hparsed⟩ := hok.2 fun hnone => hnone.2 position hfirst.1
    cases hfind : findCheck? (searched phrase) with
    | none => exact absurd hfirst.1 (findCheck?_eq_none_iff.1 hfind position)
    | some clause =>
      obtain ⟨found, hfound, hreaches⟩ := findCheck?_eq_some hfind
      rw [hfound.unique hfirst] at hreaches
      exact ⟨parsed, clause, hparsed, by rw [hcheck parsed hparsed, hfind]; rfl, hreaches⟩
  · rw [hcheck parsed h, ← taken_find?_checkPattern (newline_notMem_searched phrase),
      Option.map_map]
    rfl

/-- The first `check` opens nothing, and the clause of the second one runs on to the last pair. -/
theorem parsePhrase_check_last_pair :
    ∃ position parsed clause,
      FirstGood (searched "int check x check (f(1)) default g(h(2)) (y") position ∧
        (parsePhrase "int check x check (f(1)) default g(h(2)) (y").result = .ok parsed ∧
        parsed.check = some "check (f(1)) default g(h(2))" ∧
        Reaches (searched "int check x check (f(1)) default g(h(2)) (y") position clause := by
  have hfind : findCheck? (searched "int check x check (f(1)) default g(h(2)) (y") =
      some "check (f(1)) default g(h(2))".toList := by decide +kernel
  have hvalue : ((parsePhrase "int check x check (f(1)) default g(h(2)) (y").result.toOption.bind
      ParsedPhrase.check) = some "check (f(1)) default g(h(2))" := by decide +kernel
  obtain ⟨position, hfirst, -⟩ := findCheck?_eq_some hfind
  obtain ⟨parsed, clause, hparsed, -, hreaches⟩ :=
    (parsePhrase_check_iff_goodAt _).2.2.1 position hfirst
  rw [hparsed] at hvalue
  exact ⟨position, parsed, clause, hfirst, hparsed, hvalue, hreaches⟩

end SchemaPhrase.Phrase
