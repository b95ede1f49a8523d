import SchemaPhrase.Proofs.Phrase.Clause
import SchemaPhrase.Proofs.Text.Pattern
import SchemaPhrase.Proofs.Text.Respaced

/-!
# The check clause as a pattern

A clause is what `checkPattern` takes: the keyword, at most one blank, and between two parentheses
any text without parentheses, in which parts from an opening parenthesis through a closing one may
stand. Such a part may hold anything, so the pattern can take a text in many ways. The preferred one
is the clause that `findCheck?` gives (`taken_find?_checkPattern`).

The parts are what has to be looked at. `takes_nested`: a part with what follows it reaches through
the last two neighbouring parentheses that close, because the longest part that can be gone on from
is preferred. `takes_nesteds`: another part behind it changes nothing, because the first one could
have reached through it.
-/

set_option autoImplicit false

namespace SchemaPhrase.Phrase

open Text

/-- An opening or a closing parenthesis. -/
def isParenthesis (c : Char) : Bool := c == '(' || c == ')'

/-- Any text without parentheses. -/
def flatPattern : Pattern := .many (.one (!isParenthesis ·))

/-- From an opening parenthesis through a closing one on the same line. -/
def nestedPattern : Pattern :=
  .seq (.literal ['(']) (.seq (.many (.one (· != '\n'))) (.literal [')']))

/-- The expression of a clause, which is captured, and its closing parenthesis. -/
def bodyPattern : Pattern :=
  .seq (.named "check" (.seq flatPattern (.seq (.many nestedPattern) flatPattern))) (.literal [')'])

/-- A check clause. -/
def checkPattern : Pattern :=
  .seq (.literal checkKey) (.seq (.optional (.one isBlank)) (.seq (.literal ['(']) bodyPattern))

section
variable (next : List Char → Option (List Char))

theorem takes_mark (mark c : Char) (rest : List Char) :
    (Pattern.literal [mark]).takes next (c :: rest) =
      if c = mark then (next rest).map (c :: ·) else none := by
  rw [Pattern.takes_literal]
  by_cases hc : c = mark
  · simp [hc]
  · simp [hc, Ne.symm hc]

theorem takes_mark_of_head? {mark : Char} {text : List Char} (h : text.head? ≠ some mark) :
    (Pattern.literal [mark]).takes next text = none := by
  cases text with
  | nil => rfl
  | cons c rest => rw [takes_mark, if_neg (by simpa using h)]

/-- A repeated class takes a character and goes on, or is gone on from. -/
theorem takes_class_cons (accepts : Char → Bool) (c : Char) (rest : List Char) :
    (Pattern.many (.one accepts)).takes next (c :: rest) =
      (if accepts c then ((Pattern.many (.one accepts)).takes next rest).map (c :: ·)
        else none).or (next (c :: rest)) := by
  have hless : rest.length < (c :: rest).length := Nat.lt_succ_self _
  rw [Pattern.takes_many, Pattern.takes_one_cons, if_pos hless]

theorem takes_class_nil (accepts : Char → Bool) :
    (Pattern.many (.one accepts)).takes next [] = next [] := by
  rw [Pattern.takes_many, Pattern.takes_one_nil, Option.none_or]

end

/-! ## The end of an expression -/

/-- The closing parenthesis of a clause. -/
def takesClosing : List Char → Option (List Char) :=
  (Pattern.literal [')']).takes fun _ => some []

/-- Text without parentheses and a closing one reach through the first parenthesis. -/
theorem takes_flat_closing (text : List Char) :
    flatPattern.takes takesClosing text = throughFirst? text := by
  induction text with
  | nil => exact takes_class_nil _ _
  | cons c rest ih =>
    rw [flatPattern, takes_class_cons, ← flatPattern, ih, takesClosing, takes_mark, throughFirst?]
    by_cases hc : c = ')'
    · simp [hc, isParenthesis]
    · by_cases ho : c = '('
      · simp [ho, isParenthesis]
      · simp [hc, ho, isParenthesis]

/-- Behind a closing parenthesis the last two neighbouring ones that close are the same as
elsewhere, or it and the first one. -/
theorem throughLastPair?_true (text : List Char) :
    throughLastPair? true text = (throughLastPair? false text).or (throughFirst? text) := by
  induction text with
  | nil => rfl
  | cons c rest ih =>
    rw [throughLastPair?, throughLastPair?, throughFirst?]
    by_cases hc : c = ')'
    · simp only [hc, if_true]
      cases throughLastPair? true rest <;> rfl
    · by_cases ho : c = '('
      · simp [ho]
      · simp only [hc, ho, if_false, ih, Option.map_or]

/-- How an expression goes on: with a part in parentheses, or through the first parenthesis. -/
def goesOn (text : List Char) : Option (List Char) :=
  if text.head? = some '(' then throughLastPair? false text else throughFirst? text

theorem goesOn_open (rest : List Char) :
    goesOn ('(' :: rest) = (throughLastPair? false rest).map ('(' :: ·) :=
  if_pos (List.head?_cons)

theorem goesOn_of_ne {c : Char} (rest : List Char) (h : c ≠ '(') :
    goesOn (c :: rest) = throughFirst? (c :: rest) :=
  if_neg (by simpa using h)

/-- **A part in parentheses reaches as far as it can be gone on from**: through the last parenthesis
that closes in front of another one. -/
theorem takes_part {next : List Char → Option (List Char)} {text : List Char}
    (hline : '\n' ∉ text)
    (hnext : ∀ rest : List Char, rest.length < text.length → '\n' ∉ rest →
      next rest = goesOn rest) :
    (Pattern.seq (.many (.one (· != '\n'))) (.literal [')'])).takes next text =
      throughLastPair? false text := by
  rw [Pattern.takes_seq]
  induction text with
  | nil => exact takes_class_nil _ _
  | cons c rest ih =>
    have hlines : c ≠ '\n' ∧ '\n' ∉ rest := by simpa [eq_comm] using hline
    have hrest := ih hlines.2 fun more hlt => hnext more (Nat.lt_succ_of_lt hlt)
    rw [takes_class_cons, hrest, takes_mark, throughLastPair?, if_pos (by simpa using hlines.1)]
    by_cases hc : c = ')'
    · rw [if_pos hc, if_pos hc, hnext rest (Nat.lt_succ_self _) hlines.2, throughLastPair?_true,
        ← Option.map_or]
      -- where another part could follow, this one has reached through it already
      have hor : (throughLastPair? false rest).or (goesOn rest) =
          (throughLastPair? false rest).or (throughFirst? rest) := by
        unfold goesOn
        split
        · next hopen =>
          obtain ⟨behind, rfl⟩ : ∃ behind, rest = '(' :: behind := by
            cases rest with
            | nil => cases hopen
            | cons d behind =>
              cases hopen
              exact ⟨behind, rfl⟩
          have hfirst : throughFirst? ('(' :: behind) = none := rfl
          rw [hfirst, Option.or_self, Option.or_none]
        · rfl
      rw [hor]
      cases (throughLastPair? false rest).or (throughFirst? rest) <;> rfl
    · by_cases ho : c = '('
      · simp [ho]
      · simp [hc, ho]

theorem takes_nesteds {text : List Char} (hline : '\n' ∉ text) :
    (Pattern.many nestedPattern).takes throughFirst? text = goesOn text := by
  obtain ⟨size, hsize⟩ : ∃ size, text.length ≤ size := ⟨_, Nat.le_refl _⟩
  induction size generalizing text with
  | zero =>
    obtain rfl : text = [] := by simpa using hsize
    rw [Pattern.takes_many, nestedPattern, Pattern.takes_seq, takes_mark_of_head? _ (by simp)]
    rfl
  | succ size ih =>
    rw [Pattern.takes_many, nestedPattern, Pattern.takes_seq, ← nestedPattern]
    cases text with
    | nil =>
      rw [takes_mark_of_head? _ (by simp)]
      rfl
    | cons c rest =>
      rw [takes_mark]
      by_cases ho : c = '('
      · subst ho
        have hrest : '\n' ∉ rest := fun hm => hline (List.mem_cons_of_mem _ hm)
        have hfirst : throughFirst? ('(' :: rest) = none := rfl
        rw [if_pos rfl, takes_part hrest, hfirst, Option.or_none, goesOn_open]
        intro more hlt hmore
        have hless : more.length < ('(' :: rest).length := Nat.lt_succ_of_lt hlt
        rw [List.length_cons] at hsize
        rw [if_pos hless, ih hmore (by omega)]
      · rw [if_neg ho, Option.none_or, goesOn_of_ne rest ho]

theorem takes_expression {body : List Char} (hline : '\n' ∉ body) :
    flatPattern.takes ((Pattern.many nestedPattern).takes throughFirst?) body =
      clauseBody? body := by
  induction body with
  | nil =>
    rw [flatPattern, takes_class_nil, takes_nesteds hline]
    rfl
  | cons c rest ih =>
    have hrest : '\n' ∉ rest := fun hm => hline (List.mem_cons_of_mem _ hm)
    rw [flatPattern, takes_class_cons, ← flatPattern, ih hrest, takes_nesteds hline]
    by_cases ho : c = '('
    · subst ho
      rw [goesOn_open]
      rfl
    · rw [goesOn_of_ne rest ho, clauseBody?, clauseBody?, throughFirst?, throughLastPair?]
      by_cases hc : c = ')'
      · simp [hc, isParenthesis]
      · have hflat : (!isParenthesis c) = true := by simp [isParenthesis, hc, ho]
        rw [if_pos hflat, if_neg hc, if_neg ho, if_neg hc, if_neg ho]
        cases throughFirst? rest <;> cases throughLastPair? false rest <;> rfl

theorem takes_bodyPattern {body : List Char} (hline : '\n' ∉ body) :
    bodyPattern.takes (fun _ => some []) body = clauseBody? body := by
  have hclosing : flatPattern.takes takesClosing = throughFirst? := funext takes_flat_closing
  rw [bodyPattern, Pattern.takes_seq, Pattern.takes_named, Pattern.takes_seq,
    ← takes_expression hline, ← hclosing]
  refine congrArg (flatPattern.takes · body) (funext fun text => ?_)
  rw [Pattern.takes_seq]
  rfl

/-! ## The opening of a clause -/

theorem ne_of_blank {c : Char} (h : isBlank c = true) : c ≠ '(' := by
  intro hc
  rw [hc] at h
  exact absurd h (by decide)

/-- **A clause opens** with its keyword, at most one blank and a parenthesis. -/
theorem checkBody?_eq_some_iff {text body : List Char} :
    checkBody? text = some body ↔ ∃ gap, Gap gap ∧ text = checkKey ++ (gap ++ '(' :: body) := by
  constructor
  · intro h
    unfold checkBody? at h
    split at h
    · next hkey =>
      obtain ⟨behind, rfl⟩ := List.isPrefixOf_iff_prefix.1 hkey
      rw [List.drop_left] at h
      split at h
      · cases h
        exact ⟨[], gap_nil, rfl⟩
      · next c body _ =>
        split at h
        · next hblank =>
          cases h
          exact ⟨[c], gap_singleton hblank, rfl⟩
        · cases h
      · cases h
    · cases h
  · intro ⟨gap, hgap, htext⟩
    have hkey : checkKey.isPrefixOf (checkKey ++ (gap ++ '(' :: body)) = true :=
      List.isPrefixOf_iff_prefix.2 (List.prefix_append _ _)
    rw [htext, checkBody?, if_pos hkey, List.drop_left]
    obtain rfl | ⟨c, hblank, rfl⟩ := hgap.cases
    · rfl
    · rw [List.singleton_append]
      split
      · next hc => exact absurd (List.cons.inj hc).1 (ne_of_blank hblank)
      · next hc =>
        cases hc
        exact if_pos hblank
      · next hno => exact absurd rfl (hno c body)

section
variable (next : List Char → Option (List Char)) {gap behind : List Char}

theorem takes_opening (body : List Char) (hgap : Gap gap) :
    (Pattern.optional (.one isBlank)).takes ((Pattern.literal ['(']).takes next)
        (gap ++ '(' :: body) = (next body).map fun taken => gap ++ '(' :: taken := by
  rw [Pattern.takes_optional]
  obtain rfl | ⟨c, hblank, rfl⟩ := hgap.cases
  · have hmark : ¬ isBlank '(' = true := by decide
    rw [List.nil_append, Pattern.takes_one_cons, if_neg hmark, Option.none_or, takes_mark,
      if_pos rfl]
    rfl
  · rw [List.cons_append, Pattern.takes_one_cons, if_pos hblank, List.nil_append, takes_mark,
      takes_mark, if_pos rfl, if_neg (ne_of_blank hblank), Option.or_none, Option.map_map]
    rfl

theorem takes_opening_eq_none (h : ∀ gap body, Gap gap → behind ≠ gap ++ '(' :: body) :
    (Pattern.optional (.one isBlank)).takes ((Pattern.literal ['(']).takes next) behind = none := by
  have hhead : ∀ text : List Char, (∀ body, text ≠ '(' :: body) → text.head? ≠ some '(' := by
    intro text htext hopen
    cases text with
    | nil => cases hopen
    | cons c body =>
      cases hopen
      exact htext body rfl
  rw [Pattern.takes_optional, takes_mark_of_head? _ (hhead behind fun body => h [] body gap_nil),
    Option.or_none]
  cases behind with
  | nil => rfl
  | cons c rest =>
    rw [Pattern.takes_one_cons]
    split
    · next hblank =>
      have hrest : ∀ body, rest ≠ '(' :: body := fun body hr =>
        h [c] body (gap_singleton hblank) (congrArg (c :: ·) hr)
      rw [takes_mark_of_head? _ (hhead rest hrest), Option.map_none]
    · rfl

end

/-! ## The whole clause -/

theorem clauseAt?_opening {gap : List Char} (body : List Char) (hgap : Gap gap) :
    clauseAt? (checkKey ++ (gap ++ '(' :: body)) =
      (clauseBody? body).map fun through => checkKey ++ (gap ++ '(' :: through) := by
  have htext : ∀ through, checkKey ++ (gap ++ '(' :: through) =
      (checkKey ++ (gap ++ ['('])) ++ through := by simp
  rw [clauseAt?, checkBody?_eq_some_iff.2 ⟨gap, hgap, rfl⟩, Option.bind_some, htext,
    List.length_append, Nat.add_sub_cancel, List.take_left]
  exact congrArg (Option.map · _) (funext fun through => (htext through).symm)

/-- **The clause in front of a text** is what the pattern takes there. -/
theorem taken_match?_checkPattern {text : List Char} (hline : '\n' ∉ text) :
    (checkPattern.match? text).map Way.taken = clauseAt? text := by
  rw [Pattern.taken_match?, checkPattern, Pattern.takes_seq, Pattern.takes_literal]
  by_cases hkey : checkKey.isPrefixOf text = true
  · obtain ⟨behind, rfl⟩ := List.isPrefixOf_iff_prefix.1 hkey
    rw [if_pos hkey, List.drop_left, Pattern.takes_seq, funext (Pattern.takes_seq _ _ _)]
    by_cases hopens : ∃ gap body, Gap gap ∧ behind = gap ++ '(' :: body
    · obtain ⟨gap, body, hgap, rfl⟩ := hopens
      have hbody : '\n' ∉ body := fun hm => hline (by simp [hm])
      rw [takes_opening _ body hgap, takes_bodyPattern hbody, clauseAt?_opening body hgap,
        Option.map_map]
      rfl
    · have hnone : ∀ gap body, Gap gap → behind ≠ gap ++ '(' :: body :=
        fun gap body hgap hb => hopens ⟨gap, body, hgap, hb⟩
      have hbody : checkBody? (checkKey ++ behind) = none := by
        rw [Option.eq_none_iff_forall_ne_some]
        intro body hb
        obtain ⟨gap, hgap, htext⟩ := checkBody?_eq_some_iff.1 hb
        exact hnone gap body hgap (List.append_cancel_left htext)
      rw [takes_opening_eq_none _ hnone, clauseAt?, hbody]
      rfl
  · rw [if_neg hkey, clauseAt?_eq_none (Bool.not_eq_true _ ▸ hkey)]

/-- **The first clause of a text** is what the pattern takes at the first place where it takes
anything. -/
theorem taken_find?_checkPattern {text : List Char} (hline : '\n' ∉ text) :
    (checkPattern.find? text).map Way.taken = findCheck? text := by
  induction text with
  | nil => exact taken_match?_checkPattern hline
  | cons c rest ih =>
    rw [Pattern.find?, Option.map_or, taken_match?_checkPattern hline, findCheck?,
      ih fun hm => hline (List.mem_cons_of_mem _ hm)]

end SchemaPhrase.Phrase
