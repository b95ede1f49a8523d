import SchemaPhrase.Phrase.CheckClause
import SchemaPhrase.Proofs.Text.Occurrence

/-!
# Check clauses around balanced expressions

The search for a check clause matches parentheses by their order alone. `clauseAt?_clause`: on a
balanced expression it finds the clause and what it overruns of the text behind it. The two cases
are `throughFirst?_of_parenless`, where the first parenthesis closes and nothing is overrun, and
`throughLastPair?_of_closesAll`, where the last two neighbouring ones that close are looked for, and
are the end of the expression and the end of the clause unless two more follow.

A balanced text holds two neighbouring parentheses that close exactly if it nests them
(`throughLastPair?_eq_none_iff`). Whatever clause is found stands in the text
(`infix_of_findCheck?`).
-/

set_option autoImplicit false

namespace SchemaPhrase.Phrase

open Text

/-- Whether every parenthesis has its partner, with `depth` ones open in front of the text. -/
def closesAll (depth : Nat) : List Char → Bool
  | [] => depth == 0
  | c :: rest =>
    if c = '(' then closesAll (depth + 1) rest
    else if c = ')' then depth != 0 && closesAll (depth - 1) rest
    else closesAll depth rest

/-- Every parenthesis has its partner. -/
def Balanced (text : List Char) : Prop := closesAll 0 text = true

instance (text : List Char) : Decidable (Balanced text) :=
  inferInstanceAs (Decidable (closesAll 0 text = true))

/-- A text without parentheses. -/
def Parenless (text : List Char) : Prop := '(' ∉ text ∧ ')' ∉ text

instance (text : List Char) : Decidable (Parenless text) :=
  inferInstanceAs (Decidable ('(' ∉ text ∧ ')' ∉ text))

theorem parenless_nil : Parenless [] := ⟨List.not_mem_nil, List.not_mem_nil⟩

theorem parenless_cons {c : Char} {text : List Char} :
    Parenless (c :: text) ↔ (c ≠ '(' ∧ c ≠ ')') ∧ Parenless text := by
  simp only [Parenless, List.mem_cons, not_or, ne_eq, eq_comm (a := c)]
  exact and_and_and_comm

theorem parenless_append {text rest : List Char} :
    Parenless (text ++ rest) ↔ Parenless text ∧ Parenless rest := by
  simp only [Parenless, List.mem_append, not_or]
  exact and_and_and_comm

theorem parenless_joinWords {pieces : List (List Char)} (h : ∀ piece ∈ pieces, Parenless piece) :
    Parenless (joinWords pieces) := by
  induction pieces with
  | nil => exact parenless_nil
  | cons piece pieces ih =>
    obtain ⟨hpiece, hpieces⟩ := List.forall_mem_cons.1 h
    cases pieces with
    | nil => exact hpiece
    | cons next pieces =>
      rw [joinWords_cons_cons, parenless_append, parenless_cons]
      exact ⟨hpiece, by decide, ih hpieces⟩

/-! ## Expressions -/

theorem throughFirst?_of_parenless {text : List Char} (rest : List Char) (h : Parenless text) :
    throughFirst? (text ++ ')' :: rest) = some (text ++ [')']) := by
  induction text with
  | nil => rfl
  | cons c text ih =>
    obtain ⟨⟨ho, hc⟩, ht⟩ := parenless_cons.1 h
    simp [throughFirst?, ho, hc, ih ht]

theorem throughFirst?_of_balanced {text : List Char} (rest : List Char) (hb : Balanced text)
    (hp : ¬ Parenless text) : throughFirst? (text ++ rest) = none := by
  unfold Balanced at hb
  induction text with
  | nil => exact absurd parenless_nil hp
  | cons c text ih =>
    rw [closesAll] at hb
    by_cases ho : c = '('
    · subst ho; rfl
    · by_cases hc : c = ')'
      · simp [hc] at hb
      · rw [if_neg ho, if_neg hc] at hb
        have ht : ¬ Parenless text := fun ht => hp (parenless_cons.2 ⟨⟨ho, hc⟩, ht⟩)
        simp [throughFirst?, ho, hc, ih hb ht]

theorem throughLastPair?_of_parenless {text : List Char} (closed : Bool) (h : Parenless text) :
    throughLastPair? closed text = none := by
  induction text with
  | nil => rfl
  | cons c text ih =>
    obtain ⟨⟨ho, hc⟩, ht⟩ := parenless_cons.1 h
    simp [throughLastPair?, ho, hc, ih ht]

/-- **The last two neighbouring parentheses that close** are sought behind a text whose parentheses
all find their partner, and the one behind it; if there are none, they are the last one of the text
and the one behind it. Either one is open in front of the text, so that the text closes it, or the
one in front closes, or the text has parentheses of its own. -/
theorem throughLastPair?_of_closesAll {text : List Char} (after : List Char) {depth : Nat}
    {closed : Bool} (hb : closesAll depth text = true)
    (h : 0 < depth ∨ closed = true ∨ ¬ Parenless text) :
    throughLastPair? closed (text ++ ')' :: after) =
      some (text ++ ')' :: (throughLastPair? true after).getD []) := by
  induction text generalizing depth closed with
  | nil =>
    -- all that was open is closed, so the parenthesis in front closes, too
    have hdepth : depth = 0 := by simpa [closesAll] using hb
    have hclosed : closed = true := by simpa [hdepth, parenless_nil] using h
    rw [List.nil_append, List.nil_append, throughLastPair?, if_pos rfl, hclosed]
    cases throughLastPair? true after <;> rfl
  | cons c text ih =>
    rw [closesAll] at hb
    rw [List.cons_append, throughLastPair?]
    by_cases hc : c = ')'
    · rw [if_neg (by simp [hc]), if_pos hc, Bool.and_eq_true] at hb
      rw [if_pos hc, ih hb.2 (.inr (.inl rfl)), List.cons_append]
    · by_cases ho : c = '('
      · rw [if_pos ho] at hb
        rw [if_neg hc, if_pos ho, ih hb (.inl (Nat.succ_pos _)), Option.map_some, List.cons_append]
      · rw [if_neg ho, if_neg hc] at hb
        have ht : 0 < depth ∨ closed = true ∨ ¬ Parenless text := by
          refine h.imp_right fun h => h.imp_right fun hp ht => hp ?_
          exact parenless_cons.2 ⟨⟨ho, hc⟩, ht⟩
        rw [if_neg hc, if_neg ho, ih hb ht, Option.map_some, List.cons_append]

theorem throughLastPair?_ne_nil {closed : Bool} {text : List Char} :
    throughLastPair? closed text ≠ some [] := by
  cases text with
  | nil => simp [throughLastPair?]
  | cons c text =>
    rw [throughLastPair?]
    split
    · split
      · simp
      · split <;> simp
    · split <;> simp

/-! ## Nested parentheses -/

/-- Whether no more than `levels` parentheses are open at a time, with `depth` of them open in front
of the text. -/
def nestsWithin (levels depth : Nat) : List Char → Bool
  | [] => true
  | c :: rest =>
    if c = '(' then decide (depth < levels) && nestsWithin levels (depth + 1) rest
    else if c = ')' then nestsWithin levels (depth - 1) rest
    else nestsWithin levels depth rest

/-- Two neighbouring parentheses that close follow if two are open, or if one is and the parenthesis
in front closes. -/
theorem throughLastPair?_of_open {text : List Char} {depth : Nat} {closed : Bool}
    (hb : closesAll depth text = true) (h : 1 < depth ∨ 0 < depth ∧ closed = true) :
    (throughLastPair? closed text).isSome = true := by
  induction text generalizing depth closed with
  | nil =>
    have hdepth : depth = 0 := by simpa [closesAll] using hb
    omega
  | cons c text ih =>
    rw [closesAll] at hb
    rw [throughLastPair?]
    by_cases hc : c = ')'
    · rw [if_neg (by simp [hc]), if_pos hc, Bool.and_eq_true] at hb
      rw [if_pos hc]
      rcases h with h | ⟨-, rfl⟩
      · have hrest := ih hb.2 (.inr ⟨by omega, rfl⟩)
        obtain ⟨through, hthrough⟩ := Option.isSome_iff_exists.1 hrest
        rw [hthrough]
        rfl
      · split <;> rfl
    · by_cases ho : c = '('
      · rw [if_pos ho] at hb
        have hone : 0 < depth := by omega
        rw [if_neg hc, if_pos ho, Option.isSome_map]
        exact ih hb (.inl (by omega))
      · rw [if_neg ho, if_neg hc] at hb
        rw [if_neg hc, if_neg ho, Option.isSome_map]
        exact ih hb h

/-- **Without nesting no two parentheses that close are neighbours**, and with nesting some are. The
one in front of the text does not count if nothing is open. -/
theorem throughLastPair?_eq_none_iff_of_closesAll {text : List Char} {depth : Nat} {closed : Bool}
    (hb : closesAll depth text = true) (h : depth = 0 ∨ depth = 1 ∧ closed = false) :
    throughLastPair? closed text = none ↔ nestsWithin 1 depth text = true := by
  induction text generalizing depth closed with
  | nil => simp [throughLastPair?, nestsWithin]
  | cons c text ih =>
    rw [closesAll] at hb
    rw [throughLastPair?, nestsWithin]
    by_cases hc : c = ')'
    · have ho : c ≠ '(' := by simp [hc]
      rw [if_neg ho, if_pos hc, Bool.and_eq_true] at hb
      obtain ⟨rfl, rfl⟩ := h.resolve_left (by simpa using hb.1)
      have hrest : throughLastPair? true text = none ↔ nestsWithin 1 0 text = true :=
        ih hb.2 (.inl rfl)
      rw [if_pos hc, if_neg ho, if_pos hc, ← hrest]
      cases throughLastPair? true text <;> simp
    · by_cases ho : c = '('
      · rw [if_pos ho] at hb
        rw [if_neg hc, if_pos ho, if_pos ho, Option.map_eq_none_iff, Bool.and_eq_true,
          decide_eq_true_eq]
        rcases h with rfl | ⟨rfl, rfl⟩
        · rw [ih hb (.inr ⟨rfl, rfl⟩), and_iff_right Nat.one_pos]
        · have hsome : (throughLastPair? false text).isSome = true :=
            throughLastPair?_of_open hb (.inl (Nat.lt_succ_self 1))
          constructor
          · intro hnone
            rw [hnone] at hsome
            cases hsome
          · intro hlt
            exact absurd hlt.1 (Nat.lt_irrefl 1)
      · rw [if_neg ho, if_neg hc] at hb
        rw [if_neg hc, if_neg ho, if_neg ho, if_neg hc, Option.map_eq_none_iff]
        exact ih hb h

theorem throughLastPair?_eq_none_iff {text : List Char} (closed : Bool) (hb : Balanced text) :
    throughLastPair? closed text = none ↔ nestsWithin 1 0 text = true :=
  throughLastPair?_eq_none_iff_of_closesAll hb (.inl rfl)

theorem closesAll_append_of_parenless {front : List Char} (h : Parenless front) (depth : Nat)
    (text : List Char) : closesAll depth (front ++ text) = closesAll depth text := by
  induction front with
  | nil => rfl
  | cons c front ih =>
    obtain ⟨⟨ho, hc⟩, hfront⟩ := parenless_cons.1 h
    rw [List.cons_append, closesAll, if_neg ho, if_neg hc, ih hfront]

theorem nestsWithin_append_of_parenless {front : List Char} (h : Parenless front)
    (levels depth : Nat) (text : List Char) :
    nestsWithin levels depth (front ++ text) = nestsWithin levels depth text := by
  induction front with
  | nil => rfl
  | cons c front ih =>
    obtain ⟨⟨ho, hc⟩, hfront⟩ := parenless_cons.1 h
    rw [List.cons_append, nestsWithin, if_neg ho, if_neg hc, ih hfront]

/-! ## Clauses -/

/-- What a clause takes of the text behind it: nothing if its expression has no parentheses, else
all through the last two neighbouring ones that close. -/
def overrun (expression after : List Char) : List Char :=
  if Parenless expression then [] else (throughLastPair? true after).getD []

theorem overrun_eq_nil_iff {expression after : List Char} :
    overrun expression after = [] ↔ Parenless expression ∨ throughLastPair? true after = none := by
  unfold overrun
  by_cases hp : Parenless expression
  · simp [hp]
  · rw [if_neg hp, or_iff_right hp]
    cases h : throughLastPair? true after with
    | none => simp
    | some through =>
      have hne : through ≠ [] := fun hnil => throughLastPair?_ne_nil (hnil ▸ h)
      simp [hne]

theorem clauseBody?_of_balanced {text : List Char} (after : List Char) (hb : Balanced text) :
    clauseBody? (text ++ ')' :: after) = some (text ++ ')' :: overrun text after) := by
  unfold clauseBody? overrun
  by_cases hp : Parenless text
  · rw [throughFirst?_of_parenless _ hp, Option.some_or, if_pos hp]
  · rw [throughFirst?_of_balanced _ hb hp, Option.none_or, if_neg hp]
    exact throughLastPair?_of_closesAll after hb (.inr (.inr hp))

/-- A check clause over an expression. -/
def clause (expression : List Char) : List Char := checkKey ++ '(' :: expression ++ [')']

theorem clause_eq (expression : List Char) :
    clause expression = checkKey ++ ('(' :: expression ++ [')']) := by
  simp [clause]

theorem checkKey_infix_clause (expression : List Char) : checkKey <:+: clause expression :=
  clause_eq expression ▸ (List.prefix_append _ _).isInfix

/-- **The clause of a balanced expression** is found in front of a text, with what it overruns. -/
theorem clauseAt?_clause {expression : List Char} (after : List Char) (hb : Balanced expression) :
    clauseAt? (clause expression ++ after) =
      some (clause expression ++ overrun expression after) := by
  have htext : clause expression ++ after =
      (checkKey ++ ['(']) ++ (expression ++ ')' :: after) := by simp [clause]
  have hbody : checkBody? (clause expression ++ after) = some (expression ++ ')' :: after) := by
    simp [checkBody?, clause, checkKey]
  rw [clauseAt?, hbody, Option.bind_some, clauseBody?_of_balanced after hb, Option.map_some, htext,
    List.length_append, Nat.add_sub_cancel, List.take_left]
  simp [clause]

theorem clauseAt?_eq_none {text : List Char} (h : checkKey.isPrefixOf text = false) :
    clauseAt? text = none := by
  simp [clauseAt?, checkBody?, h]

/-- A clause at the first `check` is the first clause. -/
theorem findCheck?_of_splitAt? {text before after clause : List Char}
    (hs : splitAt? checkKey text = some (before, after))
    (hc : clauseAt? (checkKey ++ after) = some clause) : findCheck? text = some clause := by
  induction text generalizing before with
  | nil => cases hs
  | cons c rest ih =>
    rw [splitAt?] at hs
    by_cases hp : checkKey.isPrefixOf (c :: rest) = true
    · rw [if_pos hp, Option.some.injEq, Prod.mk.injEq] at hs
      obtain ⟨t, ht⟩ := List.isPrefixOf_iff_prefix.1 hp
      rw [← ht, List.drop_left] at hs
      rw [findCheck?, ← ht, hs.2, hc, Option.some_or]
    · rw [if_neg hp, Option.map_eq_some_iff] at hs
      obtain ⟨⟨before', after'⟩, hr, he⟩ := hs
      simp only [Prod.mk.injEq] at he
      obtain ⟨rfl, rfl⟩ := he
      rw [findCheck?, clauseAt?_eq_none (Bool.not_eq_true _ ▸ hp), Option.none_or, ih hr]

theorem prefix_of_throughFirst? {body through : List Char} (h : throughFirst? body = some through) :
    through <+: body := by
  induction body generalizing through with
  | nil => cases h
  | cons c body ih =>
    rw [throughFirst?] at h
    split at h
    · cases h
      exact List.cons_prefix_cons.2 ⟨rfl, List.nil_prefix⟩
    · split at h
      · cases h
      · obtain ⟨rest, hrest, rfl⟩ := Option.map_eq_some_iff.1 h
        exact List.cons_prefix_cons.2 ⟨rfl, ih hrest⟩

theorem prefix_of_throughLastPair? {closed : Bool} {body through : List Char}
    (h : throughLastPair? closed body = some through) : through <+: body := by
  induction body generalizing closed through with
  | nil => cases h
  | cons c body ih =>
    rw [throughLastPair?] at h
    split at h
    · split at h
      · next rest hrest =>
        cases h
        exact List.cons_prefix_cons.2 ⟨rfl, ih hrest⟩
      · split at h
        · cases h
          exact List.cons_prefix_cons.2 ⟨rfl, List.nil_prefix⟩
        · cases h
    · split at h
      all_goals
        obtain ⟨rest, hrest, rfl⟩ := Option.map_eq_some_iff.1 h
        exact List.cons_prefix_cons.2 ⟨rfl, ih hrest⟩

theorem prefix_of_clauseBody? {body through : List Char} (h : clauseBody? body = some through) :
    through <+: body := by
  rcases Option.or_eq_some_iff.1 h with h | ⟨-, h⟩
  · exact prefix_of_throughFirst? h
  · exact prefix_of_throughLastPair? h

theorem eq_of_checkBody? {text body : List Char} (h : checkBody? text = some body) :
    ∃ opening, text = checkKey ++ opening ++ body := by
  unfold checkBody? at h
  split at h
  · next hkey =>
    obtain ⟨behind, rfl⟩ := List.isPrefixOf_iff_prefix.1 hkey
    rw [List.drop_left] at h
    split at h
    · cases h
      exact ⟨['('], by simp⟩
    · next c body _ =>
      split at h
      · cases h
        exact ⟨[c, '('], by simp⟩
      · cases h
    · cases h
  · cases h

theorem prefix_of_clauseAt? {text clause : List Char} (h : clauseAt? text = some clause) :
    clause <+: text ∧ checkKey <+: clause := by
  obtain ⟨body, hbody, h⟩ := Option.bind_eq_some_iff.1 h
  obtain ⟨through, hthrough, rfl⟩ := Option.map_eq_some_iff.1 h
  obtain ⟨opening, rfl⟩ := eq_of_checkBody? hbody
  rw [List.length_append, Nat.add_sub_cancel, List.take_left, List.prefix_append_right_inj]
  refine ⟨prefix_of_clauseBody? hthrough, ?_⟩
  rw [List.append_assoc]
  exact List.prefix_append _ _

/-- **The clause that is found stands in the text**, and begins with its keyword. -/
theorem infix_of_findCheck? {text clause : List Char} (h : findCheck? text = some clause) :
    clause <:+: text ∧ checkKey <+: clause := by
  induction text with
  | nil => cases h
  | cons c rest ih =>
    rcases Option.or_eq_some_iff.1 h with h | ⟨-, h⟩
    · exact ⟨(prefix_of_clauseAt? h).1.isInfix, (prefix_of_clauseAt? h).2⟩
    · exact ⟨List.infix_cons (ih h).1, (ih h).2⟩

end SchemaPhrase.Phrase
