import SchemaPhrase.Text.Search

/-!
# Patterns

A `Pattern` says what may stand in front of a text. Often it can take the front in several ways:
`Pattern.ways` lists them in order of preference, where an optional part is rather taken than left
out and a repeated one rather taken once more. `Pattern.find?` gives the preferred way at the first
place where there is one.

`Pattern.attempt` offers the ways one after another to a test, and gives what the first one that
passes is made into. Its equations, `attempt_seq` to `attempt_named`, read a pattern from left to
right as a search with backtracking does, so that nobody has to list the ways. Where only the text
that is taken matters, the equations of `Pattern.takes` say the same without captures, and those of
`Pattern.reads` where only the captures do. A class of characters that is repeated takes its maximal
run, unless the test passes only for less (`attempt_many_one`, `attempt_run`).
-/

set_option autoImplicit false

namespace SchemaPhrase.Text

/-! ## Ways -/

theorem findSome?_flatMap {α β γ : Type} (f : γ → Option β) (g : α → List γ) (items : List α) :
    (items.flatMap g).findSome? f = items.findSome? fun item => (g item).findSome? f := by
  induction items with
  | nil => rfl
  | cons item items ih =>
    rw [List.flatMap_cons, List.findSome?_append, ih, List.findSome?_cons]
    cases (g item).findSome? f <;> rfl

/-- A way to take the front of a text. -/
structure Way where
  taken : List Char
  /-- The parts that are captured, under their names. -/
  captures : List (String × List Char)
  rest : List Char
  deriving DecidableEq, Repr

namespace Way

/-- Takes nothing. -/
def nothing (text : List Char) : Way := ⟨[], [], text⟩

/-- A way, and another one behind it. -/
def followedBy (way next : Way) : Way :=
  ⟨way.taken ++ next.taken, way.captures ++ next.captures, next.rest⟩

/-- The way with all that it takes captured. -/
def capture (name : String) (way : Way) : Way :=
  { way with captures := (name, way.taken) :: way.captures }

/-- The part captured under a name. -/
def capture? (way : Way) (name : String) : Option (List Char) :=
  way.captures.lookup name

/-- The ways to repeat `step`, rather once more than not. A round has to take something, so that the
rounds come to an end. -/
def rounds (step : List Char → List Way) (text : List Char) : List Way :=
  (step text).flatMap (fun way =>
    if way.rest.length < text.length then (rounds step way.rest).map way.followedBy else []) ++
    [nothing text]
termination_by text.length

end Way

/-! ## Patterns -/

/-- What may stand in front of a text. -/
inductive Pattern where
  /-- One character of a class. -/
  | one (accepts : Char → Bool)
  /-- A fixed text. -/
  | literal (key : List Char)
  | seq (first second : Pattern)
  /-- The pattern, or nothing. -/
  | optional (inner : Pattern)
  /-- The pattern any number of times. -/
  | many (inner : Pattern)
  /-- The pattern, and what it takes is captured. -/
  | named (name : String) (inner : Pattern)

namespace Pattern

/-- The characters of a class, one at least. -/
def run (accepts : Char → Bool) : Pattern := seq (one accepts) (many (one accepts))

/-- The ways in which a pattern takes the front of a text, the preferred one first. -/
def ways : Pattern → List Char → List Way
  | one _, [] => []
  | one accepts, c :: rest => if accepts c then [⟨[c], [], rest⟩] else []
  | literal key, text => if key.isPrefixOf text then [⟨key, [], text.drop key.length⟩] else []
  | seq first second, text =>
    (first.ways text).flatMap fun way => (second.ways way.rest).map way.followedBy
  | optional inner, text => inner.ways text ++ [.nothing text]
  | many inner, text => Way.rounds inner.ways text
  | named name inner, text => (inner.ways text).map (·.capture name)

/-- The preferred way in front of a text. -/
def match? (pattern : Pattern) (text : List Char) : Option Way :=
  (pattern.ways text).head?

/-- The preferred way at the first place of a text where there is one. -/
def find? (pattern : Pattern) : List Char → Option Way
  | [] => pattern.match? []
  | c :: rest => (pattern.match? (c :: rest)).or (find? pattern rest)

/-! ## Attempts -/

section
variable {β : Type}

/-- What `next` makes of the first way that it accepts. -/
def attempt (pattern : Pattern) (text : List Char) (next : Way → Option β) : Option β :=
  (pattern.ways text).findSome? next

theorem match?_eq_attempt (pattern : Pattern) (text : List Char) :
    pattern.match? text = pattern.attempt text some := by
  unfold match? attempt
  cases pattern.ways text <;> rfl

variable (next : Way → Option β)

theorem attempt_one_nil (accepts : Char → Bool) : (one accepts).attempt [] next = none := rfl

theorem attempt_one_cons (accepts : Char → Bool) (c : Char) (rest : List Char) :
    (one accepts).attempt (c :: rest) next =
      if accepts c then next ⟨[c], [], rest⟩ else none := by
  unfold attempt ways
  split
  · exact List.findSome?_singleton
  · rfl

theorem attempt_literal (key text : List Char) :
    (literal key).attempt text next =
      if key.isPrefixOf text then next ⟨key, [], text.drop key.length⟩ else none := by
  unfold attempt ways
  split
  · exact List.findSome?_singleton
  · rfl

theorem attempt_seq (first second : Pattern) (text : List Char) :
    (seq first second).attempt text next =
      first.attempt text fun way =>
        second.attempt way.rest fun behind => next (way.followedBy behind) := by
  simp only [attempt, ways, findSome?_flatMap, List.findSome?_map]
  rfl

theorem attempt_optional (inner : Pattern) (text : List Char) :
    (optional inner).attempt text next = (inner.attempt text next).or (next (.nothing text)) := by
  simp only [attempt, ways, List.findSome?_append, List.findSome?_singleton]

theorem attempt_named (name : String) (inner : Pattern) (text : List Char) :
    (named name inner).attempt text next =
      inner.attempt text fun way => next (way.capture name) := by
  simp only [attempt, ways, List.findSome?_map]
  rfl

/-- **A repeated pattern** is taken once and then repeated again, or not at all. -/
theorem attempt_many (inner : Pattern) (text : List Char) :
    (many inner).attempt text next =
      (inner.attempt text fun way =>
        if way.rest.length < text.length then
          (many inner).attempt way.rest fun behind => next (way.followedBy behind)
        else none).or (next (.nothing text)) := by
  simp only [attempt, ways]
  rw [Way.rounds, List.findSome?_append, List.findSome?_singleton, findSome?_flatMap]
  refine congrArg (Option.or · _) (congrArg (List.findSome? · _) (funext fun way => ?_))
  split
  · rw [List.findSome?_map]
    rfl
  · rfl

/-! ### Runs of a class -/

variable {next}

/-- **The maximal run of a class** is what a repeated class takes, if nothing less passes when it
does not. -/
theorem attempt_many_one {accepts : Char → Bool} {text : List Char}
    (h : next ⟨text.takeWhile accepts, [], text.dropWhile accepts⟩ = none →
      ∀ (way : Way) (c : Char), way.rest.head? = some c → accepts c = true → next way = none) :
    (many (one accepts)).attempt text next =
      next ⟨text.takeWhile accepts, [], text.dropWhile accepts⟩ := by
  induction text generalizing next with
  | nil =>
    rw [attempt_many, attempt_one_nil, Option.none_or]
    rfl
  | cons c rest ih =>
    rw [attempt_many, attempt_one_cons]
    by_cases hc : accepts c = true
    · rw [List.takeWhile_cons_of_pos hc, List.dropWhile_cons_of_pos hc] at h ⊢
      have hless : rest.length < (c :: rest).length := Nat.lt_succ_self _
      have hagain : ((many (one accepts)).attempt rest fun way =>
            next (Way.followedBy ⟨[c], [], rest⟩ way)) =
          next ⟨c :: rest.takeWhile accepts, [], rest.dropWhile accepts⟩ :=
        ih fun hnone way => h hnone (Way.followedBy ⟨[c], [], rest⟩ way)
      dsimp only
      rw [if_pos hc, if_pos hless, hagain]
      cases hfull : next ⟨c :: rest.takeWhile accepts, [], rest.dropWhile accepts⟩ with
      | none => exact h hfull (.nothing (c :: rest)) c rfl hc
      | some value => rfl
    · rw [if_neg hc, Option.none_or, List.takeWhile_cons_of_neg hc, List.dropWhile_cons_of_neg hc]
      rfl

/-- A run that must not be empty. -/
theorem attempt_run {accepts : Char → Bool} {text : List Char}
    (h : next ⟨text.takeWhile accepts, [], text.dropWhile accepts⟩ = none →
      ∀ (way : Way) (c : Char), way.rest.head? = some c → accepts c = true → next way = none) :
    (run accepts).attempt text next =
      if (text.takeWhile accepts).isEmpty then none
      else next ⟨text.takeWhile accepts, [], text.dropWhile accepts⟩ := by
  rw [run, attempt_seq]
  cases text with
  | nil => rfl
  | cons c rest =>
    rw [attempt_one_cons]
    by_cases hc : accepts c = true
    · rw [List.takeWhile_cons_of_pos hc, List.dropWhile_cons_of_pos hc] at h ⊢
      rw [if_pos hc]
      have hrest : ((many (one accepts)).attempt rest fun way =>
            next (Way.followedBy ⟨[c], [], rest⟩ way)) =
          next ⟨c :: rest.takeWhile accepts, [], rest.dropWhile accepts⟩ :=
        attempt_many_one fun hnone way => h hnone (Way.followedBy ⟨[c], [], rest⟩ way)
      exact hrest
    · rw [if_neg hc, List.takeWhile_cons_of_neg hc]
      rfl

end

/-! ## What is taken -/

/-- What a pattern takes, with what `next` takes behind it. -/
def takes (pattern : Pattern) (next : List Char → Option (List Char)) (text : List Char) :
    Option (List Char) :=
  pattern.attempt text fun way => (next way.rest).map (way.taken ++ ·)

theorem taken_match? (pattern : Pattern) (text : List Char) :
    (pattern.match? text).map Way.taken = pattern.takes (fun _ => some []) text := by
  rw [match?_eq_attempt, attempt, takes, attempt, List.map_findSome?]
  refine congrArg (List.findSome? · _) (funext fun way => ?_)
  show some way.taken = some (way.taken ++ [])
  rw [List.append_nil]

section
variable (next : List Char → Option (List Char))

/-- What is taken behind a text that is taken already. -/
theorem attempt_behind (pattern : Pattern) (front : Way) (text : List Char) :
    (pattern.attempt text fun way =>
        (next (front.followedBy way).rest).map ((front.followedBy way).taken ++ ·)) =
      (pattern.takes next text).map (front.taken ++ ·) := by
  rw [takes, attempt, attempt, List.map_findSome?]
  refine congrArg (List.findSome? · _) (funext fun way => ?_)
  simp [Way.followedBy, Function.comp_def]

theorem takes_literal (key text : List Char) :
    (literal key).takes next text =
      if key.isPrefixOf text then (next (text.drop key.length)).map (key ++ ·) else none :=
  attempt_literal _ key text

theorem takes_one_nil (accepts : Char → Bool) : (one accepts).takes next [] = none := rfl

theorem takes_one_cons (accepts : Char → Bool) (c : Char) (rest : List Char) :
    (one accepts).takes next (c :: rest) =
      if accepts c then (next rest).map (c :: ·) else none :=
  attempt_one_cons _ accepts c rest

theorem takes_seq (first second : Pattern) (text : List Char) :
    (seq first second).takes next text = first.takes (second.takes next) text := by
  rw [takes, attempt_seq]
  exact congrArg (first.attempt text) (funext fun way => attempt_behind next second way way.rest)

theorem takes_optional (inner : Pattern) (text : List Char) :
    (optional inner).takes next text = (inner.takes next text).or (next text) := by
  rw [takes, attempt_optional]
  refine congrArg (Option.or _) ?_
  simp [Way.nothing]

theorem takes_named (name : String) (inner : Pattern) (text : List Char) :
    (named name inner).takes next text = inner.takes next text :=
  attempt_named _ name inner text

theorem takes_many (inner : Pattern) (text : List Char) :
    (many inner).takes next text =
      (inner.takes (fun rest =>
        if rest.length < text.length then (many inner).takes next rest else none) text).or
        (next text) := by
  have hnothing : (next (Way.nothing text).rest).map ((Way.nothing text).taken ++ ·) =
      next text := by
    simp [Way.nothing]
  rw [takes, attempt_many, hnothing]
  refine congrArg (Option.or · _) (congrArg (inner.attempt text) (funext fun way => ?_))
  by_cases hless : way.rest.length < text.length
  · simp only [if_pos hless]
    exact attempt_behind next (many inner) way way.rest
  · simp only [if_neg hless, Option.map_none]

end

/-! ## What is captured -/

/-- What `next` makes of the captures and of the text behind them. -/
def reads {β : Type} (pattern : Pattern)
    (next : List (String × List Char) → List Char → Option β) (text : List Char) : Option β :=
  pattern.attempt text fun way => next way.captures way.rest

theorem captures_match? (pattern : Pattern) (text : List Char) :
    (pattern.match? text).map Way.captures =
      pattern.reads (fun captures _ => some captures) text := by
  rw [match?_eq_attempt, attempt, reads, attempt, List.map_findSome?]
  rfl

section
variable {β : Type} (next : List (String × List Char) → List Char → Option β)

theorem reads_literal (key text : List Char) :
    (literal key).reads next text =
      if key.isPrefixOf text then next [] (text.drop key.length) else none :=
  attempt_literal _ key text

theorem reads_seq (first second : Pattern) (text : List Char) :
    (seq first second).reads next text =
      first.reads (fun captures =>
        second.reads fun behind => next (captures ++ behind)) text :=
  attempt_seq _ first second text

theorem reads_optional (inner : Pattern) (text : List Char) :
    (optional inner).reads next text = (inner.reads next text).or (next [] text) :=
  attempt_optional _ inner text

variable {next}

/-- A run under a name is the maximal run, if nothing less passes when it does not. -/
theorem reads_named_run {name : String} {accepts : Char → Bool} {text : List Char}
    (h : next [(name, text.takeWhile accepts)] (text.dropWhile accepts) = none →
      ∀ captures c rest, accepts c = true → next captures (c :: rest) = none) :
    (named name (run accepts)).reads next text =
      if (text.takeWhile accepts).isEmpty then none
      else next [(name, text.takeWhile accepts)] (text.dropWhile accepts) := by
  rw [reads, attempt_named]
  refine attempt_run fun hnone way c hc haccepts => ?_
  show next ((name, way.taken) :: way.captures) way.rest = none
  obtain ⟨rest, hrest⟩ := List.head?_eq_some_iff.1 hc
  rw [hrest]
  exact h hnone _ c rest haccepts

/-- A character that may be left out is taken if it is there, if otherwise nothing passes. -/
theorem reads_optional_one {accepts : Char → Bool} {text : List Char}
    (h : ∀ c rest, accepts c = true → next [] (c :: rest) = none) :
    (optional (one accepts)).reads next text =
      next [] (if text.head?.any accepts then text.tail else text) := by
  rw [reads_optional]
  cases text with
  | nil => rfl
  | cons c rest =>
    rw [reads, attempt_one_cons]
    by_cases hc : accepts c = true
    · rw [if_pos hc, h c rest hc, Option.or_none]
      simp [hc]
    · rw [if_neg hc, Option.none_or]
      simp [hc]

end

end Pattern

end SchemaPhrase.Text
