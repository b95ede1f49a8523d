import SchemaPhrase.Event

/-!
# Runs taken apart

A run of several parts succeeds with a value exactly if each part does, with the values that the
next one is given (`bind_eq_ok`, `Traced.result_bind_eq_ok`), and fails with the cause of the first
part that does (`bind_eq_error`, `Traced.result_bind_eq_error`). The lemmas take such a run apart
without opening it. Runs are told apart by their events, too, and grouping the parts of a run in
another way changes neither (`LawfulMonad`).
-/

set_option autoImplicit false

namespace SchemaPhrase

variable {ε ε' α β : Type}

theorem bind_eq_ok {run : Except ε α} {next : α → Except ε β} {value : β} :
    run >>= next = .ok value ↔ ∃ first, run = .ok first ∧ next first = .ok value := by
  constructor
  · intro h
    cases run with
    | error cause => cases h
    | ok first => exact ⟨first, rfl, h⟩
  · rintro ⟨first, rfl, h⟩
    exact h

theorem bind_eq_error {run : Except ε α} {next : α → Except ε β} {cause : ε} :
    run >>= next = .error cause ↔
      run = .error cause ∨ ∃ first, run = .ok first ∧ next first = .error cause := by
  cases run with
  | error other =>
    constructor
    · intro h
      cases h
      exact .inl rfl
    · rintro (h | ⟨_, hok, -⟩)
      · cases h
        rfl
      · cases hok
  | ok first =>
    constructor
    · intro h
      exact .inr ⟨first, rfl, h⟩
    · rintro (h | ⟨_, hok, h⟩)
      · cases h
      · cases hok
        exact h

theorem mapError_eq_ok {f : ε → ε'} {run : Except ε α} {value : α} :
    run.mapError f = .ok value ↔ run = .ok value := by
  constructor
  · intro h
    cases run with
    | error cause => cases h
    | ok first => exact congrArg Except.ok (Except.ok.inj h)
  · rintro rfl
    rfl

theorem mapError_eq_error {f : ε → ε'} {run : Except ε α} {cause : ε'} :
    run.mapError f = .error cause ↔ ∃ first, run = .error first ∧ f first = cause := by
  cases run with
  | error first =>
    constructor
    · intro h
      exact ⟨first, rfl, Except.error.inj h⟩
    · rintro ⟨_, herror, rfl⟩
      cases herror
      rfl
  | ok value =>
    constructor
    · intro h
      cases h
    · rintro ⟨_, herror, -⟩
      cases herror

theorem toOption_eq_some {run : Except ε α} {value : α} :
    run.toOption = some value ↔ run = .ok value := by
  cases run with
  | error cause => exact ⟨nofun, nofun⟩
  | ok first => exact ⟨fun h => congrArg Except.ok (Option.some.inj h), fun h => by cases h; rfl⟩

namespace Traced

theorem result_bind_eq_ok {run : Traced ε α} {next : α → Traced ε β} {value : β} :
    (run >>= next).result = .ok value ↔
      ∃ first, run.result = .ok first ∧ (next first).result = .ok value := by
  rw [result_bind]
  exact bind_eq_ok

theorem result_bind_eq_error {run : Traced ε α} {next : α → Traced ε β} {cause : ε} :
    (run >>= next).result = .error cause ↔ run.result = .error cause ∨
      ∃ first, run.result = .ok first ∧ (next first).result = .error cause := by
  rw [result_bind]
  exact bind_eq_error

theorem result_mapError_eq_ok {f : ε → ε'} {run : Traced ε α} {value : α} :
    (run.mapError f).result = .ok value ↔ run.result = .ok value := by
  rw [result_mapError]
  exact mapError_eq_ok

/-- A part that tells nothing leaves the events of the run before it. -/
theorem events_bind_of_silent {run : Traced ε α} {next : α → Traced ε β}
    (h : ∀ value, (next value).events = []) : (run >>= next).events = run.events := by
  rw [events_bind]
  cases run.result with
  | error cause => exact List.append_nil _
  | ok value =>
    simp only [h]
    exact List.append_nil _

theorem events_bind_pure (run : Traced ε α) (f : α → β) :
    (run >>= fun value => pure (f value)).events = run.events :=
  events_bind_of_silent fun _ => rfl

/-- An event of a run is told by its first part, or by the next one after a success of the first. -/
theorem mem_events_bind {run : Traced ε α} {next : α → Traced ε β} {event : Event} :
    event ∈ (run >>= next).events ↔ event ∈ run.events ∨
      ∃ value, run.result = .ok value ∧ event ∈ (next value).events := by
  rw [events_bind]
  cases run.result <;> simp

/-- What follows a run need only agree on the values that the run gives. -/
theorem bind_congr_of_ok {run : Traced ε α} {next other : α → Traced ε β}
    (h : ∀ value, run.result = .ok value → next value = other value) :
    run >>= next = run >>= other := by
  show Traced.bind run next = Traced.bind run other
  unfold Traced.bind
  cases hrun : run.result with
  | error cause => rfl
  | ok value => simp only [h value hrun]

/-- A run that succeeds without events hands its value on. -/
theorem lift_ok_bind (value : α) (next : α → Traced ε β) :
    lift (.ok value) >>= next = next value := by
  show Traced.bind _ _ = _
  simp [Traced.bind]

/-- The events of three parts are told in order, however the parts are grouped. -/
instance : LawfulMonad (Traced ε) := by
  refine LawfulMonad.mk' (Traced ε) ?_ lift_ok_bind ?_
  · intro α run
    show Traced.bind run (fun value => lift (.ok (id value))) = run
    obtain ⟨events, result⟩ := run
    cases result <;> simp [Traced.bind]
  · intro α β γ run next last
    show Traced.bind (Traced.bind run next) last =
      Traced.bind run fun value => Traced.bind (next value) last
    obtain ⟨events, result⟩ := run
    cases result with
    | error cause => simp [Traced.bind]
    | ok value =>
      simp only [Traced.bind]
      cases (next value).result <;> simp

end Traced

end SchemaPhrase
