/-!
# Events of a run

Reading a column tells what it did by events: a phrase was taken apart, a type is not known, a
field was corrected. A run that may fail and tells events is a `Traced` value; the events up to a
failure are kept.
-/

set_option autoImplicit false

namespace SchemaPhrase

inductive Event where
  /-- A phrase, as given in `source`, was taken apart; `dtype` is what is left for the data type. -/
  | phrase (source dtype : String)
  /-- A type name is not known, and the generic type stands for it. -/
  | fallback (typeName : String)
  /-- A primary key was said to be nullable, and is not. -/
  | corrected (column : String)
  deriving DecidableEq, Repr

inductive Level where
  | error
  | warn
  | info
  | debug
  | trace
  deriving DecidableEq, Repr

/-- The name of a level. -/
def Level.name : Level → String
  | error => "ERROR"
  | warn => "WARN"
  | info => "INFO"
  | debug => "DEBUG"
  | trace => "TRACE"

namespace Event

/-- How much an event matters. -/
def level : Event → Level
  | phrase _ _ => .debug
  | fallback _ => .warn
  | corrected _ => .info

def message : Event → String
  | phrase _ _ => "armored.phrase"
  | fallback _ => "armored.dtype.fallback"
  | corrected _ => "armored.column.corrected"

/-- The fields of an event, its message aside. -/
def fields : Event → List (String × String)
  | phrase source dtype => [("phrase", source), ("dtype", dtype)]
  | fallback typeName => [("type_name", typeName)]
  | corrected column => [("column", column), ("field", "nullable")]

end Event

/-- A result and the events told on the way to it. -/
structure Traced (ε α : Type) where
  events : List Event
  result : Except ε α

namespace Traced

variable {ε ε' α β : Type}

/-- A result without events. -/
def lift (result : Except ε α) : Traced ε α :=
  ⟨[], result⟩

/-- A failure without events. -/
def fail (cause : ε) : Traced ε α :=
  lift (.error cause)

/-- One event. -/
def emit (event : Event) : Traced ε Unit :=
  ⟨[event], .ok ()⟩

/-- Goes on after a success, with the events of both parts in order. -/
protected def bind (run : Traced ε α) (next : α → Traced ε β) : Traced ε β :=
  match run.result with
  | .ok value => ⟨run.events ++ (next value).events, (next value).result⟩
  | .error cause => ⟨run.events, .error cause⟩

instance : Monad (Traced ε) where
  pure value := lift (.ok value)
  bind := Traced.bind

/-- The run with another type of error. -/
def mapError (f : ε → ε') (run : Traced ε α) : Traced ε' α :=
  ⟨run.events, run.result.mapError f⟩

@[simp] theorem result_lift (result : Except ε α) : (lift result).result = result := rfl

@[simp] theorem events_lift (result : Except ε α) : (lift result).events = [] := rfl

@[simp] theorem result_fail (cause : ε) : (fail cause : Traced ε α).result = .error cause := rfl

@[simp] theorem events_fail (cause : ε) : (fail cause : Traced ε α).events = [] := rfl

@[simp] theorem result_emit (event : Event) : (emit event : Traced ε Unit).result = .ok () := rfl

@[simp] theorem events_emit (event : Event) : (emit event : Traced ε Unit).events = [event] := rfl

@[simp] theorem result_mapError (f : ε → ε') (run : Traced ε α) :
    (run.mapError f).result = run.result.mapError f := rfl

@[simp] theorem events_mapError (f : ε → ε') (run : Traced ε α) :
    (run.mapError f).events = run.events := rfl

@[simp] theorem result_pure (value : α) : (pure value : Traced ε α).result = .ok value := rfl

@[simp] theorem events_pure (value : α) : (pure value : Traced ε α).events = [] := rfl

@[simp] theorem result_bind (run : Traced ε α) (next : α → Traced ε β) :
    (run >>= next).result = run.result.bind fun value => (next value).result := by
  show (Traced.bind run next).result = _
  unfold Traced.bind
  cases run.result <;> rfl

/-- The events of the second part follow only a success of the first. -/
theorem events_bind (run : Traced ε α) (next : α → Traced ε β) :
    (run >>= next).events =
      run.events ++ match run.result with
        | .ok value => (next value).events
        | .error _ => [] := by
  show (Traced.bind run next).events = _
  unfold Traced.bind
  cases run.result <;> simp

end Traced

end SchemaPhrase
