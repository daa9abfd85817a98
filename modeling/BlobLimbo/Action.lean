import BlobLimbo.Event

/-!
# Actions on a state

An operation of a store or a limbo takes the state it works on and gives back a result, the state
afterwards and the events it reported. A failure keeps the state and the events up to the point
of failure: nothing is rolled back.
-/

namespace BlobLimbo

/-- What an operation leaves behind. -/
structure Outcome (σ α : Type) where
  /-- What the operation returns. -/
  value : α
  /-- The state afterwards. -/
  state : σ
  /-- The events reported on the way, first one first. -/
  events : List Event := []

namespace Outcome

variable {σ τ α β : Type}

/-- Changes what is returned. -/
def map (f : α → β) (outcome : Outcome σ α) : Outcome σ β :=
  { value := f outcome.value, state := outcome.state, events := outcome.events }

/-- Changes the state that is left behind. -/
def mapState (f : σ → τ) (outcome : Outcome σ α) : Outcome τ α :=
  { value := outcome.value, state := f outcome.state, events := outcome.events }

/-- Puts events in front of those reported. -/
def after (events : List Event) (outcome : Outcome σ α) : Outcome σ α :=
  { outcome with events := events ++ outcome.events }

end Outcome

/-- An operation on a state of type `σ` that returns an `α` or fails with an `ε`. -/
def Action (ε σ α : Type) : Type :=
  σ → Outcome σ (Except ε α)

namespace Action

variable {ε ε' σ τ α β : Type}

/-- Returns a value and does nothing else. -/
def done (value : α) : Action ε σ α := fun state =>
  { value := .ok value, state }

/-- Fails and does nothing else. -/
def fail (error : ε) : Action ε σ α := fun state =>
  { value := .error error, state }

/-- Runs a second action after the first one, unless that fails. -/
def andThen (first : Action ε σ α) (second : α → Action ε σ β) : Action ε σ β := fun state =>
  match first state with
  | { value := .ok value, state, events } => (second value state).after events
  | { value := .error error, state, events } => { value := .error error, state, events }

instance : Monad (Action ε σ) where
  pure := done
  bind := andThen

/-- Takes over the result of a computation without a state. -/
def ofExcept (result : Except ε α) : Action ε σ α := fun state =>
  { value := result, state }

/-- Reports an event. -/
def report (event : Event) : Action ε σ Unit := fun state =>
  { value := .ok (), state, events := [event] }

/-- The current state. -/
def current : Action ε σ σ := fun state =>
  { value := .ok state, state }

/-- Changes the state. -/
def modify (f : σ → σ) : Action ε σ Unit := fun state =>
  { value := .ok (), state := f state }

/-- Puts the failures of an action into another type. -/
def mapError (f : ε → ε') (action : Action ε σ α) : Action ε' σ α := fun state =>
  (action state).map (Except.mapError f)

/-- Reports an event when an action fails. -/
def reportFailure (describe : ε → Event) (action : Action ε σ α) : Action ε σ α := fun state =>
  match action state with
  | { value := .ok value, state, events } => { value := .ok value, state, events }
  | { value := .error error, state, events } =>
    { value := .error error, state, events := events ++ [describe error] }

/-- Runs an action on a part of a larger state. -/
def within (get : τ → σ) (set : τ → σ → τ) (action : Action ε σ α) : Action ε τ α := fun state =>
  (action (get state)).mapState (set state)

end Action

end BlobLimbo
