import BlobLimbo.Action

/-!
# What actions return and leave behind

The result and the final state of an action, for each way of making one. A chain of actions is
followed by rewriting with these equations and the results of its steps.
-/

namespace BlobLimbo

namespace Outcome

variable {σ τ α β : Type}

@[simp] theorem value_after (events : List Event) (outcome : Outcome σ α) :
    (outcome.after events).value = outcome.value := rfl

@[simp] theorem state_after (events : List Event) (outcome : Outcome σ α) :
    (outcome.after events).state = outcome.state := rfl

@[simp] theorem value_map (f : α → β) (outcome : Outcome σ α) :
    (outcome.map f).value = f outcome.value := rfl

@[simp] theorem state_map (f : α → β) (outcome : Outcome σ α) :
    (outcome.map f).state = outcome.state := rfl

@[simp] theorem value_mapState (f : σ → τ) (outcome : Outcome σ α) :
    (outcome.mapState f).value = outcome.value := rfl

@[simp] theorem state_mapState (f : σ → τ) (outcome : Outcome σ α) :
    (outcome.mapState f).state = f outcome.state := rfl

@[simp] theorem events_mapState (f : σ → τ) (outcome : Outcome σ α) :
    (outcome.mapState f).events = outcome.events := rfl

end Outcome

namespace Action

variable {ε ε' σ τ α β : Type}

/-- The second action works on the state the first one left. -/
theorem bind_of_ok {first : Action ε σ α} {second : α → Action ε σ β} {state : σ} {value : α}
    (hok : (first state).value = .ok value) :
    (first >>= second) state = (second value (first state).state).after (first state).events := by
  change andThen first second state = _
  unfold andThen
  cases hfirst : first state with
  | mk result left events =>
    rw [hfirst] at hok
    cases hok
    rfl

/-- After a failure nothing else is done. -/
theorem bind_of_error {first : Action ε σ α} {second : α → Action ε σ β} {state : σ} {error : ε}
    (herror : (first state).value = .error error) :
    (first >>= second) state =
      { value := .error error, state := (first state).state, events := (first state).events } := by
  change andThen first second state = _
  unfold andThen
  cases hfirst : first state with
  | mk result left events =>
    rw [hfirst] at herror
    cases herror
    rfl

/-- A chain that succeeds is two actions that succeed one after the other. -/
theorem of_bind_eq_ok {first : Action ε σ α} {second : α → Action ε σ β} {state : σ} {result : β}
    (hok : ((first >>= second) state).value = .ok result) :
    ∃ value, (first state).value = .ok value ∧
      (second value (first state).state).value = .ok result ∧
      ((first >>= second) state).state = (second value (first state).state).state := by
  cases hfirst : (first state).value with
  | error error => simp [bind_of_error hfirst] at hok
  | ok value =>
    rw [bind_of_ok hfirst] at hok ⊢
    exact ⟨value, rfl, hok, rfl⟩

@[simp] theorem pure_apply (value : α) (state : σ) :
    (pure value : Action ε σ α) state = { value := .ok value, state } := rfl

@[simp] theorem done_apply (value : α) (state : σ) :
    (done value : Action ε σ α) state = { value := .ok value, state } := rfl

@[simp] theorem fail_apply (error : ε) (state : σ) :
    (fail error : Action ε σ α) state = { value := .error error, state } := rfl

@[simp] theorem ofExcept_apply (result : Except ε α) (state : σ) :
    (ofExcept result : Action ε σ α) state = { value := result, state } := rfl

@[simp] theorem report_apply (event : Event) (state : σ) :
    (report event : Action ε σ Unit) state = { value := .ok (), state, events := [event] } := rfl

@[simp] theorem current_apply (state : σ) :
    (current : Action ε σ σ) state = { value := .ok state, state } := rfl

@[simp] theorem modify_apply (f : σ → σ) (state : σ) :
    (modify f : Action ε σ Unit) state = { value := .ok (), state := f state } := rfl

@[simp] theorem value_mapError (f : ε → ε') (action : Action ε σ α) (state : σ) :
    (action.mapError f state).value = (action state).value.mapError f := rfl

@[simp] theorem state_mapError (f : ε → ε') (action : Action ε σ α) (state : σ) :
    (action.mapError f state).state = (action state).state := rfl

@[simp] theorem value_within (get : τ → σ) (set : τ → σ → τ) (action : Action ε σ α) (state : τ) :
    (action.within get set state).value = (action (get state)).value := rfl

@[simp] theorem state_within (get : τ → σ) (set : τ → σ → τ) (action : Action ε σ α) (state : τ) :
    (action.within get set state).state = set state (action (get state)).state := rfl

@[simp] theorem value_reportFailure (describe : ε → Event) (action : Action ε σ α) (state : σ) :
    (action.reportFailure describe state).value = (action state).value := by
  unfold reportFailure
  cases action state with
  | mk result left events => cases result <;> rfl

@[simp] theorem state_reportFailure (describe : ε → Event) (action : Action ε σ α) (state : σ) :
    (action.reportFailure describe state).state = (action state).state := by
  unfold reportFailure
  cases action state with
  | mk result left events => cases result <;> rfl

end Action

end BlobLimbo
