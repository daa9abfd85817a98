import BlobLimbo.Limbo.Recovery
import BlobLimbo.Proofs.Limbo.Run

/-!
# What a store keeps, its limbo keeps

A property of stores that reading and deleting records keep, and that is known after a number of
records were put, is known after as many calls of a limbo (`Upkeep.run`), since no call puts more
than one record. Recovery puts none (`Upkeep.deleteAll`).
-/

namespace BlobLimbo

/-- An action leads from states with one property to states with another, whether or not it
succeeds. -/
def Leads {ε σ α : Type} (P Q : σ → Prop) (action : Action ε σ α) : Prop :=
  ∀ state : σ, P state → Q (action state).state

namespace Leads

variable {ε σ α β : Type} {P Q R : σ → Prop}

theorem pure (value : α) : Leads P P (Pure.pure value : Action ε σ α) := fun _ h => h

theorem fail (error : ε) : Leads P P (Action.fail error : Action ε σ α) := fun _ h => h

theorem report (event : Event) : Leads P P (Action.report event : Action ε σ Unit) := fun _ h => h

theorem ofExcept (result : Except ε α) : Leads P P (Action.ofExcept result) := fun _ h => h

/-- Less may be said about the states an action leads to. -/
theorem mono {action : Action ε σ α} (h : Leads P Q action) (hmono : ∀ state, Q state → R state) :
    Leads P R action :=
  fun state hstate => hmono _ (h state hstate)

/-- A chain leads where its steps lead. If it breaks off, the first step has led there already. -/
theorem bind {first : Action ε σ α} {second : α → Action ε σ β} (hfirst : Leads P Q first)
    (hmono : ∀ state, Q state → R state) (hsecond : ∀ value, Leads Q R (second value)) :
    Leads P R (first >>= second) := by
  intro state h
  cases hresult : (first state).value with
  | error error =>
    rw [Action.bind_of_error hresult]
    exact hmono _ (hfirst state h)
  | ok value =>
    rw [Action.bind_of_ok hresult]
    exact hsecond value _ (hfirst state h)

/-- A chain that starts with a step that keeps what is known. -/
theorem keep {first : Action ε σ α} {second : α → Action ε σ β} (hfirst : Leads P P first)
    (hsecond : ∀ value, Leads P P (second value)) : Leads P P (first >>= second) :=
  hfirst.bind (fun _ h => h) hsecond

/-- A chain that looks at the state first leads where the rest leads. -/
theorem current {next : σ → Action ε σ α} (h : ∀ state, Leads P Q (next state)) :
    Leads P Q (Action.current >>= next) := by
  intro state hstate
  rw [Action.bind_of_ok rfl]
  exact h state state hstate

theorem reportFailure (describe : ε → Event) {action : Action ε σ α} (h : Leads P Q action) :
    Leads P Q (action.reportFailure describe) := by
  intro state hstate
  rw [Action.state_reportFailure]
  exact h state hstate

/-- An operation on the store of a limbo. -/
theorem onStore {S α : Type} {P Q : S → Prop} {action : Action StoreError S α}
    (h : Leads P Q action) :
    Leads (fun limbo : Limbo S => P limbo.store) (fun limbo : Limbo S => Q limbo.store)
      (Limbo.onStore action) :=
  fun limbo hlimbo => h limbo.store hlimbo

/-- Recording a call does not touch the store. -/
theorem observed {S α : Type} {P Q : S → Prop} (method : Metrics.Method)
    {action : Action LimboError (Limbo S) α}
    (h : Leads (fun limbo : Limbo S => P limbo.store) (fun limbo : Limbo S => Q limbo.store)
      action) :
    Leads (fun limbo : Limbo S => P limbo.store) (fun limbo : Limbo S => Q limbo.store)
      (Limbo.observed method action) :=
  fun limbo hlimbo => h limbo hlimbo

end Leads

/-- A property of stores that depends on how many records were put. -/
structure Upkeep {S : Type} [SlotStore S] (P : Nat → S → Prop) : Prop where
  put : ∀ n data, Leads (P n) (P (n + 1)) (SlotStore.put data : Action StoreError S SlotId)
  get : ∀ n id, Leads (P n) (P n) (SlotStore.get id : Action StoreError S Bytes)
  delete : ∀ n id, Leads (P n) (P n) (SlotStore.delete id : Action StoreError S Unit)
  mono : ∀ n store, P n store → P (n + 1) store

namespace Upkeep

open Limbo

variable {S : Type} [SlotStore S] {P : Nat → S → Prop} {n : Nat} {limbo : Limbo S}

/-- What is known of the store of a limbo. -/
abbrev OnStore {S : Type} (P : S → Prop) (limbo : Limbo S) : Prop := P limbo.store

theorem take (h : Upkeep P) (id : SlotId) : Leads (OnStore (P n)) (OnStore (P n)) (take id) := by
  refine (Leads.onStore (h.get n id)).keep fun data => ?_
  refine (Leads.ofExcept _).keep fun entry => ?_
  refine Leads.keep (fun _ hlimbo => hlimbo) fun _ => ?_
  exact (Leads.onStore (h.delete n id)).keep fun _ => Leads.pure entry

theorem insert (h : Upkeep P) (entry : Entry) :
    Leads (OnStore (P n)) (OnStore (P (n + 1))) (insert entry) := by
  refine (Leads.onStore (h.put n _)).bind (fun _ hlimbo => hlimbo) fun id => ?_
  refine Leads.current fun limbo => ?_
  split
  · exact fun _ hlimbo => hlimbo
  · exact (Leads.onStore (h.delete (n + 1) id)).keep fun _ => Leads.fail _

theorem push (h : Upkeep P) (tx : TxHash) (block : UInt64) (sidecar : Sidecar) :
    Leads (OnStore (P n)) (OnStore (P (n + 1))) (push tx block sidecar) := by
  refine Leads.observed _ (Leads.current fun limbo => ?_)
  split
  · exact ((Leads.report _).keep fun _ => Leads.fail _).mono fun _ hlimbo => h.mono n _ hlimbo
  · exact (h.insert _).reportFailure _

theorem pull (h : Upkeep P) (tx : TxHash) : Leads (OnStore (P n)) (OnStore (P n)) (pull tx) := by
  refine Leads.observed _ (Leads.current fun limbo => ?_)
  split
  · exact (Leads.report _).keep fun _ => Leads.fail _
  · exact ((h.take _).reportFailure _).keep fun entry => Leads.pure entry.sidecar

theorem update (h : Upkeep P) (tx : TxHash) (block : UInt64) :
    Leads (OnStore (P n)) (OnStore (P (n + 1))) (update tx block) := by
  refine Leads.observed _ (Leads.current fun limbo => ?_)
  split
  · exact ((Leads.report _).keep fun _ => Leads.pure _).mono fun _ hlimbo => h.mono n _ hlimbo
  · split
    · exact ((Leads.report _).keep fun _ => Leads.pure _).mono fun _ hlimbo => h.mono n _ hlimbo
    · refine ((h.take _).reportFailure _).bind (fun _ hlimbo => h.mono n _ hlimbo) fun entry => ?_
      refine ((h.insert _).reportFailure _).bind (fun _ hlimbo => hlimbo) fun _ => ?_
      exact (Leads.report _).keep fun _ => Leads.pure _

theorem deleteEvicted (h : Upkeep P) (evicted : List Evicted) {store : S} (hstore : P n store) :
    P n (deleteEvicted store evicted).state := by
  induction evicted generalizing store with
  | nil => exact hstore
  | cons slot evicted ih =>
    have hnext := h.delete n slot.id store hstore
    cases hresult : (SlotStore.delete slot.id store).value with
    | ok value =>
      rw [deleteEvicted_cons_of_ok hresult]
      exact ih hnext
    | error cause =>
      rw [deleteEvicted_cons_of_error hresult]
      exact ih hnext

/-- A call puts one record at most. -/
theorem perform (h : Upkeep P) (hlimbo : P n limbo.store) (call : Call) :
    P (n + 1) (limbo.perform call).state.store := by
  cases call with
  | push tx block sidecar => exact h.push tx block sidecar limbo hlimbo
  | pull tx => exact h.mono n _ (h.pull tx limbo hlimbo)
  | update tx block => exact h.update tx block limbo hlimbo
  | finalize finalized =>
    cases finalized with
    | none => exact h.mono n _ hlimbo
    | some finalized => exact h.mono n _ (h.deleteEvicted _ hlimbo)

/-- A run puts as many records as it has calls at most. -/
theorem run (h : Upkeep P) (hlimbo : P n limbo.store) (calls : List Call) :
    P (n + calls.length) (limbo.run calls).state.store := by
  induction calls generalizing limbo n with
  | nil => exact hlimbo
  | cons call calls ih =>
    have hrest := ih (h.perform hlimbo call)
    rwa [Nat.add_assoc, Nat.add_comm 1] at hrest

/-- Dropping records puts none. -/
theorem deleteAll (h : Upkeep P) (ids : List SlotId) :
    Leads (P n) (P n) (deleteAll ids : Action StoreError S Unit) := by
  induction ids with
  | nil => exact Leads.pure ()
  | cons id ids ih => exact (h.delete n id).keep fun _ => ih

end Upkeep

end BlobLimbo
