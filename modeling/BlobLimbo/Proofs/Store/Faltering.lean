import BlobLimbo.Proofs.Store.Lawful

/-!
# Stores that are recovered from

A replayable store can list its live records in the order of their ids, and closing it touches none
of them. A faltering store is such a store some of whose deletions are made to fail: which of them
is told by a schedule, so any deletion can be the one that fails, and so can all from one on.
-/

namespace BlobLimbo

open LawfulStore

/-- A store that lists its live records in the order of their ids. -/
class ReplayableStore (S : Type) extends LawfulStore S where
  /-- The records a limbo is recovered from. -/
  replay : S → List Record
  mem_replay_iff : ∀ {store : S} {id : SlotId} {data : Bytes}, Sound store →
    ((id, data) ∈ replay store ↔ live store id = some data)
  sorted_replay : ∀ {store : S}, Sound store → (replay store).Pairwise fun a b => a.1 < b.1
  sound_close : ∀ {store : S}, Sound store → Sound (SlotStore.close store).state
  /-- Closing changes nothing, whether or not it succeeds. -/
  live_close : ∀ {store : S}, Sound store → live (SlotStore.close store).state = live store

/-- A store some of whose deletions fail. -/
structure Faltering (S : Type) where
  /-- The store. -/
  store : S
  /-- Why the deletions from now on fail, those that are to fail. -/
  failures : Nat → Option StoreError

namespace Faltering

variable {S : Type}

/-- Replaces the store. -/
def withStore (faltering : Faltering S) (store : S) : Faltering S :=
  { faltering with store }

/-- The failures that are to come after the next deletion. -/
def later (faltering : Faltering S) : Nat → Option StoreError := fun n =>
  faltering.failures (n + 1)

/-- Deletes a record, unless that is to fail. -/
def delete [SlotStore S] (id : SlotId) : Action StoreError (Faltering S) Unit := fun faltering =>
  match faltering.failures 0 with
  | some cause =>
    { value := .error cause, state := { store := faltering.store, failures := faltering.later } }
  | none =>
    (SlotStore.delete id faltering.store).mapState fun store =>
      { store, failures := faltering.later }

instance [SlotStore S] : SlotStore (Faltering S) where
  put data := (SlotStore.put data).within store withStore
  get id := (SlotStore.get id).within store withStore
  delete := delete
  close := SlotStore.close.within store withStore

/-- A deletion that is to fail leaves the store alone. -/
theorem delete_of_some [SlotStore S] {faltering : Faltering S} {cause : StoreError}
    (hnext : faltering.failures 0 = some cause) (id : SlotId) :
    SlotStore.delete id faltering =
      { value := .error cause,
        state := { store := faltering.store, failures := faltering.later } } := by
  change delete id faltering = _
  rw [delete, hnext]

/-- Any other deletion is one of the store. -/
theorem delete_of_none [SlotStore S] {faltering : Faltering S}
    (hnext : faltering.failures 0 = none) (id : SlotId) :
    SlotStore.delete id faltering =
      (SlotStore.delete id faltering.store).mapState fun store =>
        { store, failures := faltering.later } := by
  change delete id faltering = _
  rw [delete, hnext]

instance [LawfulStore S] : LawfulStore (Faltering S) where
  Sound faltering := Sound faltering.store
  live faltering := live faltering.store
  sound_put data hsound := sound_put data hsound
  sound_get id hsound := sound_get id hsound
  sound_delete := by
    intro faltering id hsound
    cases hnext : faltering.failures 0 with
    | some cause =>
      rw [delete_of_some hnext]
      exact hsound
    | none =>
      rw [delete_of_none hnext]
      exact sound_delete id hsound
  put_ok hsound hok := put_ok hsound hok
  put_error hsound herror := put_error hsound herror
  get_ok hsound hok := get_ok hsound hok
  live_get id hsound := live_get id hsound
  delete_ok := by
    intro faltering id hsound hok
    cases hnext : faltering.failures 0 with
    | some cause => simp [delete_of_some hnext] at hok
    | none =>
      rw [delete_of_none hnext] at hok ⊢
      exact LawfulStore.delete_ok hsound hok
  delete_error := by
    intro faltering id error hsound herror
    cases hnext : faltering.failures 0 with
    | some cause => rw [delete_of_some hnext]
    | none =>
      rw [delete_of_none hnext] at herror ⊢
      exact LawfulStore.delete_error hsound herror

instance [ReplayableStore S] : ReplayableStore (Faltering S) where
  replay faltering := ReplayableStore.replay faltering.store
  mem_replay_iff hsound := ReplayableStore.mem_replay_iff hsound
  sorted_replay hsound := ReplayableStore.sorted_replay hsound
  sound_close hsound := ReplayableStore.sound_close hsound
  live_close hsound := ReplayableStore.live_close hsound

end Faltering

end BlobLimbo
