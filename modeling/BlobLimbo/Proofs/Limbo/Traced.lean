import BlobLimbo.Proofs.Limbo.Erasure

/-!
# Traced stores

A store together with the calls it was given. The trace is only written, never read, so a traced
store does what the store does.
-/

namespace BlobLimbo

/-- A call of a store. -/
inductive StoreCall where
  /-- Keep a record. -/
  | put (data : Bytes)
  /-- Read a record. -/
  | get (id : SlotId)
  /-- Give up a record. -/
  | delete (id : SlotId)
  deriving DecidableEq

/-- A store and its calls. -/
structure Traced (S : Type) where
  /-- The store. -/
  store : S
  /-- The calls it was given, first one first. -/
  calls : List StoreCall := []

namespace Traced

variable {S : Type}

/-- Carries out a call and notes it, whether or not it succeeds. -/
def note {α : Type} (call : StoreCall) (action : Action StoreError S α) :
    Action StoreError (Traced S) α := fun traced =>
  (action traced.store).mapState fun store => { store, calls := traced.calls ++ [call] }

variable [SlotStore S]

instance : SlotStore (Traced S) where
  put data := note (.put data) (SlotStore.put data)
  get id := note (.get id) (SlotStore.get id)
  delete id := note (.delete id) (SlotStore.delete id)
  close := SlotStore.close.within store fun traced store => { traced with store }

/-- A traced store seen as the store itself. -/
def view (S : Type) [SlotStore S] : View (Traced S) S :=
  .ofStore store (fun _ _ => rfl) (fun _ _ => rfl) fun _ _ => rfl

/-- A sweep is given to the store as one deletion after the other, one for every evicted slot, and
it does not end before the last one. -/
theorem calls_deleteEvicted (traced : Traced S) (evicted : List Evicted) :
    (Limbo.deleteEvicted traced evicted).state.calls =
      traced.calls ++ evicted.map fun slot => .delete slot.id := by
  induction evicted generalizing traced with
  | nil => exact (List.append_nil _).symm
  | cons slot evicted ih =>
    have hnoted : (SlotStore.delete slot.id traced).state.calls =
      traced.calls ++ [.delete slot.id] := rfl
    rw [List.map_cons, List.append_cons, ← hnoted, ← ih]
    cases hdelete : (SlotStore.delete slot.id traced).value with
    | ok value => rw [Limbo.deleteEvicted_cons_of_ok hdelete, Outcome.state_after]
    | error cause =>
      rw [Limbo.deleteEvicted_cons_of_error hdelete, Outcome.state_after, Outcome.state_map]

end Traced

end BlobLimbo
