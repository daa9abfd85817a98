import BlobLimbo.Limbo.Operations
import BlobLimbo.Proofs.Action

/-!
# Operations step by step

What each operation of a limbo returns, and the store and the index it leaves, told by the results
of the calls it makes to its store. Nothing is assumed of the store here. The metrics are left out:
no operation looks at them.
-/

namespace BlobLimbo.Limbo

variable {S : Type} {α : Type}

/-- What is returned, and the store and the index that are left. -/
def effect (outcome : Outcome (Limbo S) α) : α × S × Index :=
  (outcome.value, outcome.state.store, outcome.state.index)

@[simp] theorem effect_after (events : List Event) (outcome : Outcome (Limbo S) α) :
    effect (outcome.after events) = effect outcome := rfl

@[simp] theorem effect_observed (method : Metrics.Method)
    (action : Action LimboError (Limbo S) α) (limbo : Limbo S) :
    effect (observed method action limbo) = effect (action limbo) := rfl

@[simp] theorem effect_reportFailure (describe : LimboError → Event)
    (action : Action LimboError (Limbo S) α) (limbo : Limbo S) :
    effect (action.reportFailure describe limbo) = effect (action limbo) := by
  simp [effect]

/-- The parts of an effect. -/
theorem effect_eq_iff {outcome : Outcome (Limbo S) α} {value : α} {store : S} {index : Index} :
    effect outcome = (value, store, index) ↔
      outcome.value = value ∧ outcome.state.store = store ∧ outcome.state.index = index := by
  simp [effect]

/-- Running an operation of the store changes nothing but the store. -/
theorem value_onStore (action : Action StoreError S α) (limbo : Limbo S) :
    (onStore action limbo).value = (action limbo.store).value.mapError LimboError.store := rfl

theorem state_onStore (action : Action StoreError S α) (limbo : Limbo S) :
    (onStore action limbo).state = limbo.withStore (action limbo.store).state := rfl

theorem value_onStore_of_ok {action : Action StoreError S α} {limbo : Limbo S} {value : α}
    (hok : (action limbo.store).value = .ok value) :
    (onStore action limbo).value = .ok value := by
  rw [value_onStore, hok]
  rfl

theorem value_onStore_of_error {action : Action StoreError S α} {limbo : Limbo S}
    {cause : StoreError} (herror : (action limbo.store).value = .error cause) :
    (onStore action limbo).value = .error (.store cause) := by
  rw [value_onStore, herror]
  rfl

variable [SlotStore S] {limbo : Limbo S}

section Take

variable {id : SlotId} {data : Bytes} {entry : Entry}

/-- A record that cannot be read stays where it is. -/
theorem effect_take_of_unread {cause : StoreError}
    (hget : (SlotStore.get id limbo.store).value = .error cause) :
    effect (take id limbo) =
      (.error (.store cause), (SlotStore.get id limbo.store).state, limbo.index) := by
  unfold take
  rw [Action.bind_of_error (value_onStore_of_error hget)]
  rfl

/-- A record that is no entry stays where it is. -/
theorem effect_take_of_undecodable {cause : Rlp.DecodeError}
    (hget : (SlotStore.get id limbo.store).value = .ok data)
    (hdecode : Entry.decode data = .error cause) :
    effect (take id limbo) =
      (.error (.decode cause), (SlotStore.get id limbo.store).state, limbo.index) := by
  unfold take
  rw [Action.bind_of_ok (value_onStore_of_ok hget), effect_after,
    Action.bind_of_error (by rw [Action.ofExcept_apply, hdecode]; rfl)]
  rfl

/-- Once an entry is read it leaves the index, whether or not its record can be deleted. -/
theorem effect_take_of_decoded (hget : (SlotStore.get id limbo.store).value = .ok data)
    (hdecode : Entry.decode data = .ok entry) :
    effect (take id limbo) =
      (((SlotStore.delete id (SlotStore.get id limbo.store).state).value.mapError
          LimboError.store).map fun _ => entry,
        (SlotStore.delete id (SlotStore.get id limbo.store).state).state,
        limbo.index.remove entry.owner entry.block id) := by
  unfold take
  rw [Action.bind_of_ok (value_onStore_of_ok hget), effect_after,
    Action.bind_of_ok (by rw [Action.ofExcept_apply, hdecode]; rfl), effect_after,
    Action.bind_of_ok rfl, effect_after]
  cases hdelete : (SlotStore.delete id (SlotStore.get id limbo.store).state).value with
  | error cause =>
    rw [Action.bind_of_error (value_onStore_of_error hdelete)]
    rfl
  | ok value =>
    rw [Action.bind_of_ok (value_onStore_of_ok hdelete)]
    rfl

end Take

section Insert

variable {entry : Entry}

/-- An entry that cannot be stored is not registered. -/
theorem effect_insert_of_refused {cause : StoreError}
    (hput : (SlotStore.put entry.encode limbo.store).value = .error cause) :
    effect (insert entry limbo) =
      (.error (.store cause), (SlotStore.put entry.encode limbo.store).state, limbo.index) := by
  unfold insert
  rw [Action.bind_of_error (value_onStore_of_error hput)]
  rfl

/-- A stored entry is registered if its owner has no slot. -/
theorem effect_insert_of_stored {id : SlotId} {next : Index}
    (hput : (SlotStore.put entry.encode limbo.store).value = .ok id)
    (hindex : limbo.index.insert? entry.owner entry.block id = some next) :
    effect (insert entry limbo) =
      (.ok (), (SlotStore.put entry.encode limbo.store).state, next) := by
  unfold insert
  rw [Action.bind_of_ok (value_onStore_of_ok hput), effect_after, Action.bind_of_ok rfl,
    effect_after]
  have hsame : (onStore (SlotStore.put entry.encode) limbo).state.index = limbo.index := rfl
  simp only [Action.current_apply, hsame, hindex]
  rfl

end Insert

section Sweep

variable {store : S} {slot : Evicted} {rest : List Evicted}

/-- A sweep goes on after a record is deleted. -/
theorem deleteEvicted_cons_of_ok (hdelete : (SlotStore.delete slot.id store).value = .ok ()) :
    deleteEvicted store (slot :: rest) =
      (deleteEvicted (SlotStore.delete slot.id store).state rest).after
        (SlotStore.delete slot.id store).events := by
  rw [deleteEvicted]
  split
  · rename_i heq
    rw [heq]
  · rename_i heq
    simp [heq] at hdelete

/-- A sweep notes a record that cannot be deleted and goes on. -/
theorem deleteEvicted_cons_of_error {cause : StoreError}
    (hdelete : (SlotStore.delete slot.id store).value = .error cause) :
    deleteEvicted store (slot :: rest) =
      ((deleteEvicted (SlotStore.delete slot.id store).state rest).map
        (⟨slot.owner, slot.block, slot.id, cause⟩ :: ·)).after
          ((SlotStore.delete slot.id store).events ++
            [.limbo (.evictionFailed slot.block slot.id cause)]) := by
  rw [deleteEvicted]
  split
  · rename_i heq
    simp [heq] at hdelete
  · rename_i heq
    simp only [heq, Except.error.injEq] at hdelete
    rw [heq, hdelete]

end Sweep

section Calls

variable {tx : TxHash} {block : UInt64} {sidecar : Sidecar} {id : SlotId}

/-- A tracked transaction is not pushed again. -/
theorem effect_push_of_tracked (block : UInt64) (sidecar : Sidecar)
    (htracked : limbo.contains tx = true) :
    effect (push tx block sidecar limbo) =
      (.error (.alreadyTracked tx), limbo.store, limbo.index) := by
  unfold push
  rw [effect_observed, Action.bind_of_ok rfl, effect_after]
  simp only [Action.current_apply, if_pos htracked]
  rw [Action.bind_of_ok rfl]
  rfl

/-- An untracked transaction is stored and registered. -/
theorem effect_push_of_untracked (block : UInt64) (sidecar : Sidecar)
    (huntracked : limbo.contains tx = false) :
    effect (push tx block sidecar limbo) = effect (insert ⟨tx, block, sidecar⟩ limbo) := by
  unfold push
  rw [effect_observed, Action.bind_of_ok rfl, effect_after]
  simp only [Action.current_apply, huntracked, Bool.false_eq_true, if_false]
  exact effect_reportFailure _ _ _

/-- An untracked transaction cannot be pulled. -/
theorem effect_pull_of_untracked (huntracked : limbo.index.slotOf tx = none) :
    effect (pull tx limbo) = (.error (.notTracked tx), limbo.store, limbo.index) := by
  unfold pull
  rw [effect_observed, Action.bind_of_ok rfl, effect_after]
  simp only [Action.current_apply, huntracked]
  rw [Action.bind_of_ok rfl]
  rfl

/-- A tracked transaction is pulled by taking its entry. -/
theorem effect_pull_of_tracked (htracked : limbo.index.slotOf tx = some id) :
    effect (pull tx limbo) =
      ((take id limbo).value.map Entry.sidecar, (take id limbo).state.store,
        (take id limbo).state.index) := by
  unfold pull
  rw [effect_observed, Action.bind_of_ok rfl, effect_after]
  simp only [Action.current_apply, htracked]
  cases htake : (take id limbo).value with
  | error cause =>
    rw [Action.bind_of_error (by rw [Action.value_reportFailure, htake])]
    simp [effect, Except.map]
  | ok entry =>
    rw [Action.bind_of_ok (by rw [Action.value_reportFailure, htake])]
    simp [effect, Except.map]

/-- An untracked transaction is not updated. -/
theorem effect_update_of_untracked (block : UInt64)
    (huntracked : limbo.index.slotOf tx = none) :
    effect (update tx block limbo) = (.ok .untracked, limbo.store, limbo.index) := by
  unfold update
  rw [effect_observed, Action.bind_of_ok rfl, effect_after]
  simp only [Action.current_apply, huntracked]
  rw [Action.bind_of_ok rfl]
  rfl

/-- A transaction that is in the block already stays where it is. -/
theorem effect_update_of_unchanged (htracked : limbo.index.slotOf tx = some id)
    (hblock : (limbo.index.slot id).map Tracked.block = some block) :
    effect (update tx block limbo) = (.ok .unchanged, limbo.store, limbo.index) := by
  unfold update
  rw [effect_observed, Action.bind_of_ok rfl, effect_after]
  simp only [Action.current_apply, htracked, if_pos hblock]
  rw [Action.bind_of_ok rfl]
  rfl

section Rehome

variable (htracked : limbo.index.slotOf tx = some id)
  (hblock : (limbo.index.slot id).map Tracked.block ≠ some block)

include htracked hblock

/-- A transaction whose entry cannot be taken out is not stored again. -/
theorem effect_update_of_untaken {cause : LimboError}
    (htake : (take id limbo).value = .error cause) :
    effect (update tx block limbo) =
      (.error cause, (take id limbo).state.store, (take id limbo).state.index) := by
  unfold update
  rw [effect_observed, Action.bind_of_ok rfl, effect_after]
  simp only [Action.current_apply, htracked, if_neg hblock]
  rw [Action.bind_of_error (by rw [Action.value_reportFailure, htake])]
  simp [effect]

/-- An entry that was taken out is stored again under the new block. -/
theorem effect_update_of_taken {entry : Entry} (htake : (take id limbo).value = .ok entry) :
    effect (update tx block limbo) =
      ((insert ⟨tx, block, entry.sidecar⟩ (take id limbo).state).value.map
          fun _ => .moved entry.block block,
        (insert ⟨tx, block, entry.sidecar⟩ (take id limbo).state).state.store,
        (insert ⟨tx, block, entry.sidecar⟩ (take id limbo).state).state.index) := by
  unfold update
  rw [effect_observed, Action.bind_of_ok rfl, effect_after]
  simp only [Action.current_apply, htracked, if_neg hblock]
  rw [Action.bind_of_ok (by rw [Action.value_reportFailure, htake]), effect_after,
    Action.state_reportFailure]
  cases hinsert : (insert ⟨tx, block, entry.sidecar⟩ (take id limbo).state).value with
  | error cause =>
    rw [Action.bind_of_error (by rw [Action.value_reportFailure, hinsert])]
    simp [effect, Except.map]
  | ok value =>
    rw [Action.bind_of_ok (by rw [Action.value_reportFailure, hinsert]), effect_after,
      Action.bind_of_ok rfl]
    simp [effect, Except.map]

end Rehome

/-- A sweep takes slots out of the index and deletes their records. -/
theorem effect_finalize_some (limbo : Limbo S) (finalized : UInt64) :
    effect (finalize (some finalized) limbo) =
      (.swept (limbo.index.splitFinalized finalized).1.length
          (deleteEvicted limbo.store (limbo.index.splitFinalized finalized).1).value,
        (deleteEvicted limbo.store (limbo.index.splitFinalized finalized).1).state,
        (limbo.index.splitFinalized finalized).2) := rfl

end Calls

end BlobLimbo.Limbo
