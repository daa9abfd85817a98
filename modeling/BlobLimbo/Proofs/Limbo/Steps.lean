import BlobLimbo.Proofs.Codec.Length
import BlobLimbo.Proofs.Limbo.Effect
import BlobLimbo.Proofs.Limbo.Tracking
import BlobLimbo.Proofs.Store.Lawful

/-!
# Operations on lawful stores

What taking, storing and sweeping do when the store is lawful and the index accounts for its
records. Taking ends in one of three ways: the record was not read, it was read but not deleted, or
it is gone.
-/

namespace BlobLimbo.Limbo

open SlotStore LawfulStore

variable {S : Type} [LawfulStore S] {limbo : Limbo S} {stranded : List SlotId}
  {owner : TxHash} {block : UInt64} {sidecar : Sidecar} {id : SlotId}

/-- Taking an entry. -/
theorem take_cases (hsound : Sound limbo.store)
    (hentry : EntryAt (live limbo.store) id ⟨owner, block, sidecar⟩) :
    (∃ cause, (SlotStore.get id limbo.store).value = .error cause ∧
      effect (take id limbo) =
        (.error (.store cause), (SlotStore.get id limbo.store).state, limbo.index)) ∨
    (∃ cause, (SlotStore.delete id (SlotStore.get id limbo.store).state).value = .error cause ∧
      effect (take id limbo) =
        (.error (.store cause), (SlotStore.delete id (SlotStore.get id limbo.store).state).state,
          limbo.index.remove owner block id)) ∨
    ((SlotStore.delete id (SlotStore.get id limbo.store).state).value = .ok () ∧
      effect (take id limbo) =
        (.ok ⟨owner, block, sidecar⟩,
          (SlotStore.delete id (SlotStore.get id limbo.store).state).state,
          limbo.index.remove owner block id)) := by
  obtain ⟨data, hlive, hdecode⟩ := hentry
  cases hget : (SlotStore.get id limbo.store).value with
  | error cause => exact Or.inl ⟨cause, rfl, effect_take_of_unread hget⟩
  | ok data' =>
    right
    obtain rfl : data = data' := by
      have hread := get_ok hsound hget
      rw [hlive] at hread
      exact Option.some.inj hread
    have heffect := effect_take_of_decoded hget hdecode
    cases hdelete : (SlotStore.delete id (SlotStore.get id limbo.store).state).value with
    | error cause =>
      rw [hdelete] at heffect
      exact Or.inl ⟨cause, rfl, heffect⟩
    | ok value =>
      rw [hdelete] at heffect
      exact Or.inr ⟨rfl, heffect⟩

/-- Storing an entry of a transaction that has no slot. -/
theorem insert_cases (hsound : Sound limbo.store)
    (haccounted : Accounted limbo.index (live limbo.store) stranded)
    (howner : limbo.index.slotOf owner = none)
    (hlength : ∀ id, (SlotStore.put (Entry.encode ⟨owner, block, sidecar⟩) limbo.store).value =
      .ok id → (Entry.encode ⟨owner, block, sidecar⟩).length < 2 ^ 64) :
    (∃ cause, (SlotStore.put (Entry.encode ⟨owner, block, sidecar⟩) limbo.store).value =
        .error cause ∧
      effect (insert ⟨owner, block, sidecar⟩ limbo) =
        (.error (.store cause),
          (SlotStore.put (Entry.encode ⟨owner, block, sidecar⟩) limbo.store).state,
          limbo.index)) ∨
    (∃ id next, (SlotStore.put (Entry.encode ⟨owner, block, sidecar⟩) limbo.store).value =
        .ok id ∧
      effect (insert ⟨owner, block, sidecar⟩ limbo) =
        (.ok (), (SlotStore.put (Entry.encode ⟨owner, block, sidecar⟩) limbo.store).state, next) ∧
      limbo.index.slots[id]? = none ∧
      next.slots = limbo.index.slots.insert id ⟨owner, block⟩ ∧
      EntryAt (live (SlotStore.put (Entry.encode ⟨owner, block, sidecar⟩) limbo.store).state) id
        ⟨owner, block, sidecar⟩ ∧
      Accounted next
        (live (SlotStore.put (Entry.encode ⟨owner, block, sidecar⟩) limbo.store).state)
        stranded) := by
  cases hput : (SlotStore.put (Entry.encode ⟨owner, block, sidecar⟩) limbo.store).value with
  | error cause => exact Or.inl ⟨cause, rfl, effect_insert_of_refused hput⟩
  | ok id =>
    right
    obtain ⟨hfresh, hlive⟩ := put_ok hsound hput
    have hdecode : Entry.decode (Entry.encode ⟨owner, block, sidecar⟩) =
        .ok ⟨owner, block, sidecar⟩ :=
      Entry.decode_eq_ok_iff.mpr ⟨Entry.length_encodeFields_lt (hlength id hput), rfl⟩
    obtain ⟨next, hnext, hslots, haccounted'⟩ := haccounted.store howner hfresh hdecode
    rw [← hlive] at haccounted'
    refine ⟨id, next, rfl, effect_insert_of_stored hput hnext, haccounted.slot_eq_none hfresh,
      hslots, ?_, haccounted'⟩
    exact ⟨_, by rw [hlive, Function.update_self], hdecode⟩

/-- The ids of the slots whose records a sweep could not delete. -/
def failedIds (failures : List EvictionFailure) : List SlotId :=
  failures.map EvictionFailure.id

/-- A sweep through distinct slots deletes their records, but for those it reports. -/
theorem deleteEvicted_spec {store : S} (hsound : Sound store) {evicted : List Evicted}
    (hnodup : (evicted.map Evicted.id).Nodup) :
    Sound (deleteEvicted store evicted).state ∧
      (failedIds (deleteEvicted store evicted).value).Sublist (evicted.map Evicted.id) ∧
      ∀ id, live (deleteEvicted store evicted).state id =
        if id ∉ failedIds (deleteEvicted store evicted).value ∧ id ∈ evicted.map Evicted.id
          then none else live store id := by
  induction evicted generalizing store with
  | nil => simp [deleteEvicted, hsound, failedIds]
  | cons slot evicted ih =>
    rw [List.map_cons, List.nodup_cons] at hnodup
    obtain ⟨hslot, hnodup⟩ := hnodup
    obtain ⟨hsound', hsublist, hlive⟩ := ih (sound_delete slot.id hsound) hnodup
    have hkept : slot.id ∉
        failedIds (deleteEvicted (SlotStore.delete slot.id store).state evicted).value :=
      fun hmem => hslot (hsublist.subset hmem)
    cases hdelete : (SlotStore.delete slot.id store).value with
    | ok value =>
      obtain ⟨-, hgone⟩ := delete_ok hsound hdelete
      rw [deleteEvicted_cons_of_ok hdelete, Outcome.value_after, Outcome.state_after]
      refine ⟨hsound', hsublist.cons _, ?_⟩
      intro id
      simp only [hlive, hgone, List.map_cons, List.mem_cons]
      by_cases hid : id = slot.id
      · subst hid
        simp [hslot, hkept]
      · rw [Function.update_of_ne hid]
        simp [hid]
    | error cause =>
      have hsame := delete_error hsound hdelete
      rw [deleteEvicted_cons_of_error hdelete, Outcome.value_after, Outcome.state_after,
        Outcome.value_map, Outcome.state_map]
      refine ⟨hsound', hsublist.cons_cons _, ?_⟩
      intro id
      rw [hlive, hsame]
      by_cases hid : id = slot.id
      · subst hid
        simp [failedIds, hslot]
      · simp [failedIds, hid]

end BlobLimbo.Limbo
