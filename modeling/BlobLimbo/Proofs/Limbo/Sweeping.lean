import BlobLimbo.Proofs.Index.Splitting
import BlobLimbo.Proofs.Limbo.Activity
import BlobLimbo.Proofs.Limbo.Traced

/-!
# What a sweep does

A sweep of a limbo over a store in memory gives the store one deletion for every slot at or below
the finalized block. The first of them fail, as many as were to fail. The sweep reports exactly
these and carries on, so the index is the one above the finalized block in any case, and only the
records whose deletion failed are left over (`finalize_sweeps`).
-/

namespace BlobLimbo

open Std LawfulStore

/-- What is reported of a slot when the deletion of its record was made to fail. -/
def Evicted.refused (slot : Evicted) : EvictionFailure :=
  ⟨slot.owner, slot.block, slot.id, .io (.injected "Delete")⟩

namespace Limbo

section Memory

variable {store : MemoryStore} {evicted : List Evicted}
  (hnodup : (evicted.map Evicted.id).Nodup) (hlive : ∀ slot ∈ evicted, slot.id ∈ store.records)

include hnodup hlive

/-- Of the deletions of a sweep the first fail, as many as are to fail, and the others succeed. -/
theorem deleteEvicted_memory :
    (deleteEvicted store evicted).value =
        (evicted.take store.pending.delete.toNat).map Evicted.refused ∧
      ∀ id : SlotId, (deleteEvicted store evicted).state.records[id]? =
        if id ∈ (evicted.drop store.pending.delete.toNat).map Evicted.id then none
        else store.records[id]? := by
  induction evicted generalizing store with
  | nil => simp [deleteEvicted]
  | cons slot evicted ih =>
    rw [List.map_cons, List.nodup_cons] at hnodup
    rw [List.forall_mem_cons] at hlive
    have hdelete : SlotStore.delete slot.id store = MemoryStore.delete slot.id store := rfl
    rw [MemoryStore.delete_eq] at hdelete
    by_cases hpending : store.pending.count .delete = 0
    · -- No failure is pending: the record goes, and those of the other slots are still there.
      rw [if_neg (not_not.mpr hpending), if_pos hlive.1] at hdelete
      have hzero : store.pending.delete.toNat = 0 := congrArg UInt64.toNat hpending
      have hrest : ∀ other ∈ evicted,
          other.id ∈ MemoryStore.records { store with records := store.records.erase slot.id } := by
        intro other hother
        have hne : slot.id ≠ other.id := fun hid => hnodup.1 (hid ▸ List.mem_map_of_mem hother)
        simpa [hne] using hlive.2 other hother
      obtain ⟨hvalue, hrecords⟩ := ih hnodup.2 hrest
      rw [deleteEvicted_cons_of_ok (by rw [hdelete]), Outcome.value_after, Outcome.state_after,
        hdelete]
      simp only [hzero, List.take_zero, List.drop_zero, List.map_nil] at hvalue hrecords ⊢
      refine ⟨hvalue, fun id => ?_⟩
      rw [hrecords, List.map_cons]
      simp only [List.mem_cons, ExtTreeMap.getElem?_erase, LawfulEqCmp.compare_eq_iff_eq]
      by_cases hid : id = slot.id
      · simp [hid]
      · simp [hid, Ne.symm hid]
    · -- A failure is used up, and the slot is reported.
      rw [if_pos hpending] at hdelete
      have hused : (store.admitted .delete).pending.delete.toNat + 1 =
        store.pending.delete.toNat := MemoryStore.toNat_pending_admitted hpending
      have hrest : ∀ other ∈ evicted, other.id ∈ (store.admitted .delete).records := by
        simpa using hlive.2
      obtain ⟨hvalue, hrecords⟩ := ih hnodup.2 hrest
      rw [deleteEvicted_cons_of_error (by rw [hdelete]), Outcome.value_after, Outcome.state_after,
        Outcome.value_map, Outcome.state_map, hdelete, ← hused, List.take_succ_cons,
        List.drop_succ_cons, List.map_cons, hvalue]
      exact ⟨rfl, by simpa using hrecords⟩

end Memory

/-- That is so for the slots at or below a block, since the store has records for all of them. -/
theorem deleteEvicted_splitFinalized {store : MemoryStore} {index : Index} {stranded : List SlotId}
    (h : Accounted index (live store) stranded) (finalized : UInt64) :
    (deleteEvicted store (index.splitFinalized finalized).1).value =
        ((index.splitFinalized finalized).1.take store.pending.delete.toNat).map
          Evicted.refused ∧
      ∀ id : SlotId,
        (deleteEvicted store (index.splitFinalized finalized).1).state.records[id]? =
          if id ∈ ((index.splitFinalized finalized).1.drop store.pending.delete.toNat).map
            Evicted.id then none
          else store.records[id]? := by
  refine deleteEvicted_memory (h.consistent.grounded.nodup_evicted finalized) fun slot hslot => ?_
  rw [ExtTreeMap.mem_iff_isSome_getElem?, Option.isSome_iff_ne_none]
  exact h.live_of_evicted finalized slot hslot

/-- The limbo with the calls of its store traced from now on. -/
def trace (limbo : Limbo MemoryStore) : Limbo (Traced MemoryStore) :=
  { store := { store := limbo.store }, index := limbo.index, ledger := limbo.ledger }

/-- What a sweep of a limbo does, given the slots at or below the finalized block. -/
structure Sweeps (limbo : Limbo MemoryStore) (finalized : UInt64) (evicted : List Evicted) :
    Prop where
  /-- The first deletions fail, as many as were to fail, and these are reported. -/
  value : (finalize (some finalized) limbo).value =
    .swept evicted.length ((evicted.take limbo.store.pending.delete.toNat).map Evicted.refused)
  /-- As many transactions are evicted as are tracked at or below the finalized block. -/
  count : evicted.length =
    {tx | ∃ block, limbo.trackedBlock tx = some block ∧ block ≤ finalized}.ncard
  /-- The store is called once for every slot, to delete its record, and not called otherwise. -/
  calls : (finalize (some finalized) limbo.trace).state.store.calls =
    evicted.map fun slot => .delete slot.id
  /-- That is told by the same sweep over a traced store. -/
  traced : (finalize (some finalized) limbo.trace).mapState (Traced.view MemoryStore).limbo =
    finalize (some finalized) limbo
  /-- What is above the finalized block is tracked as before, and nothing else is tracked. -/
  index : (finalize (some finalized) limbo).state.index = limbo.index.above finalized
  /-- The records of the other slots are gone, and no others. -/
  records : ∀ id : SlotId, (finalize (some finalized) limbo).state.store.records[id]? =
    if id ∈ (evicted.drop limbo.store.pending.delete.toNat).map Evicted.id then none
    else limbo.store.records[id]?

/-- A sweep of a limbo whose index accounts for the records of its store. -/
theorem sweeps_of_accounted {limbo : Limbo MemoryStore} {stranded : List SlotId}
    (haccounted : Accounted limbo.index (live limbo.store) stranded) (finalized : UInt64) :
    Sweeps limbo finalized (limbo.index.splitFinalized finalized).1 := by
  have hconsistent := haccounted.consistent
  obtain ⟨hfailures, hrecords⟩ := deleteEvicted_splitFinalized haccounted finalized
  obtain ⟨hvalue, hstore, hindex⟩ := effect_eq_iff.mp (effect_finalize_some limbo finalized)
  refine ⟨?_, ?_, ?_, (Traced.view MemoryStore).finalize _ _, ?_, ?_⟩
  · rw [hvalue, hfailures]
  · rw [hconsistent.length_evicted, hconsistent.size_slotsUpTo]
    rfl
  · exact Traced.calls_deleteEvicted _ _
  · rw [hindex, (hconsistent.splitsAt finalized).2]
  · rw [hstore]
    exact hrecords

/-- **A sweep.** On a consistent index it lists the slots at or below the finalized block and leaves
the index above it. In a limbo that was recovered from the replay of its store, whatever happened
since and however many deletions are to fail, it calls the store once for each of these slots,
reports the first of them whose deletion fails, and deletes the records of the others. -/
theorem finalize_sweeps (finalized : UInt64) :
    (∀ index : Index, index.Consistent →
      index.ListsUpTo finalized (index.splitFinalized finalized).1 ∧
        (index.splitFinalized finalized).2 = index.above finalized) ∧
    ∀ limbo : Limbo MemoryStore, limbo.Reachable →
      ∃ evicted, limbo.index.ListsUpTo finalized evicted ∧ Sweeps limbo finalized evicted := by
  refine ⟨fun index h => h.splitsAt finalized, fun limbo hreachable => ?_⟩
  obtain ⟨-, stranded, haccounted⟩ := hreachable.accounted
  exact ⟨_, (haccounted.consistent.splitsAt finalized).1, sweeps_of_accounted haccounted finalized⟩

/-- Three transactions are tracked and one deletion is to fail: the sweep up to block `7` evicts two
of them and reports the first. -/
theorem finalize_sweeps_past_failure :
    let tx (n : UInt8) : TxHash := .replicate 32 n
    let limbo := (recover MemoryStore.empty MemoryStore.empty.replay).state.acts
      [.meet (.call (.push (tx 1) 7 ⟨[], [], []⟩)), .meet (.call (.push (tx 2) 9 ⟨[], [], []⟩)),
        .meet (.call (.push (tx 3) 5 ⟨[], [], []⟩)), .meet (.failNext .delete 1)]
    (∃ evicted, limbo.state.index.ListsUpTo 7 evicted ∧ Sweeps limbo.state 7 evicted) ∧
      (finalize (some 7) limbo.state).value = .swept 2 [Evicted.refused ⟨2, tx 3, 5⟩] ∧
      (finalize (some 7) limbo.state.trace).state.store.calls = [.delete 2, .delete 0] ∧
      (finalize (some 7) limbo.state).state.store.records.keys = [1, 2] := by
  intro tx limbo
  have hempty : (⟨[], [], []⟩ : Sidecar).OfAtMost 0 := ⟨Nat.le_refl 0, rfl, rfl⟩
  have hlengths : ∀ (id : SlotId) (data : Bytes), MemoryStore.empty.records[id]? = some data →
      data.length < 2 ^ 63 := by simp [MemoryStore.empty]
  have hrecovered := Reachable.recovered (MemoryStore.idsBelowNext_ofRecords []) hlengths rfl
  have hreachable : limbo.state.Reachable := by
    refine hrecovered.acts ?_
    simp [Activity.Fits, Incident.Fits, Call.Fits, hempty.encodable (Nat.zero_le _)]
  exact ⟨(finalize_sweeps 7).2 limbo.state hreachable, by decide +kernel, by decide +kernel,
    by decide +kernel⟩

end Limbo

end BlobLimbo
