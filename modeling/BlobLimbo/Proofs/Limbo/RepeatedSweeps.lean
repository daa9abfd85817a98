import BlobLimbo.Proofs.Limbo.StaleRecords
import BlobLimbo.Proofs.Limbo.Sweeping

/-!
# Sweeps that follow one another

Two sweeps in which nothing fails do what one sweep up to the later block does. A sweep that could
not delete every record leaves entries behind that the index has forgotten. A restart tracks them
again, and the next sweep up to the same block takes out exactly them: together the two have done
what the first was meant to do (`sweeps_complete`).
-/

namespace BlobLimbo

open Std LawfulStore ReliableStore

/-- The slot whose record could not be deleted. -/
def EvictionFailure.slot (failure : EvictionFailure) : Evicted :=
  ⟨failure.id, failure.tx, failure.block⟩

namespace Limbo

/-- What a sweep leaves of a limbo. -/
def swept {S : Type} [SlotStore S] (limbo : Limbo S) (finalized : UInt64) : Limbo S :=
  (finalize (some finalized) limbo).state

section Calm

variable {S : Type} [ReliableStore S] {limbo : Limbo S} {stranded : List SlotId}

/-- Two sweeps end where one sweep up to the later block ends, with the same index and the same
records, and evict together as many transactions. Nothing fails in any of them. -/
structure Combine (limbo : Limbo S) (first last : UInt64) : Prop where
  evicted : ∃ m n, (finalize (some first) limbo).value = .swept m [] ∧
    (finalize (some last) (limbo.swept first)).value = .swept n [] ∧
    (finalize (some (max first last)) limbo).value = .swept (m + n) []
  index_eq : ((limbo.swept first).swept last).index = (limbo.swept (max first last)).index
  live_eq : live ((limbo.swept first).swept last).store =
    live (limbo.swept (max first last)).store

/-- On a calm store two sweeps do what one up to the later block does. -/
theorem combine_of_calm (hsound : Sound limbo.store) (hcalm : Calm limbo.store)
    (h : Accounted limbo.index (live limbo.store) stranded) (first last : UInt64) :
    Combine limbo first last := by
  obtain ⟨hvalue, hindex, hsound', hcalm', haccounted, hlive⟩ :=
    finalize_of_calm hsound hcalm h first
  rw [← hindex] at haccounted
  obtain ⟨hvalue', hindex', -, -, -, hlive'⟩ := finalize_of_calm hsound' hcalm' haccounted last
  obtain ⟨hdirect, hindexMax, -, -, -, hliveMax⟩ :=
    finalize_of_calm hsound hcalm h (max first last)
  rw [hindex] at hvalue' hindex' hlive'
  have hperm := h.consistent.grounded.perm_evicted_max first last
  refine ⟨⟨_, _, hvalue, hvalue', ?_⟩, ?_, ?_⟩
  · rw [hdirect, ← hperm.length_eq, List.length_append]
  · rw [swept, swept, swept, hindex', hindexMax, h.consistent.splitFinalized_max]
  · funext id
    have hmem := (hperm.map Evicted.id).mem_iff (a := id)
    rw [List.map_append, List.mem_append] at hmem
    simp only [swept, hlive', hlive, hliveMax, ← hmem]
    split
    · rename_i hlast
      rw [if_pos (Or.inr hlast)]
    · rename_i hlast
      simp only [hlast, or_false]

/-- When nothing is stranded, a sweep of a calm store leaves the records of the transactions that
are tracked behind the finalized block. -/
theorem live_swept_iff (hsound : Sound limbo.store) (hcalm : Calm limbo.store)
    (h : Accounted limbo.index (live limbo.store) []) (finalized : UInt64) (id : SlotId)
    (data : Bytes) :
    live (limbo.swept finalized).store id = some data ↔ live limbo.store id = some data ∧
      ∃ tracked, limbo.index.slots[id]? = some tracked ∧ finalized < tracked.block := by
  obtain ⟨-, -, -, -, -, hlive⟩ := finalize_of_calm hsound hcalm h finalized
  have hevicted : ∀ tracked, limbo.index.slots[id]? = some tracked →
      (id ∈ (limbo.index.splitFinalized finalized).1.map Evicted.id ↔
        tracked.block ≤ finalized) :=
    fun tracked => h.consistent.grounded.mem_evicted_ids_iff finalized
  rw [swept, hlive]
  constructor
  · intro hdata
    split at hdata
    · simp at hdata
    · rename_i hkept
      have hrecord : live limbo.store id ≠ none := by simp [hdata]
      obtain ⟨tracked, hslot⟩ := Option.ne_none_iff_exists'.mp (h.slot_ne_none hrecord)
      rw [hevicted tracked hslot, UInt64.not_le] at hkept
      exact ⟨hdata, tracked, hslot, hkept⟩
  · rintro ⟨hdata, tracked, hslot, hlt⟩
    rw [if_neg, hdata]
    rw [hevicted tracked hslot, UInt64.not_le]
    exact hlt

end Calm

section Failing

variable {S : Type}

/-- A sweep reports the slots it could not delete in the order in which it came to them. -/
theorem sublist_failures [SlotStore S] (store : S) (evicted : List Evicted) :
    ((deleteEvicted store evicted).value.map EvictionFailure.slot).Sublist evicted := by
  induction evicted generalizing store with
  | nil => exact List.Sublist.slnil
  | cons slot evicted ih =>
    cases hdelete : (SlotStore.delete slot.id store).value with
    | ok value =>
      rw [deleteEvicted_cons_of_ok hdelete, Outcome.value_after]
      exact (ih _).cons _
    | error cause =>
      rw [deleteEvicted_cons_of_error hdelete, Outcome.value_after, Outcome.value_map,
        List.map_cons]
      exact (ih _).cons_cons _

/-- A sweep leaves the records of the transactions behind the finalized block, and those it could
not delete. -/
structure Leaves (index : Index) (live live' : SlotId → Option Bytes) (finalized : UInt64)
    (failures : List EvictionFailure) : Prop where
  sublist : (failures.map EvictionFailure.slot).Sublist (index.splitFinalized finalized).1
  live_eq : ∀ id, live' id =
    if id ∉ failedIds failures ∧ id ∈ (index.splitFinalized finalized).1.map Evicted.id then none
    else live id

/-- Whatever fails in a sweep, it says what it leaves. -/
theorem leaves_swept [LawfulStore S] {limbo : Limbo S} {stranded : List SlotId}
    (hsound : Sound limbo.store) (h : Accounted limbo.index (live limbo.store) stranded)
    (finalized : UInt64) :
    ∃ failures, (finalize (some finalized) limbo).value =
        .swept (limbo.index.splitFinalized finalized).1.length failures ∧
      Sound (limbo.swept finalized).store ∧
      Leaves limbo.index (live limbo.store) (live (limbo.swept finalized).store) finalized
        failures := by
  obtain ⟨hsound', -, hlive⟩ :=
    deleteEvicted_spec hsound (h.consistent.grounded.nodup_evicted finalized)
  obtain ⟨hvalue, hstore, -⟩ := effect_eq_iff.mp (effect_finalize_some limbo finalized)
  rw [swept, hstore]
  exact ⟨_, hvalue, hsound', sublist_failures _ _, hlive⟩

namespace Leaves

variable {index : Index} {live live' : SlotId → Option Bytes} {finalized : UInt64}
  {failures : List EvictionFailure}

/-- What could not be deleted was to be swept. -/
theorem failed (h : Leaves index live live' finalized failures)
    (haccounted : Accounted index live []) :
    ∀ failure ∈ failures, index.slots[failure.id]? = some ⟨failure.tx, failure.block⟩ ∧
      failure.block ≤ finalized := by
  intro failure hfailure
  have hevicted := h.sublist.subset (List.mem_map_of_mem hfailure)
  exact (haccounted.consistent.grounded.mem_evicted_iff finalized).mp hevicted

/-- The record of a tracked transaction is left when its block is behind the finalized one, and when
it could not be deleted. -/
theorem live_ne_none_iff (h : Leaves index live live' finalized failures)
    (haccounted : Accounted index live []) {id : SlotId} {tracked : Tracked}
    (hslot : index.slots[id]? = some tracked) :
    live' id ≠ none ↔ finalized < tracked.block ∨ id ∈ failedIds failures := by
  have hevicted := haccounted.consistent.grounded.mem_evicted_ids_iff finalized hslot
  have hlive := haccounted.live_ne_none hslot
  simp only [h.live_eq, hevicted, ← UInt64.not_lt]
  by_cases hfailed : id ∈ failedIds failures
  · simp [hfailed, hlive]
  · by_cases hlt : finalized < tracked.block <;> simp [hfailed, hlt, hlive]

/-- The record of a transaction behind the finalized block is not touched. -/
theorem live_of_lt (h : Leaves index live live' finalized failures)
    (haccounted : Accounted index live []) {id : SlotId} {tracked : Tracked}
    (hslot : index.slots[id]? = some tracked) (hlt : finalized < tracked.block) :
    live' id = live id := by
  rw [h.live_eq, if_neg]
  rintro ⟨-, hevicted⟩
  rw [haccounted.consistent.grounded.mem_evicted_ids_iff finalized hslot] at hevicted
  exact UInt64.not_lt.mpr hevicted hlt

/-- What could not be deleted is what the next sweep evicts, once it is tracked again. -/
theorem evicted_eq (h : Leaves index live live' finalized failures)
    (haccounted : Accounted index live []) {next : Index} (hnext : next.Consistent)
    (hslots : ∀ (id : SlotId) (tracked : Tracked), next.slots[id]? = some tracked ↔
      index.slots[id]? = some tracked ∧ live' id ≠ none) :
    (next.splitFinalized finalized).1 = failures.map EvictionFailure.slot := by
  have hgrounded := haccounted.consistent.grounded
  refine Index.eq_of_sweptBefore (hnext.grounded.pairwise_evicted finalized)
    ((hgrounded.pairwise_evicted finalized).sublist h.sublist) fun slot => ?_
  rw [hnext.grounded.mem_evicted_iff, hslots]
  constructor
  · rintro ⟨⟨hslot, hlive⟩, hle⟩
    obtain ⟨failure, hfailure, hid⟩ := List.mem_map.mp
      (((h.live_ne_none_iff haccounted hslot).mp hlive).resolve_left (UInt64.not_lt.mpr hle))
    obtain ⟨hknown, -⟩ := h.failed haccounted failure hfailure
    rw [hid, hslot, Option.some.injEq, Tracked.mk.injEq] at hknown
    refine List.mem_map.mpr ⟨failure, hfailure, ?_⟩
    rw [EvictionFailure.slot, hid, ← hknown.1, ← hknown.2]
  · intro hslot
    obtain ⟨failure, hfailure, rfl⟩ := List.mem_map.mp hslot
    obtain ⟨hknown, hle⟩ := h.failed haccounted failure hfailure
    exact ⟨⟨hknown, (h.live_ne_none_iff haccounted hknown).mpr
      (Or.inr (List.mem_map_of_mem hfailure))⟩, hle⟩

section Restored

variable {next : Index} (h : Leaves index live live' finalized failures)
  (haccounted : Accounted index live [])
  (hslots : ∀ (id : SlotId) (tracked : Tracked), next.slots[id]? = some tracked ↔
    index.slots[id]? = some tracked ∧ live' id ≠ none)

include h haccounted hslots

/-- Behind the finalized block the same is tracked as before. -/
theorem slots_iff_of_lt {id : SlotId} {tracked : Tracked} (hlt : finalized < tracked.block) :
    next.slots[id]? = some tracked ↔ index.slots[id]? = some tracked := by
  rw [hslots, and_iff_left_iff_imp]
  exact fun hslot => (h.live_ne_none_iff haccounted hslot).mpr (Or.inl hlt)

/-- The next sweep ends with the index the first one was meant to end with. -/
theorem index_eq (hnext : next.Consistent) :
    (next.splitFinalized finalized).2 = (index.splitFinalized finalized).2 := by
  refine (haccounted.consistent.splitFinalized finalized).ext (hnext.splitFinalized finalized)
    (ExtTreeMap.ext_getElem? fun id => Option.ext fun tracked => ?_)
  rw [hnext.grounded.slots_splitFinalized, haccounted.consistent.grounded.slots_splitFinalized]
  exact and_congr_left fun hlt => h.slots_iff_of_lt haccounted hslots hlt

/-- The records behind the finalized block are those that were there. -/
theorem live_iff_of_lt (id : SlotId) (data : Bytes) :
    (live' id = some data ∧ ∃ tracked, next.slots[id]? = some tracked ∧ finalized < tracked.block) ↔
      live id = some data ∧
        ∃ tracked, index.slots[id]? = some tracked ∧ finalized < tracked.block := by
  constructor
  · rintro ⟨hdata, tracked, hslot, hlt⟩
    have hknown := (h.slots_iff_of_lt haccounted hslots hlt).mp hslot
    exact ⟨(h.live_of_lt haccounted hknown hlt).symm.trans hdata, tracked, hknown, hlt⟩
  · rintro ⟨hdata, tracked, hknown, hlt⟩
    exact ⟨(h.live_of_lt haccounted hknown hlt).trans hdata, tracked,
      (h.slots_iff_of_lt haccounted hslots hlt).mpr hknown, hlt⟩

end Restored

end Leaves

end Failing

section Memory

variable {before left : Limbo MemoryStore} {finalized : UInt64}
  {failures : List EvictionFailure}

/-- A sweep that could not delete every record is completed by a restart and another sweep. -/
structure Completes (before : Limbo MemoryStore) (finalized : UInt64) (left : Limbo MemoryStore)
    (failures : List EvictionFailure) : Prop where
  /-- What could not be deleted was to be swept. -/
  failed : ∀ failure ∈ failures,
    before.index.slots[failure.id]? = some ⟨failure.tx, failure.block⟩ ∧ failure.block ≤ finalized
  /-- The restart succeeds and drops no record. -/
  restarted : (restart left).value = .ok () ∧
    (restart left).state.store = left.store.calmed ∧
    (restart left).events = [.limbo (.indexed (restart left).state.index.size 0)]
  /-- It tracks what is behind the finalized block and what could not be deleted. -/
  consistent : (restart left).state.index.Consistent
  slots_iff : ∀ (id : SlotId) (tracked : Tracked),
    (restart left).state.index.slots[id]? = some tracked ↔
      before.index.slots[id]? = some tracked ∧
        (finalized < tracked.block ∨ id ∈ failedIds failures)
  /-- The next sweep evicts what could not be deleted. -/
  evicted : ((restart left).state.index.splitFinalized finalized).1 =
    failures.map EvictionFailure.slot
  value : (finalize (some finalized) (restart left).state).value = .swept failures.length []
  /-- Then the records are those of the transactions behind the finalized block. -/
  records_iff : ∀ (id : SlotId) (data : Bytes),
    ((restart left).state.swept finalized).store.records[id]? = some data ↔
      before.store.records[id]? = some data ∧
        ∃ tracked, before.index.slots[id]? = some tracked ∧ finalized < tracked.block
  /-- This is where one sweep ends in which nothing fails. -/
  index_eq : ((restart left).state.swept finalized).index = (before.calmed.swept finalized).index
  records_eq : ((restart left).state.swept finalized).store.records =
    (before.calmed.swept finalized).store.records

/-- Calling off the failures makes the store calm, and changes nothing else. -/
theorem calmed_spec {stranded : List SlotId} (hsound : Sound before.store)
    (haccounted : Accounted before.index (live before.store) stranded) :
    Sound before.calmed.store ∧ Calm before.calmed.store ∧
      Accounted before.calmed.index (live before.calmed.store) stranded :=
  ⟨hsound, rfl, haccounted⟩

/-- A restart after a failing sweep tracks what the sweep left. -/
theorem Leaves.restarted (haccounted : Accounted before.index (live before.store) [])
    (hleaves : Leaves before.index (live before.store) (live left.store) finalized failures) :
    ∃ next : Index, restart left =
        { value := .ok ()
          state := { store := left.store.calmed, index := next }
          events := [.limbo (.indexed next.size 0)] } ∧
      Accounted next (live left.store) [] ∧
      ∀ (id : SlotId) (tracked : Tracked), next.slots[id]? = some tracked ↔
        before.index.slots[id]? = some tracked ∧ live left.store id ≠ none := by
  have hleftOver : ∀ id, live left.store id = none ∨ live left.store id = live before.store id := by
    intro id
    rw [hleaves.live_eq]
    split
    · exact Or.inl rfl
    · exact Or.inr rfl
  obtain ⟨next, hnext, hslots⟩ := haccounted.restrict hleftOver
  exact ⟨next, recover_of_accounted (lists_replay left.store.calmed) hnext, hnext, hslots⟩

/-- What a failing sweep leaves is completed by a restart and the next sweep. -/
theorem Leaves.completes (hsound : Sound before.store)
    (haccounted : Accounted before.index (live before.store) []) (hleft : Sound left.store)
    (hleaves : Leaves before.index (live before.store) (live left.store) finalized failures) :
    Completes before finalized left failures := by
  obtain ⟨next, hrestart, hnext, hslots⟩ := hleaves.restarted haccounted
  have hevicted := hleaves.evicted_eq haccounted hnext.consistent hslots
  -- Nothing is to fail from here on, neither after the restart nor in the sweep to compare with.
  have hrestarted : Sound (restart left).state.store ∧ Calm (restart left).state.store ∧
      Accounted (restart left).state.index (live (restart left).state.store) [] := by
    rw [hrestart]
    exact ⟨hleft, rfl, hnext⟩
  have hbefore := calmed_spec hsound haccounted
  obtain ⟨hvalue, hindex, -⟩ :=
    finalize_of_calm hrestarted.1 hrestarted.2.1 hrestarted.2.2 finalized
  obtain ⟨-, hdirect, -⟩ := finalize_of_calm hbefore.1 hbefore.2.1 hbefore.2.2 finalized
  have hrecords : ∀ (id : SlotId) (data : Bytes),
      ((restart left).state.swept finalized).store.records[id]? = some data ↔
        before.store.records[id]? = some data ∧
          ∃ tracked, before.index.slots[id]? = some tracked ∧ finalized < tracked.block := by
    intro id data
    refine (live_swept_iff hrestarted.1 hrestarted.2.1 hrestarted.2.2 finalized id data).trans ?_
    rw [hrestart]
    exact hleaves.live_iff_of_lt haccounted hslots id data
  rw [hrestart] at hvalue hindex
  refine {
    failed := hleaves.failed haccounted
    restarted := by
      rw [hrestart]
      exact ⟨rfl, rfl, rfl⟩
    consistent := hrestarted.2.2.consistent
    slots_iff := fun id tracked => ?_
    evicted := by rwa [hrestart]
    value := by rw [hrestart, hvalue, hevicted, List.length_map]
    records_iff := hrecords
    index_eq := ?_
    records_eq := ?_ }
  · rw [hrestart, hslots]
    exact and_congr_right fun hslot => hleaves.live_ne_none_iff haccounted hslot
  · rw [swept, swept, hrestart, hindex, hdirect]
    exact hleaves.index_eq haccounted hslots hnext.consistent
  · refine ExtTreeMap.ext_getElem? fun id => Option.ext fun data => ?_
    exact (hrecords id data).trans
      (live_swept_iff hbefore.1 hbefore.2.1 hbefore.2.2 finalized id data).symm

/-- When nothing is stranded, a sweep in which some deletions fail is completed. -/
theorem exists_completes (hsound : Sound before.store)
    (haccounted : Accounted before.index (live before.store) []) (finalized times : UInt64) :
    let failing := before.meet (.failNext .delete times)
    ∃ evicted failures, (finalize (some finalized) failing).value = .swept evicted failures ∧
      failures.length = min failing.store.pending.delete.toNat evicted ∧
      (finalize (some finalized) before.calmed).value = .swept evicted [] ∧
      Completes before finalized (failing.swept finalized) failures := by
  intro failing
  have hfailing : Sound failing.store ∧ Accounted failing.index (live failing.store) [] :=
    ⟨hsound, haccounted⟩
  have hcalmed := calmed_spec hsound haccounted
  obtain ⟨failures, hvalue, hleft, hleaves⟩ := leaves_swept hfailing.1 hfailing.2 finalized
  obtain ⟨hdirect, -⟩ := finalize_of_calm hcalmed.1 hcalmed.2.1 hcalmed.2.2 finalized
  refine ⟨_, failures, hvalue, ?_, hdirect, hleaves.completes hsound haccounted hleft⟩
  obtain ⟨-, rfl⟩ := Finalization.swept.inj hvalue
  change (deleteEvicted failing.store (failing.index.splitFinalized finalized).1).value.length = _
  rw [(deleteEvicted_splitFinalized hfailing.2 finalized).1, List.length_map, List.length_take]

/-- **Sweeps.** Take any store in memory whose records are of a length that memory can hold, recover
a limbo from its replay, and let the limbo undergo any calls with any failures between them. When
nothing fails any more, sweeping up to two blocks, in whatever order, is sweeping up to the later
one. And when every live record is tracked, a sweep in which any number of deletions fails is
completed by a restart and another sweep up to the same block. -/
theorem sweeps_complete (store : MemoryStore) (hids : store.IdsBelowNext)
    (hlengths : ∀ (id : SlotId) (data : Bytes), store.records[id]? = some data →
      data.length < 2 ^ 63)
    (hok : (recover store store.replay).value = .ok ()) (incidents : List Incident)
    (hincidents : ∀ incident ∈ incidents, incident.Fits Sidecar.Encodable) :
    let before := (recover store store.replay).state.undergo incidents
    (∀ first last, Combine before.calmed first last) ∧
      ((∀ id : SlotId, before.store.records[id]? ≠ none → before.index.slots[id]? ≠ none) →
        ∀ finalized times, let failing := before.meet (.failNext .delete times)
          ∃ evicted failures,
            (finalize (some finalized) failing).value = .swept evicted failures ∧
              failures.length = min failing.store.pending.delete.toNat evicted ∧
              (finalize (some finalized) before.calmed).value = .swept evicted [] ∧
              Completes before finalized (failing.swept finalized) failures) := by
  intro before
  obtain ⟨hsound, haccounted⟩ := accounted_undergo hids hlengths hok hincidents
  have hcalmed := calmed_spec hsound haccounted
  refine ⟨combine_of_calm hcalmed.1 hcalmed.2.1 hcalmed.2.2, fun htracked => ?_⟩
  have hnone : (recover store store.replay).state.refusedDeletions incidents = [] := by
    rw [List.eq_nil_iff_forall_not_mem]
    intro id hrefused
    obtain ⟨hrecord, hslot⟩ := (haccounted.stranded_iff id).mp hrefused
    exact htracked id hrecord hslot
  rw [hnone] at haccounted
  exact exists_completes hsound haccounted

/-- Of three transactions two are to be swept, and the first deletion fails. -/
theorem sweeps_complete_after_one_failure :
    let incidents : List Incident :=
      [.call (.push (.replicate 32 7) 5 ⟨[], [], []⟩),
        .call (.push (.replicate 32 8) 7 ⟨[], [], []⟩),
        .call (.push (.replicate 32 9) 9 ⟨[], [], []⟩)]
    let before := (recover MemoryStore.empty MemoryStore.empty.replay).state.undergo incidents
    let failing := before.meet (.failNext .delete 1)
    (∀ first last, Combine before.calmed first last) ∧
      ∃ failures, (finalize (some 7) failing).value = .swept 2 failures ∧ failures.length = 1 ∧
        Completes before 7 (failing.swept 7) failures := by
  intro incidents before failing
  have hsidecar : (⟨[], [], []⟩ : Sidecar).Encodable :=
    (⟨Nat.le_refl 0, rfl, rfl⟩ : (⟨[], [], []⟩ : Sidecar).OfAtMost 0).encodable (Nat.zero_le _)
  have hincidents : ∀ incident ∈ incidents, incident.Fits Sidecar.Encodable := by
    simp [incidents, Incident.Fits, Call.Fits, hsidecar]
  have htracked : ∀ id : SlotId,
      before.store.records[id]? ≠ none → before.index.slots[id]? ≠ none := by
    intro id hrecord
    have hkeys : ∀ id ∈ before.store.records.keys, before.index.slots[id]? ≠ none := by
      decide +kernel
    refine hkeys id ?_
    rwa [ExtTreeMap.mem_keys, ExtTreeMap.mem_iff_isSome_getElem?, Option.isSome_iff_ne_none]
  obtain ⟨hcombine, hcompletes⟩ := sweeps_complete MemoryStore.empty
    (MemoryStore.idsBelowNext_ofRecords []) (by simp [MemoryStore.empty]) rfl incidents hincidents
  obtain ⟨evicted, failures, hvalue, hlength, hdirect, hcompleted⟩ := hcompletes htracked 7 1
  have hcalm : (finalize (some 7) before.calmed).value = .swept 2 [] := by decide +kernel
  obtain ⟨rfl, -⟩ := Finalization.swept.inj (hdirect.symm.trans hcalm)
  have hpending : failing.store.pending.delete = 1 := by decide +kernel
  rw [hpending] at hlength
  exact ⟨hcombine, failures, hvalue, hlength.trans (by decide), hcompleted⟩

end Memory

end Limbo

end BlobLimbo
