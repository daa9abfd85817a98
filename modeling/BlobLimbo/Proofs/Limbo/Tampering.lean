import BlobLimbo.Proofs.Limbo.Erasure
import BlobLimbo.Proofs.Limbo.Restart
import BlobLimbo.Proofs.Store.Steady

/-!
# A limbo whose records are forged

While a limbo on disk is in use, somebody else may write into its shelf files. An operation then
reads the entry of another transaction or of another block, or none at all, and the index forgets
what that entry names. It stays grounded, and each slot it knows stays taken (`Anchored`). So no
slot is freed twice, none is given away while the index knows it, no sweep leaves a record behind,
and no update fails over what is tracked (`endure_noneDangling`).
-/

namespace BlobLimbo

open Std SlotStore SteadyStore

/-- The store failed, or a record it holds cannot be read. -/
def LimboError.Underlying : LimboError → Prop
  | .store _ | .decode _ => True
  | _ => False

namespace Limbo

/-- What happens to a limbo into whose files somebody else writes. -/
inductive Disturbance where
  /-- It is called. -/
  | call (call : Call)
  /-- Bytes are written into the file at a place, from an offset on. -/
  | overwrite (place : Path) (offset : Nat) (data : Bytes)

section Endure

variable {S : Type} [ExposedStore S]

/-- What a disturbance makes of a limbo. -/
def suffer (limbo : Limbo S) : Disturbance → Limbo S
  | .call call => (limbo.perform call).state
  | .overwrite place offset data =>
    limbo.withStore (ExposedStore.overwrite limbo.store place offset data)

/-- What some disturbances make of a limbo, one after the other. -/
def endure (limbo : Limbo S) (disturbances : List Disturbance) : Limbo S :=
  disturbances.foldl suffer limbo

/-- Watching does not change what disturbances do. -/
theorem erase_endure (limbo : Limbo (Watched S)) (disturbances : List Disturbance) :
    (limbo.endure disturbances).erase = limbo.erase.endure disturbances := by
  induction disturbances generalizing limbo with
  | nil => rfl
  | cons disturbance disturbances ih =>
    have hstep : (limbo.suffer disturbance).erase = limbo.erase.suffer disturbance := by
      cases disturbance with
      | call call => exact congrArg Outcome.state (erase_perform limbo call)
      | overwrite place offset data => rfl
    rw [endure, endure, List.foldl_cons, List.foldl_cons, ← hstep]
    exact ih (limbo.suffer disturbance)

/-- The limbo with a note beside its store, on which no failed deletion stands yet. -/
def withNote (limbo : Limbo S) : Limbo (Watched S) :=
  { store := { store := limbo.store }, index := limbo.index, ledger := limbo.ledger }

/-- The ids whose deletion failed while a limbo endured some disturbances. -/
def failedDeletions (limbo : Limbo S) (disturbances : List Disturbance) : List SlotId :=
  (limbo.withNote.endure disturbances).store.refused

end Endure

/-- The index is grounded, and every slot it knows is taken. -/
structure Anchored {S : Type} [SteadyStore S] (store : S) (index : Index) : Prop where
  grounded : index.Grounded
  steady : Steady store
  taken : ∀ id : SlotId, index.slots[id]? ≠ none → Taken store id

/-- A sweep through different slots that are taken frees them all. -/
theorem deleteEvicted_of_taken {S : Type} [SteadyStore S] {store : S} (hsteady : Steady store)
    {evicted : List Evicted} (hnodup : (evicted.map Evicted.id).Nodup)
    (htaken : ∀ slot ∈ evicted, Taken store slot.id) :
    (deleteEvicted store evicted).value = [] ∧ Steady (deleteEvicted store evicted).state ∧
      ∀ id, Taken (deleteEvicted store evicted).state id ↔
        id ∉ evicted.map Evicted.id ∧ Taken store id := by
  induction evicted generalizing store with
  | nil => exact ⟨rfl, hsteady, by simp [deleteEvicted]⟩
  | cons slot evicted ih =>
    rw [List.map_cons, List.nodup_cons] at hnodup
    rw [List.forall_mem_cons] at htaken
    obtain ⟨hdelete, hsteady', hfreed⟩ := delete_taken hsteady htaken.1
    have hrest : ∀ other ∈ evicted, Taken (SlotStore.delete slot.id store).state other.id := by
      intro other hother
      have hne : other.id ≠ slot.id := fun hid => hnodup.1 (hid ▸ List.mem_map_of_mem hother)
      exact (hfreed other.id).mpr ⟨hne, htaken.2 other hother⟩
    obtain ⟨hvalue, hsteady'', hfreed'⟩ := ih hsteady' hnodup.2 hrest
    rw [deleteEvicted_cons_of_ok hdelete, Outcome.value_after, Outcome.state_after]
    refine ⟨hvalue, hsteady'', fun id => ?_⟩
    rw [hfreed', hfreed, List.map_cons, List.mem_cons, not_or]
    tauto

namespace Anchored

variable {S : Type} [SteadyStore S] {limbo : Limbo S} {tx : TxHash} {id : SlotId}

/-- A transaction has a slot the index knows. -/
theorem slot_ne_none (h : Anchored limbo.store limbo.index)
    (hslot : limbo.index.slotOf tx = some id) : limbo.index.slots[id]? ≠ none := by
  obtain ⟨block, hknown⟩ := h.grounded.slot_of_owner tx id hslot
  simp [hknown]

/-- Taking an entry, whatever its record has been made to say. The transaction in whose slot it was
is not tracked afterwards, even when the record named another one. -/
theorem take (h : Anchored limbo.store limbo.index) (hslot : limbo.index.slotOf tx = some id) :
    Anchored (take id limbo).state.store (take id limbo).state.index ∧
      (∀ entry, (Limbo.take id limbo).value = .ok entry →
        (Limbo.take id limbo).state.index.slotOf tx = none) ∧
      ∀ cause, (Limbo.take id limbo).value = .error cause → cause.Underlying := by
  have hget := state_get limbo.store id
  cases hread : (SlotStore.get id limbo.store).value with
  | error cause =>
    obtain ⟨hvalue, hstore, hindex⟩ := effect_eq_iff.mp (effect_take_of_unread hread)
    rw [hvalue, hstore, hindex, hget]
    refine ⟨h, by simp, ?_⟩
    rintro cause ⟨⟩
    trivial
  | ok data =>
    cases hdecode : Entry.decode data with
    | error cause =>
      obtain ⟨hvalue, hstore, hindex⟩ :=
        effect_eq_iff.mp (effect_take_of_undecodable hread hdecode)
      rw [hvalue, hstore, hindex, hget]
      refine ⟨h, by simp, ?_⟩
      rintro cause ⟨⟩
      trivial
    | ok entry =>
      obtain ⟨tracked, hknown⟩ := Option.ne_none_iff_exists'.mp (h.slot_ne_none hslot)
      obtain ⟨hdelete, hsteady, hfreed⟩ := delete_taken h.steady (h.taken id (by simp [hknown]))
      obtain ⟨hvalue, hstore, hindex⟩ := effect_eq_iff.mp (effect_take_of_decoded hread hdecode)
      rw [hget, hdelete] at hvalue
      rw [hvalue, hstore, hindex, hget]
      refine ⟨⟨h.grounded.remove _ _ _, hsteady, fun id' hslot' => ?_⟩, fun _ _ => ?_, ?_⟩
      · simp only [Index.Grounded.slots_remove, ExtTreeMap.getElem?_erase,
          LawfulEqCmp.compare_eq_iff_eq, ne_eq, ite_eq_left_iff, not_forall] at hslot'
        obtain ⟨hne, hslot'⟩ := hslot'
        exact (hfreed id').mpr ⟨Ne.symm hne, h.taken id' hslot'⟩
      · rw [Index.slotOf, Option.eq_none_iff_forall_ne_some]
        intro id' hslot'
        obtain ⟨hold, -, hne⟩ := (h.grounded.owners_remove _ _ _).mp hslot'
        rw [Index.slotOf, hold, Option.some.injEq] at hslot
        exact hne hslot
      · rintro cause ⟨⟩

/-- Storing an entry of a transaction that has no slot. -/
theorem insert (h : Anchored limbo.store limbo.index)
    (huntracked : limbo.index.slotOf tx = none) (block : UInt64) (sidecar : Sidecar) :
    Anchored (insert ⟨tx, block, sidecar⟩ limbo).state.store
        (insert ⟨tx, block, sidecar⟩ limbo).state.index ∧
      ∀ cause, (Limbo.insert ⟨tx, block, sidecar⟩ limbo).value = .error cause →
        cause.Underlying := by
  cases hput : (SlotStore.put (Entry.encode ⟨tx, block, sidecar⟩) limbo.store).value with
  | error cause =>
    obtain ⟨hvalue, hstore, hindex⟩ := effect_eq_iff.mp (effect_insert_of_refused hput)
    rw [hvalue, hstore, hindex, put_error hput]
    refine ⟨h, ?_⟩
    rintro cause ⟨⟩
    trivial
  | ok id =>
    obtain ⟨hsteady, hfree, htaken⟩ := put_ok h.steady hput
    -- a slot that is not taken is unknown to the index, so registering it cannot be refused
    have hfresh : limbo.index.slots[id]? = none := by
      by_contra hknown
      exact hfree (h.taken id hknown)
    obtain ⟨next, hnext, hgrounded, -, hslots⟩ :=
      h.grounded.insert?_eq block huntracked hfresh
    obtain ⟨hvalue, hstore, hindex⟩ := effect_eq_iff.mp (effect_insert_of_stored hput hnext)
    rw [hvalue, hstore, hindex]
    refine ⟨⟨hgrounded, hsteady, fun id' hslot => ?_⟩, by simp⟩
    simp only [hslots, ExtTreeMap.getElem?_insert, LawfulEqCmp.compare_eq_iff_eq] at hslot
    rw [htaken]
    split at hslot
    · rename_i heq
      exact Or.inl heq.symm
    · exact Or.inr (h.taken id' hslot)

/-- Pushing a transaction. One that is not tracked is not taken for tracked. -/
theorem push (h : Anchored limbo.store limbo.index) (tx : TxHash) (block : UInt64)
    (sidecar : Sidecar) :
    Anchored (push tx block sidecar limbo).state.store (push tx block sidecar limbo).state.index ∧
      (limbo.contains tx = false → ∀ cause, (Limbo.push tx block sidecar limbo).value =
        .error cause → cause.Underlying) := by
  cases htracked : limbo.contains tx with
  | true =>
    obtain ⟨-, hstore, hindex⟩ := effect_eq_iff.mp (effect_push_of_tracked block sidecar htracked)
    rw [hstore, hindex]
    exact ⟨h, by simp⟩
  | false =>
    obtain ⟨hvalue, hstore, hindex⟩ :=
      effect_eq_iff.mp (effect_push_of_untracked block sidecar htracked)
    obtain ⟨hanchored, hcauses⟩ := h.insert (slotOf_of_not_contains htracked) block sidecar
    rw [hvalue, hstore, hindex]
    exact ⟨hanchored, fun _ => hcauses⟩

/-- Pulling a transaction. -/
theorem pull (h : Anchored limbo.store limbo.index) (tx : TxHash) :
    Anchored (pull tx limbo).state.store (pull tx limbo).state.index := by
  cases hslot : limbo.index.slotOf tx with
  | none =>
    obtain ⟨-, hstore, hindex⟩ := effect_eq_iff.mp (effect_pull_of_untracked hslot)
    rw [hstore, hindex]
    exact h
  | some id =>
    obtain ⟨-, hstore, hindex⟩ := effect_eq_iff.mp (effect_pull_of_tracked hslot)
    rw [hstore, hindex]
    exact (h.take hslot).1

/-- Moving a transaction to another block. It fails only when a record cannot be read or stored. -/
theorem update (h : Anchored limbo.store limbo.index) (tx : TxHash) (block : UInt64) :
    Anchored (update tx block limbo).state.store (update tx block limbo).state.index ∧
      ∀ cause, (Limbo.update tx block limbo).value = .error cause → cause.Underlying := by
  cases hslot : limbo.index.slotOf tx with
  | none =>
    obtain ⟨hvalue, hstore, hindex⟩ :=
      effect_eq_iff.mp (effect_update_of_untracked block hslot)
    rw [hvalue, hstore, hindex]
    exact ⟨h, by simp⟩
  | some id =>
    by_cases hblock : (limbo.index.slot id).map Tracked.block = some block
    · obtain ⟨hvalue, hstore, hindex⟩ :=
        effect_eq_iff.mp (effect_update_of_unchanged hslot hblock)
      rw [hvalue, hstore, hindex]
      exact ⟨h, by simp⟩
    · obtain ⟨htaken, hafter, hcauses⟩ := h.take hslot
      cases htake : (Limbo.take id limbo).value with
      | error cause =>
        obtain ⟨hvalue, hstore, hindex⟩ :=
          effect_eq_iff.mp (effect_update_of_untaken hslot hblock htake)
        rw [hvalue, hstore, hindex]
        refine ⟨htaken, ?_⟩
        rintro cause ⟨⟩
        exact hcauses cause htake
      | ok entry =>
        obtain ⟨hvalue, hstore, hindex⟩ :=
          effect_eq_iff.mp (effect_update_of_taken hslot hblock htake)
        obtain ⟨hinserted, hcauses'⟩ :=
          htaken.insert (hafter entry htake) block entry.sidecar
        rw [hvalue, hstore, hindex]
        refine ⟨hinserted, fun cause hcause => hcauses' cause ?_⟩
        cases hinsert : (Limbo.insert ⟨tx, block, entry.sidecar⟩
            (Limbo.take id limbo).state).value with
        | error cause' =>
          simpa [hinsert, Except.map] using hcause
        | ok value => simp [hinsert, Except.map] at hcause

/-- A sweep frees every slot it lists. -/
theorem finalize (h : Anchored limbo.store limbo.index) (finalized : UInt64) :
    Anchored (finalize (some finalized) limbo).state.store
        (finalize (some finalized) limbo).state.index ∧
      (Limbo.finalize (some finalized) limbo).value =
        .swept (limbo.index.splitFinalized finalized).1.length [] := by
  obtain ⟨hvalue, hstore, hindex⟩ := effect_eq_iff.mp (effect_finalize_some limbo finalized)
  have htaken : ∀ slot ∈ (limbo.index.splitFinalized finalized).1, Taken limbo.store slot.id := by
    intro slot hslot
    have hknown := ((h.grounded.mem_evicted_iff finalized).mp hslot).1
    exact h.taken slot.id (by simp [hknown])
  obtain ⟨hnone, hsteady, hfreed⟩ :=
    deleteEvicted_of_taken h.steady (h.grounded.nodup_evicted finalized) htaken
  rw [hvalue, hstore, hindex, hnone]
  refine ⟨⟨h.grounded.splitFinalized finalized, hsteady, fun id hslot => ?_⟩, rfl⟩
  rw [ne_eq, h.grounded.slots_splitFinalized_eq_none_iff, not_or] at hslot
  exact (hfreed id).mpr ⟨by simpa only [List.mem_map] using hslot.2, h.taken id hslot.1⟩

/-- Every disturbance keeps a limbo anchored. -/
theorem suffer (h : Anchored limbo.store limbo.index) (disturbance : Disturbance) :
    Anchored (suffer limbo disturbance).store (Limbo.suffer limbo disturbance).index := by
  cases disturbance with
  | call call =>
    cases call with
    | push tx block sidecar => exact (h.push tx block sidecar).1
    | pull tx => exact h.pull tx
    | update tx block => exact (h.update tx block).1
    | finalize finalized =>
      cases finalized with
      | none => exact h
      | some finalized => exact (h.finalize finalized).1
  | overwrite place offset data =>
    exact ⟨h.grounded, steady_overwrite place offset data h.steady, fun id hslot =>
      (taken_overwrite limbo.store place offset data id).mpr (h.taken id hslot)⟩

/-- All disturbances keep a limbo anchored. -/
theorem endure (h : Anchored limbo.store limbo.index) (disturbances : List Disturbance) :
    Anchored (endure limbo disturbances).store (Limbo.endure limbo disturbances).index := by
  induction disturbances generalizing limbo with
  | nil => exact h
  | cons disturbance disturbances ih => exact ih (h.suffer disturbance)

end Anchored

/-- What a limbo on disk tracks is in slots that are taken, and nothing it does fails for another
reason than that a record cannot be read or stored. -/
structure NoneDangling (limbo : Limbo ShelfStore) : Prop where
  /-- The slot of a transaction is known, with that transaction as its owner, and it is in the group
  of its block. -/
  slot_of_tracked : ∀ tx id, limbo.index.slotOf tx = some id → ∃ block,
    limbo.index.slot id = some ⟨tx, block⟩ ∧ Index.InGroup limbo.index.groups block id
  /-- Exactly the tracked transactions have a block. -/
  trackedBlock_isSome : ∀ tx, (limbo.trackedBlock tx).isSome = limbo.contains tx
  /-- The groups list the slots that are known, each under its block. -/
  group_iff : ∀ block id, Index.InGroup limbo.index.groups block id ↔
    (limbo.index.slot id).map Tracked.block = some block
  /-- Every slot that is known is one of its shelf and no gap. -/
  taken : ∀ id, limbo.index.slot id ≠ none → limbo.store.Taken id
  /-- Every slot that is known can be freed. -/
  freeable : ∀ id, limbo.index.slot id ≠ none → (SlotStore.delete id limbo.store).value = .ok ()
  /-- No new record gets a slot that is known. -/
  fresh : ∀ data id, (SlotStore.put data limbo.store).value = .ok id →
    limbo.index.slot id = none
  /-- A sweep reports no failure. -/
  swept : ∀ finalized, (finalize (some finalized) limbo).value =
    .swept (limbo.index.splitFinalized finalized).1.length []
  /-- A transaction that is not tracked is not refused as tracked. -/
  pushed : ∀ tx block sidecar other, limbo.contains tx = false →
    (push tx block sidecar limbo).value ≠ .error (.alreadyTracked other)
  /-- Moving a transaction does not fail because one is tracked, or is not. -/
  updated : ∀ tx block other,
    (update tx block limbo).value ≠ .error (.alreadyTracked other) ∧
      (update tx block limbo).value ≠ .error (.notTracked other)

/-- In a limbo that is anchored nothing dangles. -/
theorem Anchored.noneDangling {limbo : Limbo ShelfStore}
    (h : Anchored limbo.store limbo.index) : NoneDangling limbo where
  slot_of_tracked tx id hslot := by
    obtain ⟨block, hknown⟩ := h.grounded.slot_of_owner tx id hslot
    exact ⟨block, hknown, (h.grounded.group_iff block id).mpr ⟨tx, hknown⟩⟩
  trackedBlock_isSome tx := by
    rw [contains, Index.contains, ExtTreeMap.contains_eq_isSome_getElem?, trackedBlock,
      Option.isSome_map, Index.slotOf]
    cases hslot : limbo.index.owners[tx]? with
    | none => rfl
    | some id =>
      obtain ⟨block, hknown⟩ := h.grounded.slot_of_owner tx id hslot
      simp [Index.slot, hknown]
  group_iff block id := by
    rw [h.grounded.group_iff, Index.slot, Option.map_eq_some_iff]
    constructor
    · rintro ⟨owner, hknown⟩
      exact ⟨_, hknown, rfl⟩
    · rintro ⟨⟨owner, block⟩, hknown, rfl⟩
      exact ⟨owner, hknown⟩
  taken := h.taken
  freeable id hslot := (delete_taken h.steady (h.taken id hslot)).1
  fresh data id hput := by
    by_contra hknown
    exact (put_ok h.steady hput).2.1 (h.taken id hknown)
  swept finalized := (h.finalize finalized).2
  pushed tx block sidecar other huntracked hfailed :=
    (h.push tx block sidecar).2 huntracked _ hfailed
  updated tx block other :=
    ⟨fun hfailed => (h.update tx block).2 _ hfailed,
      fun hfailed => (h.update tx block).2 _ hfailed⟩

section OnDisk

variable {config : LimboConfig} {ledger : Metrics.Ledger} {disk : Disk} {limbo : Limbo ShelfStore}

/-- A limbo on disk is anchored when it is opened. -/
theorem anchored_openOnDisk (hslots : NumberableAt config disk)
    (hopen : (openOnDisk config ledger disk).value = .ok limbo) :
    Anchored limbo.store limbo.index := by
  obtain ⟨sizes, -, hopenAt, haccounted⟩ := openOnDisk_spec hslots hopen
  refine ⟨haccounted.consistent.grounded, hopenAt.intact.numbered, fun id hslot => ?_⟩
  obtain ⟨tracked, hknown⟩ := Option.ne_none_iff_exists'.mp hslot
  exact hopenAt.intact.taken (haccounted.live_ne_none hknown)

/-- **No slot is freed twice.** Open a limbo on any disk and let it go through any calls, while
somebody else writes any bytes into its files without making them longer. Then every transaction it
tracks is in a slot that is known and taken, the groups list the slots that are known, a sweep
reports no failure, no update fails over what is tracked, and no deletion has failed on the way. The
failed deletions are read off the same run with a note beside the store. -/
theorem endure_noneDangling (hslots : NumberableAt config disk)
    (hopen : (openOnDisk config ledger disk).value = .ok limbo)
    (disturbances : List Disturbance) :
    NoneDangling (limbo.endure disturbances) ∧
      (limbo.withNote.endure disturbances).erase = limbo.endure disturbances ∧
      limbo.failedDeletions disturbances = [] := by
  have hanchored := anchored_openOnDisk hslots hopen
  have hnoted : Anchored limbo.withNote.store limbo.withNote.index :=
    ⟨hanchored.grounded, ⟨hanchored.steady, rfl⟩, hanchored.taken⟩
  exact ⟨(hanchored.endure disturbances).noneDangling, erase_endure limbo.withNote disturbances,
    (hnoted.endure disturbances).steady.2⟩

/-- The first of two records is overwritten by a copy of the second. Pulling the first transaction
makes the index forget the second one too, which is pushed again and gets the slot of the first. The
sweep frees both slots of the second. -/
theorem endure_noneDangling_forged :
    let first : TxHash := .replicate 32 7
    let second : TxHash := .replicate 32 8
    let copied := Entry.encode ⟨second, 6, ⟨[], [], []⟩⟩
    let disturbances : List Disturbance :=
      [.call (.push first 5 ⟨[], [], []⟩), .call (.push second 6 ⟨[], [], []⟩),
        .overwrite ["limbo", "shelf-00132198.dat"] 0
          (Bytes.ofNat slotHeaderSize copied.length ++ copied),
        .call (.pull first), .call (.push second 7 ⟨[], [], []⟩), .call (.finalize (some 7))]
    ∃ limbo, (openOnDisk { maxBlobsPerTx := 1 } {} tornDisk).value = .ok limbo ∧
      NoneDangling (limbo.endure disturbances) ∧
      (limbo.withNote.endure disturbances).erase = limbo.endure disturbances ∧
      limbo.failedDeletions disturbances = [] := by
  intro first second copied disturbances
  obtain ⟨limbo, hopen, -⟩ := openOnDisk_tornDisk
  exact ⟨limbo, hopen, endure_noneDangling numberableAt_tornDisk hopen disturbances⟩

end OnDisk

end Limbo

end BlobLimbo
