import BlobLimbo.Proofs.Layout
import BlobLimbo.Proofs.Limbo.Observation
import BlobLimbo.Proofs.Limbo.Restart
import BlobLimbo.Proofs.Store.Memory

/-!
# A limbo is a finite map

A limbo that starts empty follows the finite map of its transactions through every run, over a store
in memory as well as on disk (`run_followsMap`). On disk every entry has room because the slots are
laid out for its number of blobs.
-/

namespace BlobLimbo

open Std LawfulStore

/-- The slots of a limbo's store take every entry of an allowed number of blobs. -/
theorem ShelfStore.OpenAt.accommodates {path : String} {maxBlobs : UInt32} {sizes : List UInt32}
    {store : ShelfStore} (h : OpenAt path sizes store)
    (hsizes : Layout.slotSizes maxBlobs = .ok sizes)
    (hslots : ∀ shelf ∈ store.shelves, shelf.slots < 2 ^ 32) :
    Accommodates (Sidecar.OfAtMost maxBlobs.toNat) store := by
  intro owner block sidecar hsidecar
  have hne : sizes ≠ [] := by
    rintro rfl
    have hlayout := h.intact.layout
    rw [h.sizes_eq] at hlayout
    simp [layoutError?] at hlayout
  obtain ⟨size, hmem, hsize⟩ := Layout.exists_slotSize hsizes hne hsidecar.blobs_le
  have hlength : (Entry.encode ⟨owner, block, sidecar⟩).length ≤
      78 + sidecar.blobs.length * Layout.perBlob.toNat :=
    Entry.length_encode_le_of_lengths rfl hsidecar.commitments_eq hsidecar.proofs_eq
  have hbound : size.toNat < 2 ^ 32 := size.toNat_lt
  have hheader : slotHeaderSize = 4 := rfl
  refine ⟨by omega, Entry.encode_ne_nil _, ⟨size, ?_, by omega⟩, hslots⟩
  rw [h.sizes_eq]
  exact hmem

/-- A store in memory takes every entry. -/
theorem MemoryStore.accommodates (store : MemoryStore) : Accommodates Sidecar.Encodable store := by
  intro owner block sidecar hsidecar
  refine ⟨hsidecar owner block, ?_⟩
  change (Entry.encode ⟨owner, block, sidecar⟩).isEmpty = false
  rw [← Bool.not_eq_true, List.isEmpty_iff]
  exact Entry.encode_ne_nil _

/-- An empty limbo over a calm store holds nothing. -/
theorem Holds.of_size_eq_zero {S : Type} [ReliableStore S] {store : S} {index : Index}
    (hsound : Sound store) (hcalm : ReliableStore.Calm store)
    (haccounted : Accounted index (live store) []) (hsize : index.size = 0) :
    Holds ∅ store index := by
  refine ⟨hsound, hcalm, haccounted, fun tx block sidecar => ?_⟩
  simp only [ExtTreeMap.getElem?_empty, reduceCtorEq, false_iff, not_exists, not_and]
  intro id hslot
  have howner := (haccounted.consistent.owner_iff tx id).mpr ⟨block, hslot⟩
  rw [Index.size, ← ExtTreeMap.eq_empty_iff_size_eq_zero] at hsize
  simp [hsize] at howner

namespace Limbo

/-- A run replies what the map of a limbo that starts empty says, and at every point of the run what
can be read off the limbo is what can be read off the map. -/
structure FollowsMap {S : Type} [SlotStore S] (limbo : Limbo S) (calls : List Call) : Prop where
  replies : (limbo.run calls).value = (Holdings.run ∅ calls).1
  agrees : ∀ earlier, earlier <+: calls →
    Agrees (limbo.run earlier).state (Holdings.run ∅ earlier).2

/-- A limbo that holds nothing follows its map while there is room. -/
theorem followsMap_of_holds {S : Type} [ReliableStore S] {limbo : Limbo S} {calls : List Call}
    {fits : Sidecar → Prop} (h : Holds ∅ limbo.store limbo.index)
    (hroom : ∀ earlier, earlier <+: calls → Accommodates fits (limbo.run earlier).state.store)
    (hcalls : ∀ call ∈ calls, call.Fits fits) : FollowsMap limbo calls := by
  refine ⟨(h.run .empty hroom hcalls).1, fun earlier hearlier => ?_⟩
  have hroom' : ∀ first, first <+: earlier → Accommodates fits (limbo.run first).state.store :=
    fun first hfirst => hroom first (hfirst.trans hearlier)
  have hcalls' : ∀ call ∈ earlier, call.Fits fits :=
    fun call hmem => hcalls call (hearlier.subset hmem)
  exact (h.run .empty hroom' hcalls').2.agrees

/-- Over a store in memory that is not told to fail. -/
theorem followsMap_memory {limbo : Limbo MemoryStore} {calls : List Call}
    (hrecords : limbo.store.records = ∅) (hpending : limbo.store.pending = {})
    (hindex : limbo.index = {}) (hcalls : ∀ call ∈ calls, call.Fits Sidecar.Encodable) :
    FollowsMap limbo calls := by
  have hlive : ∀ id, live limbo.store id = none := by
    intro id
    rw [MemoryStore.live_eq, hrecords, ExtTreeMap.getElem?_empty]
  have hsound : Sound limbo.store := by
    intro id hmem
    simp [hrecords] at hmem
  have haccounted : Accounted limbo.index (live limbo.store) [] := by
    rw [hindex]
    exact Accounted.empty hlive
  have hsize : limbo.index.size = 0 := by
    rw [hindex]
    rfl
  exact followsMap_of_holds (.of_size_eq_zero hsound hpending haccounted hsize)
    (fun _ _ => MemoryStore.accommodates _) hcalls

/-- On disk there is room for sidecars of no more blobs than the limbo was opened for, while slots
can be numbered. -/
theorem accommodates_run {config : LimboConfig} {ledger : Metrics.Ledger} {disk : Disk}
    {limbo : Limbo ShelfStore} {calls : List Call} (hslots : NumberableAt config disk)
    (hopen : (openOnDisk config ledger disk).value = .ok limbo)
    (hnumbers : ∀ earlier, earlier <+: calls →
      ∀ shelf ∈ (limbo.run earlier).state.store.shelves, shelf.slots < 2 ^ 32) :
    ∀ earlier, earlier <+: calls →
      Accommodates (Sidecar.OfAtMost config.maxBlobsPerTx.toNat)
        (limbo.run earlier).state.store := by
  intro earlier hearlier
  obtain ⟨sizes, hsizes, hkept, -⟩ := openOnDisk_run hslots hopen earlier
  exact hkept.accommodates hsizes (hnumbers earlier hearlier)

/-- On disk, while slots can be numbered. -/
theorem followsMap_disk {config : LimboConfig} {ledger : Metrics.Ledger} {disk : Disk}
    {limbo : Limbo ShelfStore} {calls : List Call} (hslots : NumberableAt config disk)
    (hopen : (openOnDisk config ledger disk).value = .ok limbo) (hsize : limbo.size = 0)
    (hnumbers : ∀ earlier, earlier <+: calls →
      ∀ shelf ∈ (limbo.run earlier).state.store.shelves, shelf.slots < 2 ^ 32)
    (hcalls : ∀ call ∈ calls, call.Fits (Sidecar.OfAtMost config.maxBlobsPerTx.toNat)) :
    FollowsMap limbo calls := by
  obtain ⟨sizes, -, hopenAt, haccounted⟩ := openOnDisk_spec hslots hopen
  exact followsMap_of_holds (.of_size_eq_zero hopenAt.intact trivial haccounted hsize)
    (accommodates_run hslots hopen hnumbers) hcalls

/-- A call takes one new slot at most, so a short run does not use up the slot numbers. -/
theorem slots_lt_of_run {config : LimboConfig} {ledger : Metrics.Ledger} {disk : Disk}
    {limbo : Limbo ShelfStore} {calls : List Call} {slots : Nat}
    (hslots : NumberableAt config disk)
    (hopen : (openOnDisk config ledger disk).value = .ok limbo)
    (hwithin : ShelfStore.SlotsWithin slots limbo.store)
    (hshort : slots + calls.length < 2 ^ 32) :
    ∀ earlier, earlier <+: calls →
      ∀ shelf ∈ (limbo.run earlier).state.store.shelves, shelf.slots < 2 ^ 32 := by
  obtain ⟨sizes, -, hopenAt, -⟩ := openOnDisk_spec hslots hopen
  intro earlier hearlier shelf hmem
  have hkept := (ShelfStore.upkeep_openAt config.datadir sizes).run ⟨hopenAt, hwithin⟩ earlier
  have hle := hkept.2 shelf hmem
  have hlength := hearlier.length_le
  omega

/-- **A limbo is a finite map.** A limbo that starts empty follows the map of its transactions
through every run: over a store in memory that is not told to fail, with any sidecars that can be
written; and on disk, with sidecars of no more blobs than the limbo was opened for, while no shelf
has used up its slot numbers. -/
theorem run_followsMap :
    (∀ (limbo : Limbo MemoryStore) (calls : List Call), limbo.store.records = ∅ →
      limbo.store.pending = {} → limbo.index = {} →
      (∀ call ∈ calls, call.Fits Sidecar.Encodable) → FollowsMap limbo calls) ∧
    ∀ (config : LimboConfig) (ledger : Metrics.Ledger) (disk : Disk) (limbo : Limbo ShelfStore)
      (calls : List Call), NumberableAt config disk →
      (openOnDisk config ledger disk).value = .ok limbo → limbo.size = 0 →
      (∀ earlier, earlier <+: calls →
        ∀ shelf ∈ (limbo.run earlier).state.store.shelves, shelf.slots < 2 ^ 32) →
      (∀ call ∈ calls, call.Fits (Sidecar.OfAtMost config.maxBlobsPerTx.toNat)) →
      FollowsMap limbo calls :=
  ⟨fun _ _ hrecords hpending hindex hcalls => followsMap_memory hrecords hpending hindex hcalls,
    fun _ _ _ _ _ hslots hopen hsize hnumbers hcalls =>
      followsMap_disk hslots hopen hsize hnumbers hcalls⟩

/-- A transaction is pushed, moved and pulled, in memory and on disk. -/
theorem run_followsMap_pushed :
    let calls : List Call := [.push (.replicate 32 7) 5 ⟨[], [], []⟩, .update (.replicate 32 7) 6,
      .pull (.replicate 32 7)]
    FollowsMap ({ store := .empty } : Limbo MemoryStore) calls ∧
      ∃ limbo, (openOnDisk { maxBlobsPerTx := 1 } {} tornDisk).value = .ok limbo ∧
        FollowsMap limbo calls := by
  intro calls
  have hempty : (⟨[], [], []⟩ : Sidecar).OfAtMost 1 := ⟨Nat.zero_le 1, rfl, rfl⟩
  have hinMemory : ∀ call ∈ calls, call.Fits Sidecar.Encodable := by
    simp [calls, Call.Fits, hempty.encodable (by decide)]
  have honDisk : ∀ call ∈ calls, call.Fits (Sidecar.OfAtMost 1) := by
    simp [calls, Call.Fits, hempty]
  obtain ⟨limbo, hopen, hsize, hwithin⟩ := openOnDisk_tornDisk
  have hnumbers := slots_lt_of_run numberableAt_tornDisk hopen hwithin
    (by decide : 0 + calls.length < 2 ^ 32)
  exact ⟨run_followsMap.1 _ calls rfl rfl rfl hinMemory, limbo, hopen,
    run_followsMap.2 _ {} tornDisk limbo calls numberableAt_tornDisk hopen hsize hnumbers honDisk⟩

end Limbo

end BlobLimbo
