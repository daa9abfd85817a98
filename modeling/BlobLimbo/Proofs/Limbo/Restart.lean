import BlobLimbo.Limbo.Open
import BlobLimbo.Proofs.Limbo.Refinement
import BlobLimbo.Proofs.Store.Opening

/-!
# Restarting a limbo on disk

A limbo that is opened on disk, whatever its files held, tracks every record of its store. So after
any run its directory can be opened again: the same index comes back, every transaction keeps its
sidecar, no record is dropped, and no file changes (`openOnDisk_restores`).
-/

namespace BlobLimbo

open Std LawfulStore

namespace ShelfStore

/-- Every entry that fits a slot can be read back. -/
theorem readable : Limbo.Readable ShelfStore fun _ => True := by
  intro store owner block sidecar id _ _ hput
  rcases put_cases store (Entry.encode ⟨owner, block, sidecar⟩) with
    ⟨error, hfailed⟩ | ⟨shelf, slot, next, content, -, hshelf, -, -⟩
  · change (ShelfStore.put _ store).value = .ok id at hput
    simp [hfailed] at hput
  · have hlength := length_le_capacity hshelf
    have hcapacity : shelf.capacity = shelf.slotSize.toNat - slotHeaderSize := rfl
    have hbound : shelf.slotSize.toNat < 2 ^ 32 := shelf.slotSize.toNat_lt
    omega

end ShelfStore

namespace Limbo

open ShelfStore

variable {config config' : LimboConfig} {ledger ledger' : Metrics.Ledger} {disk : Disk}
  {limbo : Limbo ShelfStore} {sizes : List UInt32}

/-- The shelf files a limbo finds hold no more slots than can be numbered. -/
def NumberableAt (config : LimboConfig) (disk : Disk) : Prop :=
  ∀ sizes, Layout.slotSizes config.maxBlobsPerTx = .ok sizes →
    Numberable config.datadir sizes disk

/-- A limbo is opened when its store is opened and recovered. -/
theorem openOnDisk_eq_ok (hopen : (openOnDisk config ledger disk).value = .ok limbo) :
    ∃ sizes store, Layout.slotSizes config.maxBlobsPerTx = .ok sizes ∧
      (ShelfStore.open config.datadir sizes { disk }).value = .ok store ∧
      (recover store
        (ShelfStore.open config.datadir sizes { disk }).state.records).value = .ok () ∧
      limbo.store = (recover store
        (ShelfStore.open config.datadir sizes { disk }).state.records).state.store ∧
      limbo.index = (recover store
        (ShelfStore.open config.datadir sizes { disk }).state.records).state.index := by
  unfold openOnDisk at hopen
  cases hsizes : Layout.slotSizes config.maxBlobsPerTx with
  | error error => simp [hsizes] at hopen
  | ok sizes =>
    simp only [hsizes] at hopen
    cases hstore : (ShelfStore.open config.datadir sizes { disk }).value with
    | error cause => simp [hstore] at hopen
    | ok store =>
      simp only [hstore] at hopen
      cases hrecover : (recover store
          (ShelfStore.open config.datadir sizes { disk }).state.records).value with
      | error cause => simp [hrecover, Except.map] at hopen
      | ok value =>
        rw [hrecover] at hopen
        obtain rfl := Except.ok.inj hopen
        refine ⟨sizes, store, rfl, hstore, hrecover, ?_, ?_⟩
        · split <;> rfl
        · split <;> rfl

/-- A limbo on disk is in order when it is opened. -/
theorem openOnDisk_spec (hslots : NumberableAt config disk)
    (hopen : (openOnDisk config ledger disk).value = .ok limbo) :
    ∃ sizes, Layout.slotSizes config.maxBlobsPerTx = .ok sizes ∧
      OpenAt config.datadir sizes limbo.store ∧
      Accounted limbo.index (live limbo.store) [] := by
  obtain ⟨sizes, store, hsizes, hstore, hrecover, hlimbo, hindex⟩ := openOnDisk_eq_ok hopen
  obtain ⟨hopenAt, hlists⟩ := open_spec (hslots sizes hsizes) hstore
  obtain ⟨-, haccounted, -⟩ := recover_accounted hopenAt.intact hlists hrecover
  have hkept := (upkeep_openAt config.datadir sizes).deleteAll
    (indexRecords {} (ShelfStore.open config.datadir sizes { disk }).state.records).value store
    ⟨hopenAt, hopenAt.intact.slotsWithin⟩
  rw [hlimbo, hindex]
  refine ⟨sizes, hsizes, ?_, haccounted⟩
  rw [(recover_of_ok hrecover).2]
  exact hkept.1

/-- A limbo that was opened on disk is in order after every run. -/
theorem openOnDisk_run (hslots : NumberableAt config disk)
    (hopen : (openOnDisk config ledger disk).value = .ok limbo) (calls : List Call) :
    ∃ sizes, Layout.slotSizes config.maxBlobsPerTx = .ok sizes ∧
      OpenAt config.datadir sizes (limbo.run calls).state.store ∧
      Accounted (limbo.run calls).state.index (live (limbo.run calls).state.store) [] := by
  obtain ⟨sizes, hsizes, hopenAt, haccounted⟩ := openOnDisk_spec hslots hopen
  have horder : InOrder (fun _ => True) limbo.store limbo.index :=
    ⟨hopenAt.intact, haccounted, fun _ _ _ => trivial⟩
  have hfits : ∀ call ∈ calls, call.Fits fun _ => True := by
    intro call _
    cases call <;> trivial
  have hkept := (upkeep_openAt config.datadir sizes).run ⟨hopenAt, hopenAt.intact.slotsWithin⟩ calls
  exact ⟨sizes, hsizes, hkept.1, (horder.run readable hfits).accounted⟩

/-- A limbo whose index accounts for an intact store is found again, and nothing changes on the
disk. -/
theorem openOnDisk_of_accounted (hsizes : Layout.slotSizes config.maxBlobsPerTx = .ok sizes)
    (hopenAt : OpenAt config.datadir sizes limbo.store)
    (haccounted : Accounted limbo.index (live limbo.store) []) (ledger : Metrics.Ledger) :
    ∃ after count, openOnDisk config ledger limbo.disk =
        { value := .ok after
          state := limbo.disk
          events := [.store (.opened config.datadir sizes.length count),
            .limbo (.indexed limbo.size 0)] } ∧
      after.store = limbo.store ∧ after.index = limbo.index := by
  obtain ⟨records, hlists, hopen⟩ := open_of_intact hopenAt.intact
  rw [hopenAt.path_eq, hopenAt.sizes_eq] at hopen
  have hrecover := recover_of_accounted hlists haccounted
  have hcount : limbo.store.shelves.length = sizes.length := by
    rw [← hopenAt.sizes_eq, slotSizes, List.length_map]
  refine ⟨if config.metricsEnabled then
      withMetrics ledger { store := limbo.store, index := limbo.index }
    else { store := limbo.store, index := limbo.index }, records.length, ?_, ?_, ?_⟩
  · unfold openOnDisk disk
    simp only [hsizes, hopen, hrecover, hcount]
    rfl
  · split <;> rfl
  · split <;> rfl

/-- How the use of a limbo ends: it is closed, or its handle is dropped. -/
inductive Ending where
  | close
  | drop

/-- What is left when the use of a limbo ends. -/
def finish (limbo : Limbo ShelfStore) : Ending → Limbo ShelfStore
  | .close => (close limbo).state
  | .drop => limbo

/-- Ending the use of a limbo leaves its disk as it is. -/
theorem disk_finish (limbo : Limbo ShelfStore) (ending : Ending) :
    (limbo.finish ending).disk = limbo.disk := by
  cases ending <;> rfl

/-- A limbo holds what another one held: the same store, the same index, and for every tracked
transaction the same sidecar. -/
structure Restores (before after : Limbo ShelfStore) : Prop where
  store : after.store = before.store
  index : after.index = before.index
  sidecar : ∀ tx, before.contains tx = true → ∃ sidecar, (pull tx before).value = .ok sidecar ∧
    (pull tx after).value = .ok sidecar

/-- **Restarting.** Take any disk on which a limbo can be opened, whatever bytes its shelf files
hold, and let the limbo go through any calls. Opening it again in the same directory for the same
number of blobs succeeds, drops nothing, leaves the disk as it is, and gives a limbo that holds what
the first one held. -/
theorem openOnDisk_restores (hslots : NumberableAt config disk)
    (hopen : (openOnDisk config ledger disk).value = .ok limbo) (calls : List Call)
    (ending : Ending) (hdatadir : config'.datadir = config.datadir)
    (hblobs : config'.maxBlobsPerTx = config.maxBlobsPerTx) (ledger' : Metrics.Ledger) :
    let before := (limbo.run calls).state
    ∃ after shelves records, openOnDisk config' ledger' (before.finish ending).disk =
        { value := .ok after
          state := (before.finish ending).disk
          events := [.store (.opened config.datadir shelves records),
            .limbo (.indexed before.size 0)] } ∧
      Restores before after := by
  intro before
  obtain ⟨sizes, hsizes, hopenAt, haccounted⟩ := openOnDisk_run hslots hopen calls
  rw [← hblobs] at hsizes
  rw [← hdatadir] at hopenAt
  obtain ⟨after, records, hagain, hstore, hindex⟩ :=
    openOnDisk_of_accounted hsizes hopenAt haccounted ledger'
  refine ⟨after, sizes.length, records, ?_, hstore, hindex, fun tx hcontains => ?_⟩
  · rw [disk_finish, ← hdatadir]
    exact hagain
  · rw [contains, Index.contains, ExtTreeMap.contains_iff_mem, ExtTreeMap.mem_iff_isSome_getElem?,
      Option.isSome_iff_exists] at hcontains
    obtain ⟨id, hslot⟩ := hcontains
    obtain ⟨block, sidecar, -, hentry⟩ := haccounted.slot_of_owner hslot
    refine ⟨sidecar, pull_of_calm hopenAt.intact trivial hslot hentry, ?_⟩
    rw [← hstore] at hentry
    rw [← hindex] at hslot
    exact pull_of_calm (hstore ▸ hopenAt.intact) trivial hslot hentry

/-- For one blob there is one slot size. -/
theorem eq_of_slotSizes_one (hsizes : Layout.slotSizes 1 = .ok sizes) : sizes = [132198] := by
  have hlayout : Layout.slotSizes 1 = .ok [132198] := by decide +kernel
  exact Except.ok.inj (hsizes.symm.trans hlayout)

/-- A disk with a shelf file that breaks off in its first slot. -/
def tornDisk : Disk :=
  (({} : Disk).addDirectory ["limbo"]).addFile ["limbo", "shelf-00132198.dat"] [0, 0, 0, 9, 7]

theorem numberableAt_tornDisk : NumberableAt { maxBlobsPerTx := 1 } tornDisk := by
  intro sizes hsizes slotSize hmem content hcontent
  obtain rfl := eq_of_slotSizes_one hsizes
  obtain rfl := List.mem_singleton.mp hmem
  have hfile : tornDisk.content? (Path.place (shelfPath "limbo" 132198)) =
      some [0, 0, 0, 9, 7] := by decide +kernel
  obtain rfl := Option.some.inj (hfile.symm.trans hcontent)
  decide

/-- The torn slot is cut off, and nothing is left. -/
theorem openOnDisk_tornDisk : ∃ limbo,
    (openOnDisk { maxBlobsPerTx := 1 } {} tornDisk).value = .ok limbo ∧ limbo.size = 0 ∧
      SlotsWithin 0 limbo.store := by
  have hempty : (match (openOnDisk { maxBlobsPerTx := 1 } {} tornDisk).value with
      | .ok limbo => decide (limbo.size = 0) &&
          limbo.store.shelves.all fun shelf => decide (shelf.slots ≤ 0)
      | .error _ => false) = true := by decide +kernel
  cases hopen : (openOnDisk { maxBlobsPerTx := 1 } {} tornDisk).value with
  | error error => simp [hopen] at hempty
  | ok limbo =>
    simp only [hopen, Bool.and_eq_true, List.all_eq_true, decide_eq_true_iff] at hempty
    exact ⟨limbo, rfl, hempty.1, hempty.2⟩

/-- A limbo that cut off a torn slot is found again after a run. -/
theorem openOnDisk_restores_tornDisk :
    let config : LimboConfig := { maxBlobsPerTx := 1 }
    let calls : List Call := [.push (.replicate 32 7) 5 ⟨[], [], []⟩, .update (.replicate 32 7) 6]
    ∃ limbo, (openOnDisk config {} tornDisk).value = .ok limbo ∧
      ∃ after shelves records, openOnDisk config {} ((limbo.run calls).state.finish .close).disk =
          { value := .ok after
            state := ((limbo.run calls).state.finish .close).disk
            events := [.store (.opened "limbo" shelves records),
              .limbo (.indexed (limbo.run calls).state.size 0)] } ∧
        Restores (limbo.run calls).state after := by
  intro config calls
  obtain ⟨limbo, hopen, -⟩ := openOnDisk_tornDisk
  exact ⟨limbo, hopen, openOnDisk_restores numberableAt_tornDisk hopen calls .close rfl rfl {}⟩

end Limbo

end BlobLimbo
