import BlobLimbo.Proofs.Limbo.Rehoming
import BlobLimbo.Proofs.Store.Resizing

/-!
# Changing the number of blobs

A directory that a limbo has filled can be opened for another number of blobs per transaction. For
more blobs the same is tracked. For fewer blobs the entries on the shelves that are left are
tracked, and the files of the other shelves are not touched, so that these entries come back with
the number of blobs they were stored for (`openOnDisk_resizes`).
-/

namespace BlobLimbo.Limbo

open Std LawfulStore ShelfStore

variable {config config' : LimboConfig} {ledger : Metrics.Ledger} {disk : Disk}
  {limbo before after : Limbo ShelfStore} {sizes : List UInt32} {shelves : Nat}

/-- No shelf file stands in a directory, whatever its slot size. -/
def NoShelfFiles (path : String) (disk : Disk) : Prop :=
  ∀ slotSize, disk.content? (Path.place (shelfPath path slotSize)) = none

/-- Where no shelf file stands, no slots have to be numbered. -/
theorem NoShelfFiles.numberableAt (h : NoShelfFiles config.datadir disk) :
    NumberableAt config disk := by
  intro sizes _ slotSize _ content hcontent
  simp [h slotSize] at hcontent

/-- A limbo tracks what another one tracks on its first shelves, in the same slots, under the same
blocks and with the same sidecars, and nothing else. -/
structure TracksBelow (shelves : Nat) (before after : Limbo ShelfStore) : Prop where
  slotOf_iff : ∀ tx id, after.index.slotOf tx = some id ↔
    before.index.slotOf tx = some id ∧ shelfOf id < shelves
  slot_iff : ∀ id tracked, after.index.slot id = some tracked ↔
    before.index.slot id = some tracked ∧ shelfOf id < shelves
  sidecar : ∀ tx, after.contains tx = true → ∃ sidecar, (pull tx before).value = .ok sidecar ∧
    (pull tx after).value = .ok sidecar

/-- A limbo has the records that another one has on its first shelves. -/
structure KeepsBelow (shelves : Nat) (before after : Limbo ShelfStore) : Prop where
  sound : Sound after.store
  accounted : Accounted after.index (live after.store) []
  live_eq : ∀ id, live after.store id =
    if shelfOf id < shelves then live before.store id else none

/-- A transaction whose record two limbos have in the same slot has the same sidecar in both. -/
theorem exists_pull_of_live (hsound : Sound before.store)
    (hbefore : Accounted before.index (live before.store) []) (hsound' : Sound after.store)
    {tx : TxHash} {id : SlotId} (hslot : before.index.slotOf tx = some id)
    (hslot' : after.index.slotOf tx = some id)
    (hlive : live after.store id = live before.store id) :
    ∃ sidecar, (pull tx before).value = .ok sidecar ∧ (pull tx after).value = .ok sidecar := by
  obtain ⟨block, sidecar, -, hentry⟩ := hbefore.slot_of_owner hslot
  exact ⟨sidecar, pull_of_calm hsound trivial hslot hentry,
    pull_of_calm hsound' trivial hslot' (hentry.congr hlive)⟩

/-- What has the records on the first shelves tracks what was tracked there. -/
theorem KeepsBelow.tracks (h : KeepsBelow shelves before after) (hsound : Sound before.store)
    (hbefore : Accounted before.index (live before.store) []) :
    TracksBelow shelves before after := by
  have hentry : ∀ id entry, EntryAt (live after.store) id entry ↔
      EntryAt (live before.store) id entry ∧ shelfOf id < shelves := by
    intro id entry
    rw [EntryAt, EntryAt, h.live_eq]
    split
    · rename_i hshelf
      exact (and_iff_left hshelf).symm
    · rename_i hshelf
      simp [hshelf]
  have hslot : ∀ id tracked, after.index.slots[id]? = some tracked ↔
      before.index.slots[id]? = some tracked ∧ shelfOf id < shelves := by
    intro id tracked
    simp only [h.accounted.slot_iff, hbefore.slot_iff, hentry, exists_and_right]
  have hslotOf : ∀ tx id, after.index.slotOf tx = some id ↔
      before.index.slotOf tx = some id ∧ shelfOf id < shelves := by
    intro tx id
    rw [Index.slotOf, Index.slotOf, h.accounted.consistent.owner_iff,
      hbefore.consistent.owner_iff]
    simp only [hslot, exists_and_right]
  refine ⟨hslotOf, hslot, fun tx hcontains => ?_⟩
  obtain ⟨id, block, sidecar, hheld⟩ := exists_heldIn h.accounted hcontains
  obtain ⟨hslot, hshelf⟩ := (hslotOf tx id).mp hheld.slot
  refine exists_pull_of_live hsound hbefore h.sound hslot hheld.slot ?_
  rw [h.live_eq, if_pos hshelf]

/-- What has all the records has the same index. -/
theorem KeepsBelow.index_eq (h : KeepsBelow shelves before after)
    (hbefore : Accounted before.index (live before.store) [])
    (hshelf : ∀ id, live before.store id ≠ none → shelfOf id < shelves) :
    after.index = before.index := by
  have hsame : live after.store = live before.store := by
    funext id
    rw [h.live_eq, ite_eq_left_iff]
    intro hbehind
    by_contra hrecord
    exact hbehind (hshelf id (Ne.symm hrecord))
  exact hbefore.index_eq (hsame ▸ h.accounted)

/-- The records of a limbo are on the shelves it was opened for. -/
theorem shelfOf_lt_of_live (hsizes : Layout.slotSizes config.maxBlobsPerTx = .ok sizes)
    (hopenAt : OpenAt config.datadir sizes before.store) {id : SlotId}
    (hlive : live before.store id ≠ none) : shelfOf id < config.maxBlobsPerTx.toNat := by
  have hlt := hopenAt.shelfOf_lt hlive
  rwa [Layout.length_slotSizes hsizes] at hlt

/-- What a limbo for fewer blobs leaves alone: the files of the larger slots, and so all that the
limbo for more blobs had tracked. -/
structure LeavesLarger (config : LimboConfig) (maxBlobs : UInt32)
    (before after : Limbo ShelfStore) : Prop where
  /-- After any calls the files of the slots for more blobs are, byte by byte, as they were. -/
  files : ∀ (calls : List Call) (blobs : Nat), maxBlobs.toNat < blobs →
    blobs ≤ config.maxBlobsPerTx.toNat →
      (after.run calls).state.disk.content?
          (Path.place (shelfPath config.datadir (Layout.slotSize blobs))) =
        before.disk.content? (Path.place (shelfPath config.datadir (Layout.slotSize blobs)))
  /-- When it is not called, everything is back once the limbo for more blobs is opened again. -/
  restored : ∀ (ending : Ending) (ledger : Metrics.Ledger), ∃ again,
    (openOnDisk config ledger (after.finish ending).disk).value = .ok again ∧
      Restores before again

/-- A limbo that is opened on disk touches no file but those of its shelves, in any run. -/
theorem spares_run (hslots : NumberableAt config disk)
    (hopen : (openOnDisk config ledger disk).value = .ok limbo)
    (hsizes : Layout.slotSizes config.maxBlobsPerTx = .ok sizes) (calls : List Call) :
    Spares config.datadir sizes (disk.makeDirectories config.datadir).1
      (limbo.run calls).state.disk := by
  obtain ⟨sizes', store, hsizes', hstore, hrecover, hlimbo, -⟩ := openOnDisk_eq_ok hopen
  obtain rfl := Except.ok.inj (hsizes.symm.trans hsizes')
  have hupkeep := upkeep_spares config.datadir sizes (disk.makeDirectories config.datadir).1
  have hopened : OpenAt config.datadir sizes limbo.store ∧
      Spares config.datadir sizes (disk.makeDirectories config.datadir).1 limbo.store.disk := by
    rw [hlimbo, (recover_of_ok hrecover).2]
    exact hupkeep.deleteAll (n := 0) _ store
      ⟨(open_spec (hslots sizes hsizes) hstore).1, spares_open (hslots sizes hsizes) hstore⟩
  exact (hupkeep.run (n := 0) hopened calls).2

/-- Where no shelf file stood, there are only those of the shelves after a run. -/
theorem NoShelfFiles.of_spares {later : Disk} (h : NoShelfFiles config.datadir disk)
    (hspares : Spares config.datadir sizes (disk.makeDirectories config.datadir).1 later)
    (slotSize : UInt32) (hother : slotSize ∉ sizes) :
    later.content? (Path.place (shelfPath config.datadir slotSize)) = none := by
  rw [hspares.keepsOthers _ fun own hown hplace => hother ?_, h slotSize]
  rwa [Path.place_shelfFile_injective config.datadir hplace]

/-- What could be opened before a run can be opened after it. -/
theorem OpenableAt.of_spares (h : OpenableAt config' disk)
    (hdatadir : config'.datadir = config.datadir)
    (hopenAt : OpenAt config.datadir sizes before.store)
    (hspares : Spares config.datadir sizes (disk.makeDirectories config.datadir).1 before.disk) :
    OpenableAt config' before.disk := by
  intro sizes' hsizes'
  have hinitially := h sizes' hsizes'
  rw [hdatadir] at hinitially ⊢
  exact hinitially.of_spares hopenAt hspares

/-- For no more blobs than before, a limbo is opened on the first shelves, and nothing changes on
the disk. -/
theorem openOnDisk_of_le (hsizes : Layout.slotSizes config.maxBlobsPerTx = .ok sizes)
    (hopenAt : OpenAt config.datadir sizes before.store)
    (hbefore : Accounted before.index (live before.store) [])
    (hdatadir : config'.datadir = config.datadir) (hpos : 0 < config'.maxBlobsPerTx)
    (hle : config'.maxBlobsPerTx ≤ config.maxBlobsPerTx)
    (hlimit : config'.maxBlobsPerTx ≤ Layout.maxBlobsLimit) (ledger : Metrics.Ledger) :
    ∃ after, (openOnDisk config' ledger before.disk).value = .ok after ∧
      (openOnDisk config' ledger before.disk).state = before.disk ∧
      after.store = before.store.firstShelves config'.maxBlobsPerTx.toNat ∧
      OpenAt config.datadir (sizes.take config'.maxBlobsPerTx.toNat) after.store ∧
      Accounted after.index (live after.store) [] := by
  obtain ⟨sizes', hsizes', -⟩ := Layout.exists_slotSizes hpos hlimit
  have hfirst := Layout.take_slotSizes hsizes hsizes' hle
  rw [UInt32.lt_iff_toNat_lt] at hpos
  have hopenAt' := hopenAt.firstShelves hpos
  have hkept : ∀ id, live (before.store.firstShelves config'.maxBlobsPerTx.toNat) id = none ∨
      live (before.store.firstShelves config'.maxBlobsPerTx.toNat) id = live before.store id := by
    intro id
    change record? _ id = none ∨ record? _ id = record? _ id
    rw [record?_firstShelves]
    split
    · exact Or.inr rfl
    · exact Or.inl rfl
  obtain ⟨index, haccounted, -⟩ := hbefore.restrict hkept
  obtain ⟨below, hstore, hindex⟩ : ∃ below : Limbo ShelfStore,
      below.store = before.store.firstShelves config'.maxBlobsPerTx.toNat ∧ below.index = index :=
    ⟨⟨_, index, none⟩, rfl, rfl⟩
  have hdisk : below.disk = before.disk := by
    rw [Limbo.disk, hstore]
    rfl
  rw [← hstore, ← hindex] at haccounted
  rw [← hstore] at hopenAt'
  rw [← hfirst] at hopenAt' ⊢
  obtain ⟨after, count, hagain, hstore', hindex'⟩ :=
    openOnDisk_of_accounted hsizes' (hdatadir ▸ hopenAt') haccounted ledger
  rw [hdisk] at hagain
  refine ⟨after, by rw [hagain], by rw [hagain], hstore'.trans hstore, ?_, ?_⟩
  · rwa [hstore']
  · rwa [hstore', hindex']

/-- What a limbo for fewer blobs leaves alone comes back. -/
theorem leavesLarger_of_lt (hsizes : Layout.slotSizes config.maxBlobsPerTx = .ok sizes)
    (hopenAt : OpenAt config.datadir sizes before.store)
    (hbefore : Accounted before.index (live before.store) []) {maxBlobs : UInt32}
    (hopenAt' : OpenAt config.datadir (sizes.take maxBlobs.toNat) after.store)
    (hdisk : after.disk = before.disk) : LeavesLarger config maxBlobs before after where
  files calls blobs hmore hblobs := by
    have hspares := ((upkeep_spares config.datadir (sizes.take maxBlobs.toNat) after.disk).run
      (n := 0) ⟨hopenAt', .refl _ _ _⟩ calls).2
    rw [← hdisk]
    refine Disk.content?_congr (hspares.node?_eq _ fun slotSize hmem hplace => ?_)
    -- the slots for more blobs stand behind those that the limbo has
    obtain ⟨blobs, rfl⟩ : ∃ n, blobs = n + 1 := ⟨blobs - 1, by omega⟩
    have hsize := Layout.getElem?_slotSizes hsizes (Nat.lt_of_succ_le hblobs)
    have hlayout := hopenAt.intact.layout
    rw [hopenAt.sizes_eq] at hlayout
    refine not_mem_take hlayout hsize (Nat.le_of_lt_succ hmore) ?_
    rwa [Path.place_shelfFile_injective config.datadir hplace]
  restored ending ledger := by
    obtain ⟨again, count, hagain, hstore, hindex⟩ :=
      openOnDisk_of_accounted hsizes hopenAt hbefore ledger
    refine ⟨again, by rw [disk_finish, hdisk, hagain], hstore, hindex, fun tx hcontains => ?_⟩
    obtain ⟨id, block, sidecar, hheld⟩ := exists_heldIn hbefore hcontains
    refine exists_pull_of_live hopenAt.intact hbefore (hstore ▸ hopenAt.intact) hheld.slot ?_ ?_
    · rw [hindex, hheld.slot]
    · rw [hstore]

/-- For more blobs than before, a limbo is opened wherever the system lets it be, and keeps every
record. -/
theorem openOnDisk_of_lt (hsizes : Layout.slotSizes config.maxBlobsPerTx = .ok sizes)
    (hopenAt : OpenAt config.datadir sizes before.store)
    (hbefore : Accounted before.index (live before.store) [])
    (hmissing : ∀ slotSize ∉ sizes,
      before.disk.content? (Path.place (shelfPath config.datadir slotSize)) = none)
    (hdatadir : config'.datadir = config.datadir)
    (hlt : config.maxBlobsPerTx < config'.maxBlobsPerTx)
    (hlimit : config'.maxBlobsPerTx ≤ Layout.maxBlobsLimit)
    (hopenable : OpenableAt config' before.disk) (ledger : Metrics.Ledger) :
    ∃ after, (openOnDisk config' ledger before.disk).value = .ok after ∧
      (openOnDisk config' ledger before.disk).state = after.disk ∧
      KeepsBelow config'.maxBlobsPerTx.toNat before after := by
  have hslots : NumberableAt config' before.disk := by
    intro sizes' _
    rw [hdatadir]
    exact hopenAt.numberable_of_missing hmissing
  have hpos : 0 < config'.maxBlobsPerTx := UInt32.lt_of_le_of_lt (UInt32.zero_le) hlt
  obtain ⟨after, sizes', hsizes', hopen, hstate, hkeeps, -⟩ :=
    exists_openOnDisk hpos hlimit hslots hopenable ledger
  obtain ⟨sizes'', hsizes'', hopenAt', hafter⟩ := openOnDisk_spec hslots hopen
  obtain rfl := Except.ok.inj (hsizes'.symm.trans hsizes'')
  have hlayout := hopenAt'.intact.layout
  rw [hopenAt'.sizes_eq] at hlayout
  have hfirst := Layout.take_slotSizes hsizes' hsizes (UInt32.le_of_lt hlt)
  have hpayloads : payloads config'.datadir sizes' before.disk = live before.store := by
    rw [hdatadir]
    exact hopenAt.payloads_of_missing hmissing hfirst hlayout
  rw [hpayloads] at hkeeps
  refine ⟨after, hopen, hstate, hopenAt'.intact, hafter, fun id => ?_⟩
  rw [hkeeps.eq_of_accounted hbefore, eq_comm, ite_eq_left_iff]
  intro hbehind
  by_contra hrecord
  have hshelf := shelfOf_lt_of_live hsizes hopenAt (Ne.symm hrecord)
  exact hbehind (Nat.lt_trans hshelf (UInt32.lt_iff_toNat_lt.mp hlt))

/-- **Changing the number of blobs.** Let a limbo start in a directory without shelf files and go
through any calls. Opening the directory for any other number of blobs within the limit succeeds, as
long as the system lets the files for more blobs be opened, and tracks what was tracked on the
shelves it has. For at least as many blobs that is everything. For fewer blobs the files of the
larger slots stay as they are through any calls, and without a call everything is back once the
directory is opened for the first number of blobs again. -/
theorem openOnDisk_resizes (hmissing : NoShelfFiles config.datadir disk)
    (hopen : (openOnDisk config ledger disk).value = .ok limbo) (calls : List Call)
    (ending : Ending) (hdatadir : config'.datadir = config.datadir)
    (hpos : 0 < config'.maxBlobsPerTx) (hlimit : config'.maxBlobsPerTx ≤ Layout.maxBlobsLimit)
    (hopenable : config.maxBlobsPerTx < config'.maxBlobsPerTx → OpenableAt config' disk)
    (ledger' : Metrics.Ledger) :
    let before := (limbo.run calls).state
    ∃ after, (openOnDisk config' ledger' (before.finish ending).disk).value = .ok after ∧
      (openOnDisk config' ledger' (before.finish ending).disk).state = after.disk ∧
      TracksBelow config'.maxBlobsPerTx.toNat before after ∧
      (config.maxBlobsPerTx ≤ config'.maxBlobsPerTx → after.index = before.index) ∧
      (config'.maxBlobsPerTx < config.maxBlobsPerTx →
        LeavesLarger config config'.maxBlobsPerTx before after) := by
  intro before
  obtain ⟨sizes, hsizes, hopenAt, hbefore⟩ := openOnDisk_run hmissing.numberableAt hopen calls
  have hspares := spares_run hmissing.numberableAt hopen hsizes calls
  rw [disk_finish]
  -- both ways of opening end in the records on the shelves there are
  suffices hopened : ∃ after, (openOnDisk config' ledger' before.disk).value = .ok after ∧
      (openOnDisk config' ledger' before.disk).state = after.disk ∧
      KeepsBelow config'.maxBlobsPerTx.toNat before after ∧
      (config'.maxBlobsPerTx < config.maxBlobsPerTx →
        LeavesLarger config config'.maxBlobsPerTx before after) by
    obtain ⟨after, hagain, hstate, hkeeps, hlarger⟩ := hopened
    refine ⟨after, hagain, hstate, hkeeps.tracks hopenAt.intact hbefore, fun hle => ?_, hlarger⟩
    refine hkeeps.index_eq hbefore fun id hrecord => ?_
    have hshelf := shelfOf_lt_of_live hsizes hopenAt hrecord
    exact Nat.lt_of_lt_of_le hshelf (UInt32.le_iff_toNat_le.mp hle)
  rcases UInt32.lt_or_le config.maxBlobsPerTx config'.maxBlobsPerTx with hmore | hle
  · obtain ⟨after, hagain, hstate, hkeeps⟩ := openOnDisk_of_lt hsizes hopenAt hbefore
      (hmissing.of_spares hspares) hdatadir hmore hlimit
      ((hopenable hmore).of_spares hdatadir hopenAt hspares) ledger'
    exact ⟨after, hagain, hstate, hkeeps, fun hfewer => absurd hmore (UInt32.lt_asymm hfewer)⟩
  · obtain ⟨after, hagain, hstate, hstore, hopenAt', hafter⟩ :=
      openOnDisk_of_le hsizes hopenAt hbefore hdatadir hpos hle hlimit ledger'
    have hdisk : after.disk = before.disk := by
      rw [Limbo.disk, hstore]
      rfl
    refine ⟨after, hagain, hstate.trans hdisk.symm, ⟨hopenAt'.intact, hafter, fun id => ?_⟩,
      fun _ => leavesLarger_of_lt hsizes hopenAt hbefore hopenAt' hdisk⟩
    rw [hstore]
    exact record?_firstShelves before.store _ id

/-- An entry that only fits the slots for four blobs is not tracked by a limbo for two, which leaves
it where it is. -/
theorem openOnDisk_resizes_full_entry :
    let tx : TxHash := .replicate 32 7
    let calls : List Call := [.push (.replicate 32 6) 5 ⟨[], [], []⟩, .push tx 0 fullSidecar]
    ∃ limbo, (openOnDisk { maxBlobsPerTx := 4 } {} {}).value = .ok limbo ∧
      let before := (limbo.run calls).state
      ∃ after, (openOnDisk { maxBlobsPerTx := 2 } {} (before.finish .close).disk).value =
          .ok after ∧
        (openOnDisk { maxBlobsPerTx := 2 } {} (before.finish .close).disk).state = after.disk ∧
        TracksBelow 2 before after ∧ LeavesLarger { maxBlobsPerTx := 4 } 2 before after := by
  intro tx calls
  obtain ⟨limbo, hopen, -⟩ := openOnDisk_emptyDisk
  have hmissing : NoShelfFiles "limbo" {} := fun _ => Disk.content?_empty _
  have hfewer : ¬(4 : UInt32) < 2 := by decide
  have hresized := @openOnDisk_resizes { maxBlobsPerTx := 4 } { maxBlobsPerTx := 2 } {} {} limbo
    hmissing hopen calls .close rfl (by decide) (by decide) (fun hmore => absurd hmore hfewer) {}
  obtain ⟨after, hagain, hstate, htracks, -, hlarger⟩ := hresized
  exact ⟨limbo, hopen, after, hagain, hstate, htracks, hlarger (by decide)⟩

end BlobLimbo.Limbo
