import BlobLimbo.Proofs.Layout
import BlobLimbo.Proofs.Limbo.FirstEntries
import BlobLimbo.Proofs.Limbo.Restart
import BlobLimbo.Proofs.Store.Footprint

/-!
# Recovery from whatever is on disk

A limbo is opened in whatever directory the system lets it be opened in: no bytes of the shelf files
make it fail, however torn, corrupt or repeated what they hold (`exists_openOnDisk`). What comes out
can be told from the bytes alone (`openOnDisk_recovers`): of the slots with an entry the first one
of each owner is kept and tracked, every other slot is freed, and no other file is touched.
-/

namespace BlobLimbo

open Std LawfulStore

namespace ShelfStore

variable {path : String} {sizes : List UInt32} {disk : Disk} {number slot : Nat} {entry : Entry}

/-- A slot of a directory holds an entry. -/
def EntryIn (path : String) (sizes : List UInt32) (disk : Disk) (number slot : Nat)
    (entry : Entry) : Prop :=
  ∃ data, payload? path sizes disk number slot = some data ∧ Entry.decode data = .ok entry

/-- A slot of a directory holds the first entry of its owner: there is none on an earlier shelf, nor
in an earlier slot of the same shelf. -/
structure FirstIn (path : String) (sizes : List UInt32) (disk : Disk) (number slot : Nat)
    (entry : Entry) : Prop where
  entryIn : EntryIn path sizes disk number slot entry
  first : ∀ (number' slot' : Nat) (other : Entry),
    number' < number ∨ number' = number ∧ slot' < slot →
      EntryIn path sizes disk number' slot' other → other.owner ≠ entry.owner

section Ids

variable (hheader : ∀ slotSize ∈ sizes, slotHeaderSize < slotSize.toNat)
  (hslots : Numberable path sizes disk)

include hheader hslots

/-- A slot with a payload can be numbered. -/
theorem slot_lt_of_payload? {data : Bytes}
    (hpayload : payload? path sizes disk number slot = some data) : slot < 2 ^ 32 := by
  obtain ⟨slotSize, hsize, hpayload⟩ := Option.bind_eq_some_iff.mp hpayload
  have hmem := List.mem_of_getElem? hsize
  exact NumberableFile.slot_lt (hheader slotSize hmem) (hslots slotSize hmem) hpayload

/-- A slot with an entry can be numbered. -/
theorem EntryIn.slot_lt (h : EntryIn path sizes disk number slot entry) : slot < 2 ^ 32 := by
  obtain ⟨data, hpayload, -⟩ := h
  exact slot_lt_of_payload? hheader hslots hpayload

/-- The entries of a directory, by their ids. -/
theorem entryIn_iff : EntryIn path sizes disk number slot entry ↔
    slot < 2 ^ 32 ∧ EntryAt (payloads path sizes disk) (idOf number slot) entry := by
  constructor
  · intro hentry
    have hslot := hentry.slot_lt hheader hslots
    refine ⟨hslot, ?_⟩
    rwa [EntryAt, payloads_idOf hslot]
  · rintro ⟨hslot, hentry⟩
    rwa [EntryAt, payloads_idOf hslot] at hentry

/-- The order of the shelves and slots is that of the ids, so the first entries are the same. -/
theorem firstIn_iff : FirstIn path sizes disk number slot entry ↔
    slot < 2 ^ 32 ∧ FirstAt (payloads path sizes disk) (idOf number slot) entry := by
  constructor
  · rintro ⟨hentry, hfirst⟩
    obtain ⟨hslot, hentryAt⟩ := (entryIn_iff hheader hslots).mp hentry
    refine ⟨hslot, hentryAt, fun earlier other hlt hother => ?_⟩
    rw [← idOf_shelfOf earlier] at hother hlt
    refine hfirst (shelfOf earlier) (slotOf earlier) other ?_ ?_
    · exact (idOf_lt_idOf_iff (slotOf_lt earlier) hslot).mp hlt
    · exact (entryIn_iff hheader hslots).mpr ⟨slotOf_lt earlier, hother⟩
  · rintro ⟨hslot, hentry, hfirst⟩
    refine ⟨(entryIn_iff hheader hslots).mpr ⟨hslot, hentry⟩, ?_⟩
    intro number' slot' other hbefore hother
    obtain ⟨hslot', hotherAt⟩ := (entryIn_iff hheader hslots).mp hother
    exact hfirst (idOf number' slot') other ((idOf_lt_idOf_iff hslot' hslot).mpr hbefore) hotherAt

end Ids

namespace OpenAt

variable {store : ShelfStore}

variable (h : OpenAt path sizes store) (hslots : Numberable path sizes disk)
  (hkeeps : KeepsFirst (payloads path sizes disk) store.record?)

include h hslots hkeeps

/-- A store that has kept the first entries of a directory reads these, and nothing else. -/
theorem get_eq_ok_iff_of_keepsFirst {id : SlotId} {data : Bytes} :
    (ShelfStore.get id store).value = .ok data ↔
      payload? path sizes disk (shelfOf id) (slotOf id) = some data ∧
        ∃ entry, FirstIn path sizes disk (shelfOf id) (slotOf id) entry := by
  rw [h.intact.value_get_eq_ok_iff, hkeeps.eq_some_iff]
  simp only [firstIn_iff h.header_lt hslots, slotOf_lt, true_and, idOf_shelfOf, payloads]

/-- The files of a store that has kept the first entries of a directory hold these, and no other
payload. -/
theorem payload?_eq_some_iff_of_keepsFirst {data : Bytes} :
    payload? path sizes store.disk number slot = some data ↔
      payload? path sizes disk number slot = some data ∧
        ∃ entry, FirstIn path sizes disk number slot entry := by
  by_cases hslot : slot < 2 ^ 32
  · rw [← payloads_idOf hslot, ← payloads_idOf hslot, h.payloads_eq, hkeeps.eq_some_iff]
    simp only [firstIn_iff h.header_lt hslots, hslot, true_and]
  · constructor
    · intro hpayload
      exact absurd (slot_lt_of_payload? h.header_lt h.numberable hpayload) hslot
    · rintro ⟨hpayload, -⟩
      exact absurd (slot_lt_of_payload? h.header_lt hslots hpayload) hslot

/-- In the files of a store that has kept the first entries every other slot is vacant. -/
theorem vacant_of_keepsFirst {slotSize : UInt32} (hsize : sizes[number]? = some slotSize)
    (hnone : ∀ entry, ¬FirstIn path sizes disk number slot entry) :
    Shelf.Vacant slotSize (fileContent path store.disk slotSize) slot := by
  apply h.vacant hsize
  rw [Option.eq_none_iff_forall_ne_some]
  intro data hdata
  obtain ⟨-, entry, hfirst⟩ := (h.payload?_eq_some_iff_of_keepsFirst hslots hkeeps).mp hdata
  exact hnone entry hfirst

end OpenAt

end ShelfStore

namespace Limbo

open ShelfStore

variable {config : LimboConfig} {disk : Disk} {limbo : Limbo ShelfStore} {sizes : List UInt32}

/-- The system lets a limbo open its directory and its shelf files. -/
def OpenableAt (config : LimboConfig) (disk : Disk) : Prop :=
  ∀ sizes, Layout.slotSizes config.maxBlobsPerTx = .ok sizes →
    Openable config.datadir sizes disk

/-- What a limbo makes of the bytes in a directory. -/
structure Recovers (path : String) (sizes : List UInt32) (disk : Disk)
    (limbo : Limbo ShelfStore) : Prop where
  /-- The owners of the entries are tracked, and no others. -/
  tracked_iff : ∀ owner, limbo.contains owner = true ↔
    ∃ number slot entry, EntryIn path sizes disk number slot entry ∧ entry.owner = owner
  /-- An owner is tracked at its first entry, under the block that this entry names. -/
  tracked_first : ∀ number slot entry, FirstIn path sizes disk number slot entry →
    limbo.index.slotOf entry.owner = some (idOf number slot) ∧
      limbo.trackedBlock entry.owner = some entry.block
  /-- The first entries can be read under their ids, byte by byte as they were, and nothing else
  can. -/
  readable_iff : ∀ id data, (SlotStore.get id limbo.store).value = .ok data ↔
    payload? path sizes disk (shelfOf id) (slotOf id) = some data ∧
      ∃ entry, FirstIn path sizes disk (shelfOf id) (slotOf id) entry
  /-- The shelf files hold the first entries where they were, and no other payload. -/
  payload_iff : ∀ number slot data, payload? path sizes limbo.disk number slot = some data ↔
    payload? path sizes disk number slot = some data ∧
      ∃ entry, FirstIn path sizes disk number slot entry
  /-- Every slot without a first entry is free. -/
  freed : ∀ number slotSize slot, sizes[number]? = some slotSize →
    (∀ entry, ¬FirstIn path sizes disk number slot entry) →
      Shelf.Vacant slotSize (fileContent path limbo.disk slotSize) slot
  /-- No file is touched that is not a shelf file. -/
  others : KeepsOthers path sizes disk limbo.disk

/-- A limbo is opened when its store is and can be recovered. -/
theorem openOnDisk_of_recover {store : ShelfStore}
    (hsizes : Layout.slotSizes config.maxBlobsPerTx = .ok sizes)
    (hstore : (ShelfStore.open config.datadir sizes { disk }).value = .ok store)
    (hrecover : (recover store
      (ShelfStore.open config.datadir sizes { disk }).state.records).value = .ok ())
    (ledger : Metrics.Ledger) :
    ∃ limbo, (openOnDisk config ledger disk).value = .ok limbo ∧
      (openOnDisk config ledger disk).state = limbo.disk ∧
      limbo.store = (recover store
        (ShelfStore.open config.datadir sizes { disk }).state.records).state.store := by
  simp only [openOnDisk, hsizes, hstore, hrecover, Except.map]
  refine ⟨_, rfl, ?_, ?_⟩
  · split <;> rfl
  · split <;> rfl

/-- A limbo is opened wherever the system lets it be. Of the payloads in the directory its store
keeps the first entries, and its index accounts for them. -/
theorem exists_openOnDisk (hpos : 0 < config.maxBlobsPerTx)
    (hlimit : config.maxBlobsPerTx ≤ Layout.maxBlobsLimit) (hslots : NumberableAt config disk)
    (hopenable : OpenableAt config disk) (ledger : Metrics.Ledger) :
    ∃ limbo sizes, Layout.slotSizes config.maxBlobsPerTx = .ok sizes ∧
      (openOnDisk config ledger disk).value = .ok limbo ∧
      (openOnDisk config ledger disk).state = limbo.disk ∧
      KeepsFirst (payloads config.datadir sizes disk) (live limbo.store) ∧
      KeepsOthers config.datadir sizes disk limbo.disk := by
  obtain ⟨sizes, hsizes, hne, hpairwise, hroom⟩ := Layout.exists_slotSizes hpos hlimit
  have hheader : ∀ slotSize ∈ sizes, slotHeaderSize < slotSize.toNat :=
    fun slotSize hmem => Nat.lt_trans (by decide) (hroom slotSize hmem)
  have hlayout := layoutError?_eq_none hne hpairwise hheader
  obtain ⟨store, hstore, hrecords⟩ :=
    open_of_openable hlayout (hslots sizes hsizes) (hopenable sizes hsizes)
  obtain ⟨hopenAt, hlists⟩ := open_spec (hslots sizes hsizes) hstore
  have hsorted : (ShelfStore.open config.datadir sizes { disk }).state.records.Pairwise
      fun a b => a.1 < b.1 := by
    rw [hrecords]
    exact sorted_replayed hheader (hslots sizes hsizes)
  obtain ⟨hrecover, -, -, -, hkeeps⟩ := recover_of_calm hopenAt.intact trivial hlists hsorted
  have hlive : live store = payloads config.datadir sizes disk :=
    record?_open (hslots sizes hsizes) hstore hrecords
  have hothers : KeepsOthers config.datadir sizes disk (recover store
      (ShelfStore.open config.datadir sizes { disk }).state.records).state.store.disk := by
    rw [(recover_of_ok hrecover).2]
    exact ((upkeep_spares config.datadir sizes _).deleteAll (n := 0) _ store
      ⟨hopenAt, spares_open (hslots sizes hsizes) hstore⟩).2.keepsOthers
  rw [hlive] at hkeeps
  obtain ⟨limbo, hopen, hstate, hlimbo⟩ := openOnDisk_of_recover hsizes hstore hrecover ledger
  refine ⟨limbo, sizes, hsizes, hopen, hstate, ?_, ?_⟩
  · rwa [hlimbo]
  · rwa [Limbo.disk, hlimbo]

/-- A limbo whose store has kept the first entries of a directory, and whose index accounts for
them, tracks the owner of every entry at its first one. -/
theorem recovers_of_keepsFirst (hslots : Numberable config.datadir sizes disk)
    (hopenAt : OpenAt config.datadir sizes limbo.store)
    (haccounted : Accounted limbo.index (live limbo.store) [])
    (hkeeps : KeepsFirst (payloads config.datadir sizes disk) (live limbo.store))
    (hothers : KeepsOthers config.datadir sizes disk limbo.disk) :
    Recovers config.datadir sizes disk limbo := by
  have hheader := hopenAt.header_lt
  have hheld : ∀ {id : SlotId} {entry : Entry},
      FirstAt (payloads config.datadir sizes disk) id entry →
        HeldIn limbo id entry.owner entry.block entry.sidecar := fun hfirst =>
    heldIn_of_entryAt haccounted (hfirst.entryAt.congr (hkeeps.kept _ _ hfirst)) List.not_mem_nil
  refine ⟨fun owner => ⟨fun hcontains => ?_, ?_⟩, fun number slot entry hfirst => ?_,
    fun id data => hopenAt.get_eq_ok_iff_of_keepsFirst hslots hkeeps,
    fun number slot data => hopenAt.payload?_eq_some_iff_of_keepsFirst hslots hkeeps,
    fun number slotSize slot hsize hnone => hopenAt.vacant_of_keepsFirst hslots hkeeps hsize hnone,
    hothers⟩
  · obtain ⟨id, block, sidecar, -, -, data, hdata, hdecode⟩ := exists_heldIn haccounted hcontains
    exact ⟨shelfOf id, slotOf id, _, ⟨data, (hkeeps.eq_some_iff.mp hdata).1, hdecode⟩, rfl⟩
  · rintro ⟨number, slot, entry, hentry, rfl⟩
    obtain ⟨-, hentryAt⟩ := (entryIn_iff hheader hslots).mp hentry
    obtain ⟨first, other, hfirst, howner, -⟩ := FirstAt.exists_of_entryAt hentryAt
    rw [← howner]
    exact (hheld hfirst).contains
  · have hfirstAt := ((firstIn_iff hheader hslots).mp hfirst).2
    exact ⟨(hheld hfirstAt).slot, (hheld hfirstAt).tracked⟩

/-- **Recovery from any disk.** For every allowed number of blobs and whatever the files of the
directory hold, as long as the system lets them be opened and the slots can be numbered, a limbo is
opened. It tracks the owner of every entry in its shelf files at the first one, keeps exactly the
first entries, byte by byte, frees every other slot, and touches no other file. -/
theorem openOnDisk_recovers (hpos : 0 < config.maxBlobsPerTx)
    (hlimit : config.maxBlobsPerTx ≤ Layout.maxBlobsLimit) (hslots : NumberableAt config disk)
    (hopenable : OpenableAt config disk) (ledger : Metrics.Ledger) :
    ∃ limbo sizes, Layout.slotSizes config.maxBlobsPerTx = .ok sizes ∧
      (openOnDisk config ledger disk).value = .ok limbo ∧
      (openOnDisk config ledger disk).state = limbo.disk ∧
      Recovers config.datadir sizes disk limbo := by
  obtain ⟨limbo, sizes, hsizes, hopen, hstate, hkeeps, hothers⟩ :=
    exists_openOnDisk hpos hlimit hslots hopenable ledger
  obtain ⟨sizes', hsizes', hopenAt, haccounted⟩ := openOnDisk_spec hslots hopen
  obtain rfl := Except.ok.inj (hsizes.symm.trans hsizes')
  exact ⟨limbo, sizes, hsizes, hopen, hstate,
    recovers_of_keepsFirst (hslots sizes hsizes) hopenAt haccounted hkeeps hothers⟩

/-- A record that is no entry, and two entries of one owner. -/
def crowdedRecords : List Bytes :=
  [[7], Entry.encode ⟨.replicate 32 7, 5, ⟨[], [], []⟩⟩,
    Entry.encode ⟨.replicate 32 7, 9, ⟨[], [], []⟩⟩]

/-- A shelf with three slots. -/
def crowdedShelf : Shelf where
  slotSize := 132198
  slots := 3

/-- These records in three slots, and a slot that breaks off. -/
def crowdedFile : Bytes :=
  crowdedRecords.flatMap crowdedShelf.slotImage ++ [0, 0, 0, 9, 7]

/-- A disk with this shelf file, and with a file beside it. -/
def crowdedDisk : Disk :=
  ((({} : Disk).addDirectory ["limbo"]).addFile ["limbo", "shelf-00132198.dat"]
    crowdedFile).addFile ["limbo", "notes.txt"] [1, 2, 3]

theorem content?_crowdedDisk :
    crowdedDisk.content? (Path.place (shelfPath "limbo" 132198)) = some crowdedFile ∧
      crowdedDisk.content? ["limbo", "notes.txt"] = some [1, 2, 3] := by
  have hplace : Path.place (shelfPath "limbo" 132198) = ["limbo", "shelf-00132198.dat"] := by
    decide +kernel
  rw [hplace, Disk.content?_eq_some_iff, Disk.content?_eq_some_iff]
  constructor
  · refine ⟨0, ?_⟩
    rw [crowdedDisk, Disk.node?_of_insert rfl rfl, if_neg (by decide),
      Disk.node?_of_insert rfl rfl, if_pos rfl]
    rfl
  · refine ⟨1, ?_⟩
    rw [crowdedDisk, Disk.node?_of_insert rfl rfl, if_pos rfl]
    rfl

theorem numberableAt_crowdedDisk : NumberableAt { maxBlobsPerTx := 1 } crowdedDisk := by
  intro sizes hsizes slotSize hmem content hcontent
  obtain rfl := eq_of_slotSizes_one hsizes
  obtain rfl := List.mem_singleton.mp hmem
  obtain rfl := Option.some.inj (content?_crowdedDisk.1.symm.trans hcontent)
  have hlength : crowdedFile.length = 3 * 132198 + 5 := by
    simp [crowdedFile, crowdedRecords, crowdedShelf, Shelf.length_slotImage]
  rw [hlength]
  decide

theorem openableAt_crowdedDisk : OpenableAt { maxBlobsPerTx := 1 } crowdedDisk := by
  intro sizes hsizes
  obtain rfl := eq_of_slotSizes_one hsizes
  refine ⟨by decide +kernel, fun slotSize hmem => ?_⟩
  obtain rfl := List.mem_singleton.mp hmem
  exact ⟨⟨["limbo", "shelf-00132198.dat"], 0⟩, by decide +kernel⟩


/-- The payloads of the slots are the three records. -/
theorem payload?_crowdedDisk (number slot : Nat) :
    payload? "limbo" [132198] crowdedDisk number slot =
      if number = 0 then crowdedRecords[slot]? else none := by
  have hcontent : fileContent "limbo" crowdedDisk 132198 = crowdedFile := by
    rw [fileContent, content?_crowdedDisk.1, Option.getD_some]
  have hrecords : ∀ data ∈ crowdedRecords, data ≠ [] ∧ data.length ≤ crowdedShelf.capacity := by
    decide +kernel
  have hread : Shelf.payloadAt crowdedShelf.slotSize crowdedFile slot = crowdedRecords[slot]? :=
    Shelf.payloadAt_flatMap_slotImage (by decide) hrecords (by decide) slot
  cases number with
  | zero =>
    rw [payload?, List.getElem?_cons_zero, Option.bind_some, hcontent, if_pos rfl, ← hread,
      crowdedShelf]
  | succ number => rfl

/-- The second and the third slot hold entries, and no other slot does. -/
theorem entryIn_crowdedDisk {number slot : Nat} {entry : Entry} :
    EntryIn "limbo" [132198] crowdedDisk number slot entry ↔
      number = 0 ∧ (slot = 1 ∧ entry = ⟨.replicate 32 7, 5, ⟨[], [], []⟩⟩ ∨
        slot = 2 ∧ entry = ⟨.replicate 32 7, 9, ⟨[], [], []⟩⟩) := by
  have hnone : Entry.decode [7] = .error .unexpectedString := by decide +kernel
  have hsecond : Entry.decode (Entry.encode ⟨.replicate 32 7, 5, ⟨[], [], []⟩⟩) =
      .ok ⟨.replicate 32 7, 5, ⟨[], [], []⟩⟩ := by decide +kernel
  have hthird : Entry.decode (Entry.encode ⟨.replicate 32 7, 9, ⟨[], [], []⟩⟩) =
      .ok ⟨.replicate 32 7, 9, ⟨[], [], []⟩⟩ := by decide +kernel
  rw [EntryIn, payload?_crowdedDisk]
  by_cases hnumber : number = 0
  · rcases slot with _ | _ | _ | slot
    · simp [crowdedRecords, hnone]
    · simp [hnumber, crowdedRecords, hsecond, eq_comm]
    · simp [hnumber, crowdedRecords, hthird, eq_comm]
    · simp [crowdedRecords]
  · simp [hnumber]

/-- Of two entries of one owner the first one is recovered, from behind a record that is no entry.
The other slots are freed, and the file beside the shelf stays. -/
theorem openOnDisk_recovers_crowdedDisk :
    let first : Entry := ⟨.replicate 32 7, 5, ⟨[], [], []⟩⟩
    ∃ limbo, (openOnDisk { maxBlobsPerTx := 1 } {} crowdedDisk).value = .ok limbo ∧
      (openOnDisk { maxBlobsPerTx := 1 } {} crowdedDisk).state = limbo.disk ∧
      Recovers "limbo" [132198] crowdedDisk limbo ∧
      (∀ owner, limbo.contains owner = true ↔ first.owner = owner) ∧
      limbo.index.slotOf first.owner = some (idOf 0 1) ∧
      limbo.trackedBlock first.owner = some 5 ∧
      (SlotStore.get (idOf 0 1) limbo.store).value = .ok first.encode ∧
      (∀ slot ≠ 1, Shelf.Vacant 132198 (fileContent "limbo" limbo.disk 132198) slot) ∧
      limbo.disk.content? ["limbo", "notes.txt"] = some [1, 2, 3] := by
  intro first
  obtain ⟨limbo, sizes, hsizes, hopen, hstate, hrecovers⟩ :=
    openOnDisk_recovers (by decide) (by decide) numberableAt_crowdedDisk openableAt_crowdedDisk {}
  obtain rfl := eq_of_slotSizes_one hsizes
  have hfirst : FirstIn "limbo" [132198] crowdedDisk 0 1 first := by
    refine ⟨entryIn_crowdedDisk.mpr ⟨rfl, .inl ⟨rfl, rfl⟩⟩, ?_⟩
    intro number slot other hbefore hother
    have hslot := (entryIn_crowdedDisk.mp hother).2
    omega
  have hduplicate : ∀ slot ≠ 1, ∀ entry, ¬FirstIn "limbo" [132198] crowdedDisk 0 slot entry := by
    rintro slot hslot entry hother
    obtain ⟨-, ⟨rfl, -⟩ | ⟨rfl, rfl⟩⟩ := entryIn_crowdedDisk.mp hother.entryIn
    · exact hslot rfl
    · exact hother.first 0 1 first (.inr ⟨rfl, by decide⟩) hfirst.entryIn rfl
  obtain ⟨hslot, hblock⟩ := hrecovers.tracked_first 0 1 first hfirst
  refine ⟨limbo, hopen, hstate, hrecovers, fun owner => ?_, hslot, hblock, ?_,
    fun slot hslot => hrecovers.freed 0 132198 slot rfl (hduplicate slot hslot), ?_⟩
  · rw [hrecovers.tracked_iff]
    constructor
    · rintro ⟨number, slot, entry, hentry, rfl⟩
      obtain ⟨-, ⟨-, rfl⟩ | ⟨-, rfl⟩⟩ := entryIn_crowdedDisk.mp hentry <;> rfl
    · exact fun howner => ⟨0, 1, first, hfirst.entryIn, howner⟩
  · rw [hrecovers.readable_iff, shelfOf_idOf 0 (by decide), slotOf_idOf 0 (by decide),
      payload?_crowdedDisk]
    exact ⟨rfl, first, hfirst⟩
  · rw [hrecovers.others _ ?_, content?_crowdedDisk.2]
    intro slotSize hmem
    obtain rfl := List.mem_singleton.mp hmem
    decide +kernel

end Limbo

end BlobLimbo
