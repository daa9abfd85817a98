import BlobLimbo.Proofs.Shelf.Repair
import BlobLimbo.Proofs.Store.Openable

/-!
# Opening repairs the shelf files

Whatever the shelf files of a directory hold, a store that is opened there replays every record that
a slot holds once, in the order of the shelves and slots, and leaves each file repaired
(`open_repairs`). Opening the directory again replays the same records and changes nothing.
-/

namespace BlobLimbo.ShelfStore

variable {path : String} {number slot : Nat} {slotSize : UInt32} {sizes : List UInt32}
  {replay : Replay} {disk : Disk} {store : ShelfStore} {shelf : OpenShelf}
  {shelves : List OpenShelf} {data : Bytes}

/-- What a store replays of the shelf files of a directory, and what it makes of them. -/
structure Repairs (path : String) (sizes : List UInt32) (disk : Disk) (store : ShelfStore)
    (records : List Record) : Prop where
  /-- Replayed is what the slots hold, under the ids of their shelves and slots. -/
  replayed_iff : ∀ id data, (id, data) ∈ records ↔
    ∃ (number : Nat) (slotSize : UInt32) (slot : Nat), sizes[number]? = some slotSize ∧
      Shelf.Holds slotSize (fileContent path disk slotSize) slot data ∧ id = idOf number slot
  /-- Each record is replayed once, in the order of the shelves and slots. -/
  ascending : records.Pairwise fun a b =>
    shelfOf a.1 < shelfOf b.1 ∨ shelfOf a.1 = shelfOf b.1 ∧ slotOf a.1 < slotOf b.1
  /-- Every shelf file is there and repaired. -/
  files : ∀ (number : Nat) (slotSize : UInt32), sizes[number]? = some slotSize →
    ∃ (shelf : OpenShelf) (left : Bytes), store.shelves[number]? = some shelf ∧
      store.disk.content? (Path.place (shelfPath path slotSize)) = some left ∧
      Shelf.Repairs slotSize (fileContent path disk slotSize) shelf.toShelf left
  /-- The replayed records can be read under their ids, and nothing else can. -/
  readable_iff : ∀ id data, (ShelfStore.get id store).value = .ok data ↔ (id, data) ∈ records

/-- The bytes of a shelf file are told by what stands at its place. -/
theorem fileContent_congr {later : Disk}
    (hnode : later.node? (Path.place (shelfPath path slotSize)) =
      disk.node? (Path.place (shelfPath path slotSize))) :
    fileContent path later slotSize = fileContent path disk slotSize := by
  rw [fileContent, fileContent, Disk.content?_congr hnode]

/-- Opening a shelf repairs its file. -/
theorem fileContent_openShelf
    (hok : (openShelf path number slotSize replay).value = .ok shelf) :
    fileContent path (openShelf path number slotSize replay).state.disk slotSize =
      (Shelf.open slotSize (fileContent path replay.disk slotSize)).content := by
  unfold openShelf at hok ⊢
  dsimp only at hok ⊢
  cases hopen : replay.disk.openFile (shelfPath path slotSize) with
  | mk opened result =>
    cases result with
    | error cause => simp [hopen] at hok
    | ok handle =>
      obtain ⟨-, hdestination, -, hreaches, hread, -⟩ := Disk.openFile_spec hopen
      have hplace : Path.place (shelfPath path slotSize) = handle.path :=
        Disk.place_of_destination hdestination
      rw [← hplace, ← fileContent] at hread
      dsimp only
      rw [fileContent, hplace, Disk.content?, Disk.node?_write hreaches, if_pos rfl, hread]
      rfl

/-- Opening shelves repairs their files. -/
theorem fileContent_openShelves (hlayout : sizes.Pairwise (· < ·))
    (hheader : ∀ slotSize ∈ sizes, slotHeaderSize < slotSize.toNat)
    (hslots : Numberable path sizes replay.disk)
    (hok : (openShelves path number sizes replay).value = .ok shelves) :
    ∀ slotSize ∈ sizes,
      fileContent path (openShelves path number sizes replay).state.disk slotSize =
        (Shelf.open slotSize (fileContent path replay.disk slotSize)).content := by
  induction sizes generalizing number replay shelves with
  | nil => simp
  | cons first sizes ih =>
    rw [List.pairwise_cons] at hlayout
    rw [List.forall_mem_cons] at hheader
    obtain ⟨shelf, hshelf, hrest, hstate⟩ := Action.of_bind_eq_ok hok
    obtain ⟨others, hothers, -, hstate'⟩ := Action.of_bind_eq_ok hrest
    have hslots' := hslots.openShelf hlayout.1 hheader.1 hshelf
    obtain ⟨-, -, -, hsame', -⟩ := openShelves_spec hlayout.2 hheader.2 hslots' hothers
    have hfinal : (openShelves path number (first :: sizes) replay).state =
        (openShelves path (number + 1) sizes (openShelf path number first replay).state).state :=
      hstate.trans hstate'
    rw [hfinal, List.forall_mem_cons]
    constructor
    · rw [fileContent_congr (hsame' _ fun other hother => ?_), fileContent_openShelf hshelf]
      exact place_shelfPath_ne path (hlayout.1 other hother)
    · intro other hother
      rw [ih hlayout.2 hheader.2 hslots' hothers other hother, fileContent_congr]
      exact node?_openShelf_of_lt hheader.1 (hslots first List.mem_cons_self) hshelf
        (hlayout.1 other hother)

section Open

variable (hslots : Numberable path sizes disk)
  (hopen : (ShelfStore.open path sizes { disk }).value = .ok store)

include hslots hopen

/-- Opening a store repairs its shelf files. -/
theorem fileContent_open (hmem : slotSize ∈ sizes) : fileContent path store.disk slotSize =
    (Shelf.open slotSize (fileContent path disk slotSize)).content := by
  obtain ⟨hlayout, -, hshelves, -, -, hdisk⟩ := open_eq_ok hopen
  obtain ⟨hpairwise, hheader⟩ := layout_of_layoutError? hlayout
  have hmade : fileContent path (makeDirectory path { disk }).state.disk slotSize =
      fileContent path disk slotSize :=
    congrArg (Option.getD · []) (Disk.content?_makeDirectories disk path _)
  rw [hdisk, fileContent_openShelves hpairwise hheader hslots.makeDirectory hshelves slotSize hmem,
    hmade]

/-- The shelves of a store that is opened are those of its files, which are there and repaired. -/
theorem exists_repaired (hsize : sizes[number]? = some slotSize) :
    ∃ (shelf : OpenShelf) (left : Bytes), store.shelves[number]? = some shelf ∧
      store.disk.content? (Path.place (shelfPath path slotSize)) = some left ∧
      Shelf.Repairs slotSize (fileContent path disk slotSize) shelf.toShelf left := by
  have hopenAt := (open_spec hslots hopen).1
  have hmem := List.mem_of_getElem? hsize
  obtain ⟨shelf, hshelf, hshelfSize, hread⟩ := hopenAt.exists_shelf hsize
  have hattached := hopenAt.intact.attached_of_getElem? hshelf
  obtain ⟨left, hnode⟩ := hattached.reaches
  rw [fileContent_open hslots hopen hmem] at hread
  have hleft : left = (Shelf.open slotSize (fileContent path disk slotSize)).content := by
    rw [← hread, Disk.read_of_node? hnode]
  -- A tidy shelf is told by its file, and the file is the one that opening it left.
  have hsame : shelf.toShelf = (Shelf.open slotSize (fileContent path disk slotSize)).shelf := by
    obtain ⟨hlaid, hopened, -⟩ :=
      Shelf.open_spec (fileContent path disk slotSize) (hopenAt.header_lt slotSize hmem)
    have hfound := (Shelf.open_of_laid hattached.laid).1
    have hfound' := (Shelf.open_of_laid hlaid).1
    rw [hshelfSize, hread] at hfound
    rw [hopened] at hfound'
    exact hfound.symm.trans hfound'
  refine ⟨shelf, left, hshelf, ?_, ?_⟩
  · have hplace := hattached.place_eq
    rw [hopenAt.path_eq, hshelfSize] at hplace
    rw [hplace]
    exact Disk.content?_eq_some_iff.mpr ⟨_, hnode⟩
  · rw [hsame, hleft]
    exact Shelf.repairs_open (hopenAt.header_lt slotSize hmem) _

end Open

/-- What is replayed is what the slots of the shelf files hold. -/
theorem mem_replayed_iff_holds (hheader : ∀ slotSize ∈ sizes, slotHeaderSize < slotSize.toNat)
    (hslots : Numberable path sizes disk) {id : SlotId} :
    (id, data) ∈ replayed path disk 0 sizes ↔
      ∃ (number : Nat) (slotSize : UInt32) (slot : Nat), sizes[number]? = some slotSize ∧
        Shelf.Holds slotSize (fileContent path disk slotSize) slot data ∧
        id = idOf number slot := by
  rw [mem_replayed_iff hheader hslots]
  simp only [Nat.zero_add, exists_eq_left', payload?, Option.bind_eq_some_iff]
  constructor
  · rintro ⟨slotSize, hsize, hpayload⟩
    have hroom := hheader slotSize (List.mem_of_getElem? hsize)
    exact ⟨shelfOf id, slotSize, slotOf id, hsize, (Shelf.payloadAt_eq_some_iff hroom).mp hpayload,
      (idOf_shelfOf id).symm⟩
  · rintro ⟨number, slotSize, slot, hsize, hholds, rfl⟩
    have hmem := List.mem_of_getElem? hsize
    have hroom := hheader slotSize hmem
    have hpayload := (Shelf.payloadAt_eq_some_iff hroom).mpr hholds
    have hslot := NumberableFile.slot_lt hroom (hslots slotSize hmem) hpayload
    rw [shelfOf_idOf _ hslot, slotOf_idOf _ hslot]
    exact ⟨slotSize, hsize, hpayload⟩

/-- A store that is opened reads what it replays. -/
theorem value_get_eq_ok_iff_mem_replayed (hslots : Numberable path sizes disk)
    (hopen : (ShelfStore.open path sizes { disk }).value = .ok store) {id : SlotId} :
    (ShelfStore.get id store).value = .ok data ↔
      (id, data) ∈ (ShelfStore.open path sizes { disk }).state.records := by
  obtain ⟨hopenAt, hlists⟩ := open_spec hslots hopen
  rw [hopenAt.intact.value_get_eq_ok_iff]
  exact (hlists.mem_iff id data).symm

/-- Opening the directory of a store again, right after it was opened, gives the store and what was
replayed once more, and leaves the disk as it is. -/
theorem open_again (hslots : Numberable path sizes disk)
    (hopen : (ShelfStore.open path sizes { disk }).value = .ok store)
    (hrecords : (ShelfStore.open path sizes { disk }).state.records =
      replayed path disk 0 sizes) :
    (ShelfStore.open path sizes { disk := store.disk }).value = .ok store ∧
      (ShelfStore.open path sizes { disk := store.disk }).state =
        { disk := store.disk, records := replayed path disk 0 sizes } := by
  obtain ⟨hopenAt, hlists⟩ := open_spec hslots hopen
  have hlayout := (open_eq_ok hopen).1
  obtain ⟨again, hlistsAgain, hagain⟩ := open_of_intact hopenAt.intact
  rw [hopenAt.path_eq, hopenAt.sizes_eq] at hagain
  obtain ⟨-, -, hreplayed⟩ := open_of_openable hlayout hopenAt.numberable hopenAt.openable
  have hsorted : (replayed path store.disk 0 sizes).Pairwise fun a b => a.1 < b.1 :=
    sorted_replayed hopenAt.header_lt hopenAt.numberable
  rw [← hreplayed, hagain] at hsorted
  have hsame : again = replayed path disk 0 sizes := by
    refine eq_of_ascending hsorted (sorted_replayed hopenAt.header_lt hslots) fun ⟨id, data⟩ => ?_
    rw [hlistsAgain.mem_iff, ← hrecords, hlists.mem_iff]
  rw [hagain, hsame]
  exact ⟨rfl, rfl⟩

/-- **Repairing open.** For all slot sizes that can be used and whatever the shelf files of a
directory hold, as long as the system makes the directory and opens the files and the slots can be
numbered, a store is opened. It replays every record that a slot holds once, and repairs the files.
Opening the directory again replays the same records and leaves the disk as it is. -/
theorem open_repairs (hlayout : layoutError? sizes = none) (hslots : Numberable path sizes disk)
    (h : Openable path sizes disk) :
    ∃ (store : ShelfStore) (records : List Record),
      (ShelfStore.open path sizes { disk }).value = .ok store ∧
      (ShelfStore.open path sizes { disk }).state = { disk := store.disk, records } ∧
      Repairs path sizes disk store records ∧
      (ShelfStore.open path sizes { disk := store.disk }).value = .ok store ∧
      (ShelfStore.open path sizes { disk := store.disk }).state =
        { disk := store.disk, records } := by
  obtain ⟨store, hopen, hrecords⟩ := open_of_openable hlayout hslots h
  have hheader := (layout_of_layoutError? hlayout).2
  obtain ⟨-, -, -, hstate, -, hdisk⟩ := open_eq_ok hopen
  have hleft : (ShelfStore.open path sizes { disk }).state =
      { disk := store.disk, records := replayed path disk 0 sizes } := by
    rw [← hrecords, hdisk, hstate]
  refine ⟨store, replayed path disk 0 sizes, hopen, hleft, ⟨fun id data => ?_, ?_, ?_, ?_⟩,
    open_again hslots hopen hrecords⟩
  · exact mem_replayed_iff_holds hheader hslots
  · refine (sorted_replayed hheader hslots).imp fun {a b} hlt => ?_
    rwa [← idOf_shelfOf a.1, ← idOf_shelfOf b.1,
      idOf_lt_idOf_iff (slotOf_lt a.1) (slotOf_lt b.1)] at hlt
  · exact fun number slotSize hsize => exists_repaired hslots hopen hsize
  · intro id data
    rw [value_get_eq_ok_iff_mem_replayed hslots hopen, hrecords]

/-- A disk with a damaged shelf file. -/
def damagedDisk : Disk :=
  (({} : Disk).addDirectory ["limbo"]).addFile ["limbo", "shelf-00000008.dat"] Shelf.damagedFile

theorem numberable_damagedDisk : Numberable "limbo" [8, 16] damagedDisk := by
  have hfile : damagedDisk.content? (Path.place (shelfPath "limbo" 8)) =
      some Shelf.damagedFile := by decide +kernel
  have hmissing : damagedDisk.content? (Path.place (shelfPath "limbo" 16)) = none := by
    decide +kernel
  simp only [Numberable, NumberableFile, List.forall_mem_cons, hfile, hmissing]
  refine ⟨fun content hcontent => ?_, by simp⟩
  obtain rfl := Option.some.inj hcontent
  decide

theorem openable_damagedDisk : Openable "limbo" [8, 16] damagedDisk := by
  refine ⟨by decide +kernel, ?_⟩
  simp only [List.forall_mem_cons]
  refine ⟨⟨⟨["limbo", "shelf-00000008.dat"], 0⟩, by decide +kernel⟩,
    ⟨⟨["limbo", "shelf-00000016.dat"], 1⟩, by decide +kernel⟩, by simp⟩

/-- Of a damaged shelf file the two records are replayed, and a missing file is made. -/
theorem open_repairs_damagedDisk :
    layoutError? [8, 16] = none ∧
      (ShelfStore.open "limbo" [8, 16] { disk := damagedDisk }).state.records =
        [(0, [7, 7]), (2, [8, 8, 8, 8])] ∧
      ∃ (store : ShelfStore) (records : List Record),
        (ShelfStore.open "limbo" [8, 16] { disk := damagedDisk }).value = .ok store ∧
        (ShelfStore.open "limbo" [8, 16] { disk := damagedDisk }).state =
          { disk := store.disk, records } ∧
        Repairs "limbo" [8, 16] damagedDisk store records ∧
        (ShelfStore.open "limbo" [8, 16] { disk := store.disk }).value = .ok store ∧
        (ShelfStore.open "limbo" [8, 16] { disk := store.disk }).state =
          { disk := store.disk, records } :=
  ⟨by decide, by decide +kernel,
    open_repairs (by decide) numberable_damagedDisk openable_damagedDisk⟩

end BlobLimbo.ShelfStore
