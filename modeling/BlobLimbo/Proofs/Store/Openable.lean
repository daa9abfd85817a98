import BlobLimbo.Proofs.Shelf.Payload
import BlobLimbo.Proofs.Store.Opening

/-!
# Opening any directory

A store is opened in whatever directory as long as the system makes the directory and opens the
shelf files (`open_of_openable`): no content of the files makes it fail. What it replays are the
payloads of their slots, in the order of the shelves and slots (`record?_open`, `sorted_replayed`).
-/

namespace BlobLimbo

namespace Disk

variable {disk later : Disk} {path : String}

/-- A file can be opened when its path is accepted and leads somewhere where no directory stands. -/
theorem exists_openFile_iff : (∃ handle, (disk.openFile path).2 = .ok handle) ↔
    Path.refusal? path = none ∧ ∃ place, disk.destination (Path.names path) = .ok place ∧
      disk.node? place ≠ some .directory := by
  unfold openFile
  cases Path.refusal? path with
  | some error => simp
  | none =>
    cases disk.destination (Path.names path) with
    | error error => simp
    | ok place =>
      cases hnode : disk.node? place with
      | none => simp [hnode]
      | some node => cases node <;> simp [hnode]

/-- A file that can be opened can be opened later, if what stands at its place is the same. -/
theorem exists_openFile_congr (h : ∃ handle, (disk.openFile path).2 = .ok handle)
    (hextends : disk.Extends later)
    (hnode : later.node? (Path.place path) = disk.node? (Path.place path)) :
    ∃ handle, (later.openFile path).2 = .ok handle := by
  rw [exists_openFile_iff] at h ⊢
  obtain ⟨haccepted, place, hdestination, hfile⟩ := h
  refine ⟨haccepted, place, hextends.destination hdestination, ?_⟩
  have hplace : Path.place path = place := place_of_destination hdestination
  rw [hplace] at hnode
  rwa [hnode]

end Disk

namespace ShelfStore

variable {path : String} {number slot : Nat} {slotSize : UInt32} {sizes : List UInt32}
  {replay : Replay} {disk : Disk} {store : ShelfStore} {id : SlotId} {data : Bytes}

/-- The bytes of the shelf file of a slot size. A missing file has none. -/
def fileContent (path : String) (disk : Disk) (slotSize : UInt32) : Bytes :=
  (disk.content? (Path.place (shelfPath path slotSize))).getD []

/-- The payload of a slot, by the number of its shelf and its own. -/
def payload? (path : String) (sizes : List UInt32) (disk : Disk) (number slot : Nat) :
    Option Bytes :=
  sizes[number]?.bind fun slotSize => Shelf.payloadAt slotSize (fileContent path disk slotSize) slot

/-- The payloads of a directory, by their ids. -/
def payloads (path : String) (sizes : List UInt32) (disk : Disk) (id : SlotId) : Option Bytes :=
  payload? path sizes disk (shelfOf id) (slotOf id)

/-- The payload of a slot that can be numbered. -/
theorem payloads_idOf (hslot : slot < 2 ^ 32) :
    payloads path sizes disk (idOf number slot) = payload? path sizes disk number slot := by
  rw [payloads, shelfOf_idOf _ hslot, slotOf_idOf _ hslot]

/-- A shelf file that is missing has no payloads. -/
theorem payload?_of_missing (hsize : sizes[number]? = some slotSize)
    (hmissing : disk.content? (Path.place (shelfPath path slotSize)) = none)
    (hheader : slotHeaderSize < slotSize.toNat) (slot : Nat) :
    payload? path sizes disk number slot = none := by
  rw [payload?, hsize, Option.bind_some, fileContent, hmissing, Option.getD_none, Shelf.payloadAt,
    if_neg]
  rw [List.length_nil]
  omega

/-- A directory without shelf files has no payloads. -/
theorem payloads_of_missing
    (hmissing : ∀ slotSize ∈ sizes, disk.content? (Path.place (shelfPath path slotSize)) = none)
    (hheader : ∀ slotSize ∈ sizes, slotHeaderSize < slotSize.toNat) (id : SlotId) :
    payloads path sizes disk id = none := by
  cases hsize : sizes[shelfOf id]? with
  | none => rw [payloads, payload?, hsize, Option.bind_none]
  | some slotSize =>
    have hmem := List.mem_of_getElem? hsize
    exact payload?_of_missing hsize (hmissing slotSize hmem) (hheader slotSize hmem) _

/-- The system lets a store be opened in a directory: the directory is there or can be made, and the
shelf files can be opened. -/
structure Openable (path : String) (sizes : List UInt32) (disk : Disk) : Prop where
  directory : (disk.makeDirectories path).2 = .ok ()
  files : ∀ slotSize ∈ sizes, ∃ handle,
    ((disk.makeDirectories path).1.openFile (shelfPath path slotSize)).2 = .ok handle

/-- The payloads in the shelf file of a slot size, under their ids. -/
def shelfRecords (path : String) (disk : Disk) (number : Nat) (slotSize : UInt32) : List Record :=
  (Shelf.open slotSize (fileContent path disk slotSize)).records.map
    fun (slot, data) => (idOf number slot, data)

/-- The payloads in the shelf files of some slot sizes, numbered from a number on. -/
def replayed (path : String) (disk : Disk) : (number : Nat) → List UInt32 → List Record
  | _, [] => []
  | number, slotSize :: sizes =>
    shelfRecords path disk number slotSize ++ replayed path disk (number + 1) sizes

/-- Ids are in the order of the shelves, and on a shelf in the order of the slots. -/
theorem idOf_lt_idOf_iff {number' slot' : Nat} (hslot : slot < 2 ^ 32) (hslot' : slot' < 2 ^ 32) :
    idOf number slot < idOf number' slot' ↔ number < number' ∨ number = number' ∧ slot < slot' := by
  have hsums : (number * 2 ^ 32 + slot : Nat) < number' * 2 ^ 32 + slot' ↔
      number < number' ∨ number = number' ∧ slot < slot' := by omega
  rwa [idOf_eq _ hslot, idOf_eq _ hslot']

/-- What is replayed is a matter of the bytes of the shelf files. -/
theorem replayed_congr {later : Disk} (hcontent : ∀ slotSize ∈ sizes,
    later.content? (Path.place (shelfPath path slotSize)) =
      disk.content? (Path.place (shelfPath path slotSize))) (number : Nat) :
    replayed path later number sizes = replayed path disk number sizes := by
  induction sizes generalizing number with
  | nil => rfl
  | cons slotSize sizes ih =>
    rw [List.forall_mem_cons] at hcontent
    rw [replayed, replayed, shelfRecords, shelfRecords, fileContent, hcontent.1, ← fileContent,
      ih hcontent.2]

/-- A slot with a payload can be numbered. -/
theorem NumberableFile.slot_lt (hheader : slotHeaderSize < slotSize.toNat)
    (hslots : NumberableFile path disk slotSize)
    (hpayload : Shelf.payloadAt slotSize (fileContent path disk slotSize) slot = some data) :
    slot < 2 ^ 32 := by
  have hpos : 0 < slotSize.toNat := Nat.zero_lt_of_lt hheader
  have hcount : slot < (fileContent path disk slotSize).length / slotSize.toNat :=
    (Shelf.mem_records_open.mp ((Shelf.mem_records_open_iff hheader).mpr hpayload)).1
  refine Nat.lt_of_lt_of_le hcount ?_
  rw [fileContent]
  cases hcontent : disk.content? (Path.place (shelfPath path slotSize)) with
  | none => simp
  | some content => exact hslots content hcontent

section Shelves

variable (hheader : ∀ slotSize ∈ sizes, slotHeaderSize < slotSize.toNat)
  (hslots : Numberable path sizes disk)

include hheader hslots

/-- What is replayed are the payloads. -/
theorem mem_replayed_iff : (id, data) ∈ replayed path disk number sizes ↔
    ∃ i, shelfOf id = number + i ∧ payload? path sizes disk i (slotOf id) = some data := by
  induction sizes generalizing number with
  | nil => simp [replayed, payload?]
  | cons slotSize sizes ih =>
    rw [List.forall_mem_cons] at hheader
    have hfile := hslots slotSize List.mem_cons_self
    have hshelf : (id, data) ∈ shelfRecords path disk number slotSize ↔ shelfOf id = number ∧
        payload? path (slotSize :: sizes) disk 0 (slotOf id) = some data := by
      simp only [shelfRecords, List.mem_map, Prod.mk.injEq, Prod.exists,
        Shelf.mem_records_open_iff hheader.1, payload?, List.getElem?_cons_zero, Option.bind_some]
      constructor
      · rintro ⟨slot, data', hpayload, rfl, rfl⟩
        have hslot := NumberableFile.slot_lt hheader.1 hfile hpayload
        rw [shelfOf_idOf _ hslot, slotOf_idOf _ hslot]
        exact ⟨rfl, hpayload⟩
      · rintro ⟨rfl, hpayload⟩
        exact ⟨slotOf id, data, hpayload, idOf_shelfOf id, rfl⟩
    rw [replayed, List.mem_append, hshelf,
      ih hheader.2 fun slotSize hmem => hslots slotSize (List.mem_cons_of_mem _ hmem)]
    constructor
    · rintro (⟨hnumber, hpayload⟩ | ⟨i, hnumber, hpayload⟩)
      · exact ⟨0, hnumber, hpayload⟩
      · exact ⟨i + 1, by omega, hpayload⟩
    · rintro ⟨i, hnumber, hpayload⟩
      cases i with
      | zero => exact Or.inl ⟨hnumber, hpayload⟩
      | succ i => exact Or.inr ⟨i, by omega, hpayload⟩

/-- Payloads are replayed in the order of their ids. -/
theorem sorted_replayed : (replayed path disk number sizes).Pairwise fun a b => a.1 < b.1 := by
  induction sizes generalizing number with
  | nil => exact .nil
  | cons slotSize sizes ih =>
    rw [List.forall_mem_cons] at hheader
    have hfile := hslots slotSize List.mem_cons_self
    have hrest : Numberable path sizes disk :=
      fun slotSize hmem => hslots slotSize (List.mem_cons_of_mem _ hmem)
    have hslot : ∀ record ∈ (Shelf.open slotSize (fileContent path disk slotSize)).records,
        record.1 < 2 ^ 32 := by
      rintro ⟨slot, data⟩ hmem
      exact NumberableFile.slot_lt hheader.1 hfile ((Shelf.mem_records_open_iff hheader.1).mp hmem)
    rw [replayed, List.pairwise_append]
    refine ⟨?_, ih hheader.2 hrest, ?_⟩
    · rw [shelfRecords, List.pairwise_map]
      refine (Shelf.sorted_records_open slotSize _).imp_of_mem ?_
      rintro ⟨slot, data⟩ ⟨slot', data'⟩ hmem hmem' hlt
      exact (idOf_lt_idOf_iff (hslot _ hmem) (hslot _ hmem')).mpr (Or.inr ⟨rfl, hlt⟩)
    · rintro record hmem ⟨id', data'⟩ hmem'
      obtain ⟨⟨slot, data⟩, hfound, rfl⟩ := List.mem_map.mp hmem
      obtain ⟨i, hnumber, -⟩ := (mem_replayed_iff hheader.2 hrest).mp hmem'
      dsimp only
      rw [← idOf_shelfOf id', idOf_lt_idOf_iff (hslot _ hfound) (slotOf_lt id')]
      exact Or.inl (by omega)

end Shelves

/-- A shelf is opened when its file can be, and its payloads are replayed. -/
theorem exists_openShelf (number : Nat)
    (hfile : ∃ handle, (replay.disk.openFile (shelfPath path slotSize)).2 = .ok handle) :
    ∃ shelf, (openShelf path number slotSize replay).value = .ok shelf ∧
      (openShelf path number slotSize replay).state.records =
        replay.records ++ shelfRecords path replay.disk number slotSize := by
  obtain ⟨handle, hfile⟩ := hfile
  cases hopen : replay.disk.openFile (shelfPath path slotSize) with
  | mk disk result =>
    rw [hopen] at hfile
    dsimp only at hfile
    subst hfile
    obtain ⟨-, hdestination, -, -, hread, -⟩ := Disk.openFile_spec hopen
    have hcontent : disk.read handle = fileContent path replay.disk slotSize := by
      rw [hread, fileContent]
      exact congrArg (fun place => (replay.disk.content? place).getD [])
        (Disk.place_of_destination hdestination).symm
    refine ⟨{ (Shelf.open slotSize (disk.read handle)).shelf with handle }, ?_, ?_⟩
    · simp only [openShelf, hopen]
    · simp only [openShelf, hopen, shelfRecords, hcontent]

/-- Shelves are opened when their files can be, and their payloads are replayed. -/
theorem exists_openShelves (hlayout : sizes.Pairwise (· < ·))
    (hheader : ∀ slotSize ∈ sizes, slotHeaderSize < slotSize.toNat)
    (hslots : Numberable path sizes replay.disk)
    (hfiles : ∀ slotSize ∈ sizes, ∃ handle,
      (replay.disk.openFile (shelfPath path slotSize)).2 = .ok handle) (number : Nat) :
    ∃ shelves, (openShelves path number sizes replay).value = .ok shelves ∧
      (openShelves path number sizes replay).state.records =
        replay.records ++ replayed path replay.disk number sizes := by
  induction sizes generalizing number replay with
  | nil => exact ⟨[], rfl, (List.append_nil _).symm⟩
  | cons slotSize sizes ih =>
    rw [List.pairwise_cons] at hlayout
    rw [List.forall_mem_cons] at hheader hfiles
    obtain ⟨shelf, hshelf, hrecords⟩ := exists_openShelf number hfiles.1
    have hfile := hslots slotSize List.mem_cons_self
    obtain ⟨-, -, hextends, -⟩ := openShelf_spec hheader.1 hfile hshelf
    -- The other shelves find their files as they were, since they stand at other places.
    have hkept := fun other hother =>
      node?_openShelf_of_lt hheader.1 hfile hshelf (hlayout.1 other hother)
    obtain ⟨shelves, hshelves, hrecords'⟩ := ih hlayout.2 hheader.2
      (hslots.openShelf hlayout.1 hheader.1 hshelf)
      (fun other hother => Disk.exists_openFile_congr (hfiles.2 other hother) hextends
        (hkept other hother)) (number + 1)
    refine ⟨shelf :: shelves, ?_, ?_⟩
    · rw [openShelves, Action.bind_of_ok hshelf, Outcome.value_after, Action.bind_of_ok hshelves]
      rfl
    · rw [openShelves, Action.bind_of_ok hshelf, Outcome.state_after, Action.bind_of_ok hshelves,
        Outcome.state_after, Action.pure_apply, hrecords', hrecords, List.append_assoc, replayed,
        replayed_congr fun other hother => Disk.content?_congr (hkept other hother)]

/-- A store is opened wherever the system lets it be, and replays the payloads. -/
theorem open_of_openable (hlayout : layoutError? sizes = none) (hslots : Numberable path sizes disk)
    (h : Openable path sizes disk) :
    ∃ store, (ShelfStore.open path sizes { disk }).value = .ok store ∧
      (ShelfStore.open path sizes { disk }).state.records = replayed path disk 0 sizes := by
  obtain ⟨hpairwise, hheader⟩ := layout_of_layoutError? hlayout
  have hmade : (makeDirectory path { disk }).value = .ok () := by
    simp only [makeDirectory, h.directory, Except.mapError]
  obtain ⟨shelves, hshelves, hrecords⟩ :=
    exists_openShelves hpairwise hheader hslots.makeDirectory h.files 0
  have hopened : (ShelfStore.open path sizes { disk }).value = .ok ⟨path, shelves,
      (openShelves path 0 sizes (makeDirectory path { disk }).state).state.disk⟩ := by
    rw [ShelfStore.open, hlayout]
    dsimp only
    rw [Action.bind_of_ok hmade, Outcome.value_after, Action.bind_of_ok hshelves]
    rfl
  refine ⟨_, hopened, ?_⟩
  obtain ⟨-, -, -, hstate, -⟩ := open_eq_ok hopened
  rw [hstate, hrecords]
  exact replayed_congr (fun slotSize _ => Disk.content?_makeDirectories disk path _) 0

/-- The records of a store that was opened are the payloads. -/
theorem record?_open (hslots : Numberable path sizes disk)
    (hopen : (ShelfStore.open path sizes { disk }).value = .ok store)
    (hrecords : (ShelfStore.open path sizes { disk }).state.records =
      replayed path disk 0 sizes) : store.record? = payloads path sizes disk := by
  obtain ⟨hopenAt, hlists⟩ := open_spec hslots hopen
  have hheader := (layout_of_layoutError? (open_eq_ok hopen).1).2
  funext id
  refine Option.ext fun data => ?_
  have hlisted : (id, data) ∈ replayed path disk 0 sizes ↔ store.record? id = some data := by
    rw [← hrecords]
    exact hlists.mem_iff id data
  rw [← hlisted, mem_replayed_iff hheader hslots]
  simp only [Nat.zero_add, exists_eq_left', payloads]

namespace OpenAt

/-- The shelf of a slot size of a store that is open. -/
theorem exists_shelf (h : OpenAt path sizes store) (hsize : sizes[number]? = some slotSize) :
    ∃ shelf, store.shelves[number]? = some shelf ∧ shelf.slotSize = slotSize ∧
      store.disk.read shelf.handle = fileContent path store.disk slotSize := by
  rw [← h.sizes_eq, slotSizes, List.getElem?_map, Option.map_eq_some_iff] at hsize
  obtain ⟨shelf, hshelf, rfl⟩ := hsize
  have hattached := h.intact.attached_of_getElem? hshelf
  have hplace := hattached.place_eq
  rw [h.path_eq] at hplace
  obtain ⟨content, hnode⟩ := hattached.reaches
  refine ⟨shelf, hshelf, rfl, ?_⟩
  rw [fileContent, hplace, Disk.content?_eq_some_iff.mpr ⟨_, hnode⟩, Disk.read_of_node? hnode]
  rfl

/-- The payloads in the files of a store that is open are its records. -/
theorem payloads_eq (h : OpenAt path sizes store) :
    payloads path sizes store.disk = store.record? := by
  funext id
  cases hsize : sizes[shelfOf id]? with
  | none =>
    have hnone : store.shelves[shelfOf id]? = none := by
      rwa [← h.sizes_eq, slotSizes, List.getElem?_map, Option.map_eq_none_iff] at hsize
    rw [payloads, payload?, hsize, record?, hnone]
    rfl
  | some slotSize =>
    obtain ⟨shelf, hshelf, rfl, hread⟩ := h.exists_shelf hsize
    rw [payloads, payload?, hsize, record?_of_shelf hshelf, Option.bind_some, ← hread]
    exact (h.intact.attached_of_getElem? hshelf).laid.payloadAt_eq _

/-- In the files of a store that is open every slot without a payload is vacant. -/
theorem vacant (h : OpenAt path sizes store) (hsize : sizes[number]? = some slotSize)
    (hnone : payload? path sizes store.disk number slot = none) :
    Shelf.Vacant slotSize (fileContent path store.disk slotSize) slot := by
  obtain ⟨shelf, hshelf, rfl, hread⟩ := h.exists_shelf hsize
  have hlaid := (h.intact.attached_of_getElem? hshelf).laid
  rw [payload?, hsize, Option.bind_some, ← hread, hlaid.payloadAt_eq] at hnone
  rw [← hread]
  exact hlaid.vacant hnone

/-- The directory of a store that is open can be opened. -/
theorem openable (h : OpenAt path sizes store) : Openable path sizes store.disk := by
  obtain ⟨hintact, rfl, rfl⟩ := h
  obtain ⟨place, hwalk⟩ := hintact.directory
  have hmade : store.disk.makeDirectories store.path = (store.disk, .ok ()) :=
    Disk.makeDirectories_of_walk hintact.accepted hwalk
  refine ⟨by rw [hmade], fun slotSize hmem => ?_⟩
  obtain ⟨shelf, hshelf, rfl⟩ := List.mem_map.mp hmem
  obtain ⟨haccepted, hdestination, hreaches, -, -⟩ := hintact.attached shelf hshelf
  refine ⟨shelf.handle, ?_⟩
  rw [hmade, Disk.openFile_of_reaches haccepted hdestination hreaches]

end OpenAt

end ShelfStore

end BlobLimbo
