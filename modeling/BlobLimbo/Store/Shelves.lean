import BlobLimbo.Disk
import BlobLimbo.Store.Basic
import BlobLimbo.Store.Shelf

/-!
# Stores on disk

A store on disk is a directory with one shelf for each slot size. A record goes to the shelf of
the smallest slots it fits. The id of a record holds the number of its shelf in the high bits and
the number of its slot in the low 32 bits.
-/

namespace BlobLimbo

/-- A shelf and its open file. -/
structure OpenShelf extends Shelf where
  /-- The file. -/
  handle : Handle

/-- An open store on disk, with the disk it is on. -/
structure ShelfStore where
  /-- The store's directory, as it was given. -/
  path : String
  /-- The shelves, smallest slots first. -/
  shelves : List OpenShelf
  /-- The disk. -/
  disk : Disk

/-- What opening a store works on. -/
structure Replay where
  /-- The disk. -/
  disk : Disk
  /-- The records found so far. -/
  records : List Record := []

namespace ShelfStore

/-- The number of low bits of an id that number the slot. -/
def slotBits : Nat := 32

/-- The id of a slot of a shelf. -/
def idOf (shelf slot : Nat) : SlotId :=
  (shelf <<< slotBits) ||| slot

/-- The shelf an id leads to. -/
def shelfOf (id : SlotId) : Nat :=
  id >>> slotBits

/-- The slot on that shelf. -/
def slotOf (id : SlotId) : Nat :=
  id % (1 <<< slotBits)

/-- The path of the shelf of a slot size, as it is written. -/
def shelfPath (path : String) (slotSize : UInt32) : String :=
  Path.joinText path (Shelf.fileName slotSize)

/-- The first two neighbours that do not increase. -/
def firstUnordered : List UInt32 → Option (UInt32 × UInt32)
  | previous :: next :: rest =>
    if next ≤ previous then some (previous, next) else firstUnordered (next :: rest)
  | _ => none

/-- Why slot sizes cannot be used: there are none, two neighbours do not increase, or the first
one holds no more than a header. -/
def layoutError? (sizes : List UInt32) : Option StoreError :=
  match sizes, firstUnordered sizes with
  | [], _ => some .noShelves
  | _, some (previous, next) => some (.unorderedSlotSizes previous next)
  | first :: _, none =>
    if first.toNat ≤ slotHeaderSize then some (.slotSizeTooSmall first) else none

/-- Opens the shelf of a slot size in a directory and replays its records. -/
def openShelf (path : String) (number : Nat) (slotSize : UInt32) :
    Action StoreError Replay OpenShelf := fun replay =>
  let file := shelfPath path slotSize
  match replay.disk.openFile file with
  | (disk, .error cause) => { value := .error (.io cause), state := { replay with disk } }
  | (disk, .ok handle) =>
    let content := disk.read handle
    let opened := Shelf.open slotSize content
    let torn := content.length % slotSize.toNat ≠ 0
    { value := .ok { opened.shelf with handle }
      state := {
        disk := disk.write handle opened.content
        records := replay.records ++
          opened.records.map fun (slot, data) => (idOf number slot, data) }
      events :=
        (if torn then [.store (.truncatingTail file content.length slotSize)] else []) ++
          opened.corrupt.map fun (slot, size) =>
            .store (.droppingCorrupt file slot size opened.shelf.capacity) }

/-- Opens the shelves of some slot sizes, numbered from `number` on. -/
def openShelves (path : String) (number : Nat) :
    List UInt32 → Action StoreError Replay (List OpenShelf)
  | [] => Action.done []
  | slotSize :: rest => do
    let shelf ← openShelf path number slotSize
    let shelves ← openShelves path (number + 1) rest
    return shelf :: shelves

/-- Makes the store's directory as far as it is missing. -/
def makeDirectory (path : String) : Action StoreError Replay Unit := fun replay =>
  let (disk, made) := replay.disk.makeDirectories path
  { value := made.mapError .io, state := { replay with disk } }

/-- Opens a store in a directory, with the given slot sizes, and replays its records. Sizes that
cannot be used are refused before anything on disk is touched. -/
def «open» (path : String) (sizes : List UInt32) : Action StoreError Replay ShelfStore := do
  match layoutError? sizes with
  | some error => Action.fail error
  | none =>
    makeDirectory path
    let shelves ← openShelves path 0 sizes
    let replay ← Action.current
    Action.report (.store (.opened path shelves.length replay.records.length))
    return { path, shelves, disk := replay.disk }

/-- The slot sizes of the shelves. -/
def slotSizes (store : ShelfStore) : List UInt32 :=
  store.shelves.map fun shelf => shelf.slotSize

/-- The longest record the store takes. -/
def maxRecordSize (store : ShelfStore) : Nat :=
  match store.shelves.getLast? with
  | some shelf => shelf.capacity
  | none => 0

/-- Replaces a shelf and the content of its file. -/
def setShelf (store : ShelfStore) (number : Nat) (old : OpenShelf) (shelf : Shelf)
    (content : Bytes) : ShelfStore :=
  { store with
    shelves := store.shelves.set number { shelf with handle := old.handle }
    disk := store.disk.write old.handle content }

/-- Keeps a record on the first shelf whose slots it fits. -/
def put (data : Bytes) : Action StoreError ShelfStore SlotId := fun store =>
  if data.isEmpty then Action.fail .emptyRecord store
  else
    let number := store.shelves.findIdx fun shelf => data.length ≤ shelf.capacity
    match store.shelves[number]? with
    | none => Action.fail (.recordTooLarge data.length store.maxRecordSize) store
    | some shelf =>
      match shelf.insert (store.disk.read shelf.handle) data with
      | .error error => Action.fail error store
      | .ok (slot, next, content) =>
        let id := idOf number slot
        { value := .ok id
          state := store.setShelf number shelf next content
          events := [.store (.stored id data.length)] }

/-- The record kept under an id. -/
def get (id : SlotId) : Action StoreError ShelfStore Bytes := fun store =>
  match store.shelves[shelfOf id]? with
  | none => Action.fail (.unknownShelf id) store
  | some shelf =>
    Action.ofExcept (shelf.read (store.disk.read shelf.handle) id (slotOf id)) store

/-- Gives up the record kept under an id. -/
def delete (id : SlotId) : Action StoreError ShelfStore Unit := fun store =>
  match store.shelves[shelfOf id]? with
  | none => Action.fail (.unknownShelf id) store
  | some shelf =>
    match shelf.delete (store.disk.read shelf.handle) id (slotOf id) with
    | .error error => Action.fail error store
    | .ok (next, content) =>
      { value := .ok ()
        state := store.setShelf (shelfOf id) shelf next content
        events := [.store (.deleted id)] }

/-- Everything is on disk already; closing only reports. -/
def close : Action StoreError ShelfStore Unit := do
  let store ← Action.current
  Action.report (.store (.closed store.path))

instance : SlotStore ShelfStore where
  put := put
  get := get
  delete := delete
  close := close

end ShelfStore

end BlobLimbo
