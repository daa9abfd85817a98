import BlobLimbo.Store.Error
import BlobLimbo.Bytes
import Std.Data.ExtTreeSet

/-!
# Shelves

A shelf is a file of slots of one size. A slot starts with the length of its record in four bytes,
most significant first; the record follows, and zeros fill the rest. A slot of length zero is free.

The functions here work on the bytes of the file. What a shelf remembers between operations is how
many slots the file has and which of them are free, its gaps. New records go into the lowest gap,
and free slots at the end of the file are cut off.
-/

namespace BlobLimbo

namespace Bytes

/-- Cuts a file to a length, or fills it up with zeros. -/
def resize (content : Bytes) (length : Nat) : Bytes :=
  content.take length ++ List.replicate (length - content.length) 0

/-- Writes bytes into a file from an offset on. A gap before the offset is filled with zeros. -/
def overwrite (content : Bytes) (offset : Nat) (data : Bytes) : Bytes :=
  content.resize offset ++ data ++ content.drop (offset + data.length)

end Bytes

/-- The number of bytes that hold the length of a slot's record. -/
def slotHeaderSize : Nat := 4

/-- What a shelf remembers about its file. -/
structure Shelf where
  /-- The size of every slot, header included. -/
  slotSize : UInt32
  /-- The number of slots in the file, free ones included. -/
  slots : Nat
  /-- The free slots. -/
  gaps : Std.ExtTreeSet Nat := ∅

/-- What the bytes of a slot say. -/
inductive SlotContent where
  /-- The slot is free. -/
  | free
  /-- The slot holds a record. -/
  | record (data : Bytes)
  /-- The header announces more bytes than the slot has. -/
  | corrupt (size : Nat)
  deriving DecidableEq

namespace Shelf

/-- The name of the file that holds slots of a size: the size in at least eight digits. -/
def fileName (slotSize : UInt32) : String :=
  "shelf-" ++ String.ofList ((Nat.toDigits 10 slotSize.toNat).leftpad 8 '0') ++ ".dat"

/-- The longest record that fits a slot. -/
def capacity (shelf : Shelf) : Nat :=
  shelf.slotSize.toNat - slotHeaderSize

/-- Where a slot starts in the file. -/
def offset (shelf : Shelf) (slot : Nat) : Nat :=
  slot * shelf.slotSize.toNat

/-- The bytes of a record's slot: its length, the record, and zeros. -/
def slotImage (shelf : Shelf) (data : Bytes) : Bytes :=
  (Bytes.ofNat slotHeaderSize data.length ++ data).resize shelf.slotSize.toNat

/-- Puts zero into the header of a slot. -/
def clearHeader (shelf : Shelf) (content : Bytes) (slot : Nat) : Bytes :=
  content.overwrite (shelf.offset slot) (Bytes.ofNat slotHeaderSize 0)

/-- Counts down the slots at the end that are gaps. -/
def trim : (slots : Nat) → Std.ExtTreeSet Nat → Nat × Std.ExtTreeSet Nat
  | 0, gaps => (0, gaps)
  | slots + 1, gaps => if slots ∈ gaps then trim slots (gaps.erase slots) else (slots + 1, gaps)

/-- Cuts the free slots off the end of the file. -/
def trimTail (shelf : Shelf) (content : Bytes) : Shelf × Bytes :=
  let (slots, gaps) := trim shelf.slots shelf.gaps
  ({ shelf with slots, gaps },
    if slots = shelf.slots then content else content.resize (shelf.offset slots))

/-- Puts a record into the lowest gap, or into a new slot at the end. Slots are numbered in 32
bits, so a shelf without gaps is full at `2 ^ 32` slots. -/
def insert (shelf : Shelf) (content : Bytes) (data : Bytes) :
    Except StoreError (Nat × Shelf × Bytes) :=
  match shelf.gaps.min? with
  | some slot =>
    .ok (slot, { shelf with gaps := shelf.gaps.erase slot },
      content.overwrite (shelf.offset slot) (shelf.slotImage data))
  | none =>
    if 0xFFFFFFFF < shelf.slots then .error (.shelfFull shelf.slotSize)
    else
      .ok (shelf.slots, { shelf with slots := shelf.slots + 1 },
        content.overwrite (shelf.offset shelf.slots) (shelf.slotImage data))

/-- Accepts a slot that exists and is no gap. The id is for the error. -/
def checkSlot (shelf : Shelf) (id slot : Nat) : Except StoreError Unit :=
  if shelf.slots ≤ slot then .error (.slotOutOfBounds id)
  else if slot ∈ shelf.gaps then .error (.emptySlot id)
  else .ok ()

/-- The record in a slot. The id is for the error. -/
def read (shelf : Shelf) (content : Bytes) (id slot : Nat) : Except StoreError Bytes := do
  shelf.checkSlot id slot
  let here := content.drop (shelf.offset slot)
  let header := here.take slotHeaderSize
  if header.length < slotHeaderSize then throw (.io .unexpectedEof)
  let size := Bytes.toNat header
  if size = 0 then throw (.emptySlot id)
  if shelf.capacity < size then throw (.io (.corruptHeader slot size shelf.capacity))
  let data := (here.drop slotHeaderSize).take size
  if data.length < size then throw (.io .unexpectedEof)
  return data

/-- Frees a slot. The id is for the error. -/
def delete (shelf : Shelf) (content : Bytes) (id slot : Nat) :
    Except StoreError (Shelf × Bytes) := do
  shelf.checkSlot id slot
  let freed := { shelf with gaps := shelf.gaps.insert slot }
  return freed.trimTail (shelf.clearHeader content slot)

/-- What the bytes of one slot say. -/
def slotContent (shelf : Shelf) (bytes : Bytes) : SlotContent :=
  let size := Bytes.toNat (bytes.take slotHeaderSize)
  if size = 0 then .free
  else if shelf.capacity < size then .corrupt size
  else .record ((bytes.drop slotHeaderSize).take size)

/-- What the first `count` slots of a file say, with their numbers from `first` on. -/
def scan (shelf : Shelf) (first : Nat) : (count : Nat) → Bytes → List (Nat × SlotContent)
  | 0, _ => []
  | count + 1, content =>
    (first, shelf.slotContent (content.take shelf.slotSize.toNat)) ::
      shelf.scan (first + 1) count (content.drop shelf.slotSize.toNat)

/-- What opening a shelf found and left. -/
structure Opened where
  /-- The shelf. -/
  shelf : Shelf
  /-- Its file, repaired. -/
  content : Bytes
  /-- The records by slot. -/
  records : List (Nat × Bytes)
  /-- The corrupt slots with the length their header announced. -/
  corrupt : List (Nat × Nat)

/-- Opens a file as a shelf and repairs it: a slot that is cut short at the end is cut off, corrupt
slots are freed, and free slots at the end are cut off. -/
def «open» (slotSize : UInt32) (content : Bytes) : Opened :=
  let slots := content.length / slotSize.toNat
  let shelf : Shelf := { slotSize, slots }
  let whole :=
    if content.length % slotSize.toNat = 0 then content else content.resize (shelf.offset slots)
  let found := shelf.scan 0 slots whole
  let records := found.filterMap fun
    | (slot, .record data) => some (slot, data)
    | _ => none
  let corrupt := found.filterMap fun
    | (slot, .corrupt size) => some (slot, size)
    | _ => none
  let gaps := found.filterMap fun
    | (_, .record _) => none
    | (slot, _) => some slot
  let cleared := corrupt.foldl (fun content slot => shelf.clearHeader content slot.1) whole
  let trimmed := { shelf with gaps := .ofList gaps }.trimTail cleared
  { shelf := trimmed.1, content := trimmed.2, records, corrupt }

end Shelf

end BlobLimbo
