import BlobLimbo.FixedBytes
import BlobLimbo.Store.Basic
import Std.Data.ExtTreeMap
import Std.Data.ExtTreeSet

/-!
# The limbo's index

Which transaction is kept in which slot, and which slots belong to which block. The index is
rebuilt from the stored entries and is never stored itself.
-/

namespace BlobLimbo

/-- What the index knows about a slot. -/
structure Tracked where
  /-- The transaction whose entry is in the slot. -/
  owner : TxHash
  /-- The block of that entry. -/
  block : UInt64
  deriving DecidableEq

/-- A slot a sweep has taken out of the index. -/
structure Evicted where
  /-- The slot. -/
  id : SlotId
  /-- The transaction whose entry is in the slot. -/
  owner : TxHash
  /-- The block the slot was grouped under. -/
  block : UInt64
  deriving DecidableEq

/-- The slots by owner and by block. -/
structure Index where
  /-- The slot of each transaction. -/
  owners : Std.ExtTreeMap TxHash SlotId := ∅
  /-- Owner and block of each slot. -/
  slots : Std.ExtTreeMap SlotId Tracked := ∅
  /-- The slots of each block. -/
  groups : Std.ExtTreeMap UInt64 (Std.ExtTreeSet SlotId) := ∅

namespace Index

/-- The index of an empty store. -/
def empty : Index := {}

/-- The number of transactions. -/
def size (index : Index) : Nat :=
  index.owners.size

/-- Whether a transaction has a slot. -/
def contains (index : Index) (owner : TxHash) : Bool :=
  index.owners.contains owner

/-- The slot of a transaction. -/
def slotOf (index : Index) (owner : TxHash) : Option SlotId :=
  index.owners[owner]?

/-- What is known about a slot. -/
def slot (index : Index) (id : SlotId) : Option Tracked :=
  index.slots[id]?

/-- The number of slots of each block, lowest block first. -/
def groupSizes (index : Index) : List (UInt64 × Nat) :=
  index.groups.toList.map fun (block, ids) => (block, ids.size)

/-- Adds a slot to the group of a block. -/
def joinGroup (groups : Std.ExtTreeMap UInt64 (Std.ExtTreeSet SlotId)) (block : UInt64)
    (id : SlotId) : Std.ExtTreeMap UInt64 (Std.ExtTreeSet SlotId) :=
  groups.insert block ((groups.getD block ∅).insert id)

/-- Takes a slot out of the group of a block. A group that becomes empty goes away. -/
def leaveGroup (groups : Std.ExtTreeMap UInt64 (Std.ExtTreeSet SlotId)) (block : UInt64)
    (id : SlotId) : Std.ExtTreeMap UInt64 (Std.ExtTreeSet SlotId) :=
  match groups[block]? with
  | none => groups
  | some ids =>
    let remaining := ids.erase id
    if remaining.isEmpty then groups.erase block else groups.insert block remaining

/-- Registers a slot for a transaction and a block, unless the transaction has a slot already. -/
def insert? (index : Index) (owner : TxHash) (block : UInt64) (id : SlotId) : Option Index :=
  if index.owners.contains owner then none
  else
    some {
      owners := index.owners.insert owner id
      slots := index.slots.insert id ⟨owner, block⟩
      groups := joinGroup index.groups block id }

/-- Forgets a slot, given the owner and block found in its record. What the index itself knows
about the slot is forgotten too, so a record that disagrees with the index leaves nothing behind. -/
def remove (index : Index) (owner : TxHash) (block : UInt64) (id : SlotId) : Index :=
  let owners := index.owners.erase owner
  let groups := leaveGroup index.groups block id
  match index.slots[id]? with
  | none => { index with owners, groups }
  | some tracked =>
    { owners := if tracked.owner ≠ owner ∧ owners[tracked.owner]? = some id
        then owners.erase tracked.owner else owners
      slots := index.slots.erase id
      groups := if tracked.block ≠ block then leaveGroup groups tracked.block id else groups }

/-- Forgets the slots of some groups one by one and lists those that were known. -/
def evict (index : Index) : List (UInt64 × SlotId) → List Evicted × Index
  | [] => ([], index)
  | (block, id) :: rest =>
    match index.slots[id]? with
    | none => index.evict rest
    | some tracked =>
      let next := { index with
        owners := index.owners.erase tracked.owner
        slots := index.slots.erase id }
      let (evicted, last) := next.evict rest
      (⟨id, tracked.owner, block⟩ :: evicted, last)

/-- The slots of each group, by block and then by id. -/
def grouped (groups : Std.ExtTreeMap UInt64 (Std.ExtTreeSet SlotId)) : List (UInt64 × SlotId) :=
  groups.toList.flatMap fun (block, ids) => ids.toList.map fun id => (block, id)

/-- Takes out every group at or below a block and lists the slots that were in them. -/
def splitFinalized (index : Index) (finalized : UInt64) : List Evicted × Index :=
  let kept := index.groups.filter fun block _ => finalized < block
  let gone := index.groups.filter fun block _ => block ≤ finalized
  { index with groups := kept }.evict (grouped gone)

end Index

end BlobLimbo
