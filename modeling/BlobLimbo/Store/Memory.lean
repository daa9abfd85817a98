import BlobLimbo.Store.Basic
import Std.Data.ExtTreeMap

/-!
# Stores in memory

A store without files. Ids are handed out one after the other and never again. Any operation can
be told to fail a number of times, which is how the error paths of a limbo are reached.
-/

namespace BlobLimbo

/-- The operations of a store in memory that can be told to fail. -/
inductive StoreOperation where
  | put
  | get
  | delete
  deriving DecidableEq, Repr

/-- The name of an operation in the text of its failures. -/
def StoreOperation.label : StoreOperation → String
  | .put => "Put"
  | .get => "Get"
  | .delete => "Delete"

/-- How many of the next calls of each operation fail. The counts wrap around at 64 bits. -/
structure PendingFailures where
  /-- Calls that store a record. -/
  put : UInt64 := 0
  /-- Calls that read a record. -/
  get : UInt64 := 0
  /-- Calls that delete a record. -/
  delete : UInt64 := 0
  deriving DecidableEq, Repr

namespace PendingFailures

/-- The count of one operation. -/
def count (pending : PendingFailures) : StoreOperation → UInt64
  | .put => pending.put
  | .get => pending.get
  | .delete => pending.delete

/-- Replaces the count of one operation. -/
def withCount (pending : PendingFailures) (n : UInt64) : StoreOperation → PendingFailures
  | .put => { pending with put := n }
  | .get => { pending with get := n }
  | .delete => { pending with delete := n }

end PendingFailures

/-- A store that keeps its records in memory. -/
structure MemoryStore where
  /-- The records by id. -/
  records : Std.ExtTreeMap SlotId Bytes := ∅
  /-- The id of the next record. Ids are not used again, and no run gets to `2 ^ 64` records. -/
  nextId : SlotId := 0
  /-- The failures still to come. -/
  pending : PendingFailures := {}

namespace MemoryStore

/-- A store without records. -/
def empty : MemoryStore := {}

/-- Keeps a record under the next id. -/
def append (store : MemoryStore) (data : Bytes) : MemoryStore :=
  { store with records := store.records.insert store.nextId data, nextId := store.nextId + 1 }

/-- A store that holds the given records, numbered from zero. They need not be entries. -/
def ofRecords (records : List Bytes) : MemoryStore :=
  records.foldl append empty

/-- The records in the order of their ids. -/
def replay (store : MemoryStore) : List Record :=
  store.records.toList

/-- Lets the next `times` further calls of an operation fail. -/
def failNext (store : MemoryStore) (operation : StoreOperation) (times : UInt64) :
    MemoryStore :=
  { store with
    pending := store.pending.withCount (store.pending.count operation + times) operation }

/-- Uses up a pending failure of the operation, if there is one. -/
def admission (operation : StoreOperation) : Action StoreError MemoryStore Unit := fun store =>
  let count := store.pending.count operation
  if count = 0 then Action.done () store
  else
    Action.fail (.io (.injected operation.label))
      { store with pending := store.pending.withCount (count - 1) operation }

/-- Keeps a record under the next id. -/
def put (data : Bytes) : Action StoreError MemoryStore SlotId := do
  admission .put
  if data.isEmpty then Action.fail .emptyRecord
  else
    let store ← Action.current
    Action.modify (append · data)
    return store.nextId

/-- The record kept under an id. -/
def get (id : SlotId) : Action StoreError MemoryStore Bytes := do
  admission .get
  let store ← Action.current
  match store.records[id]? with
  | some data => return data
  | none => Action.fail (.emptySlot id)

/-- Gives up the record kept under an id. -/
def delete (id : SlotId) : Action StoreError MemoryStore Unit := do
  admission .delete
  let store ← Action.current
  if id ∈ store.records then
    Action.modify fun store => { store with records := store.records.erase id }
  else Action.fail (.emptySlot id)

instance : SlotStore MemoryStore where
  put := put
  get := get
  delete := delete
  close := Action.done ()

end MemoryStore

end BlobLimbo
