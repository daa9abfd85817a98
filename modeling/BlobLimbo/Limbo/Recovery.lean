import BlobLimbo.Limbo.Basic

/-!
# Recovery of a limbo

When a store is opened it lists the records it holds. The first entry of each owner is tracked;
every other record is deleted, and reported with the reason.
-/

namespace BlobLimbo.Limbo

variable {S : Type}

/-- Puts the entry in a record into an index, or says why that cannot be. -/
def indexRecord (index : Index) (record : Record) : Except LimboEvent Index :=
  match Entry.decode record.2 with
  | .error cause => .error (.undecodable record.1 cause)
  | .ok entry =>
    match index.insert? entry.owner entry.block record.1 with
    | some next => .ok next
    | none => .error (.duplicate entry.owner record.1)

/-- Puts the entries of replayed records into an index, and lists the records that are left over:
those that are no entries, and those whose owner was seen before. -/
def indexRecords (index : Index) : List Record → Outcome Index (List SlotId)
  | [] => { value := [], state := index }
  | record :: rest =>
    match indexRecord index record with
    | .ok next => indexRecords next rest
    | .error event =>
      ((indexRecords index rest).map (record.1 :: ·)).after [.limbo event]

variable [SlotStore S]

/-- Deletes records until one deletion fails. -/
def deleteAll : List SlotId → Action StoreError S Unit
  | [] => Action.done ()
  | id :: rest => do
    SlotStore.delete id
    deleteAll rest

/-- Closes the store when an action on it fails. The failure is returned all the same. -/
def closingOnFailure (action : Action StoreError S Unit) : Action StoreError S Unit := fun store =>
  match action store with
  | { value := .ok value, state, events } => { value := .ok value, state, events }
  | { value := .error cause, state, events } =>
    let closing := SlotStore.close.reportFailure (.limbo ∘ .closeFailed) state
    { value := .error cause, state := closing.state, events := events ++ closing.events }

/-- Deletes the records that found no place in the index, and closes the store if that fails. -/
def dropInvalid (ids : List SlotId) : Action StoreError S Unit := do
  if ids ≠ [] then
    Action.report (.limbo (.droppingInvalid ids))
    closingOnFailure ((deleteAll ids).reportFailure (.limbo ∘ .dropFailed))

/-- Builds the index of a store from the records it replayed. Records that find no place in the
index are deleted; when that fails the store is closed. -/
def recover (store : S) (records : List Record) : Outcome (Limbo S) (Except LimboError Unit) :=
  let indexed := indexRecords {} records
  let finish : Action LimboError (Limbo S) Unit := do
    onStore (dropInvalid indexed.value)
    Action.report (.limbo (.indexed indexed.state.size indexed.value.length))
  (finish { store, index := indexed.state }).after indexed.events

end BlobLimbo.Limbo
