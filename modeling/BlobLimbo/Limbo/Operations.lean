import BlobLimbo.Limbo.Basic

/-!
# Operations of a limbo

A failing operation leaves behind what it had done up to the failure: an update whose second half
fails has lost its entry, and a sweep goes on past records that cannot be deleted.
-/

namespace BlobLimbo.Limbo

variable {S : Type} [SlotStore S]

/-- Reads an entry and takes it out of the index and the store. The index forgets the slot under
the owner and block found in the entry itself. -/
def take (id : SlotId) : Action LimboError (Limbo S) Entry := do
  let data ← onStore (SlotStore.get id)
  let entry ← Action.ofExcept ((Entry.decode data).mapError LimboError.decode)
  Action.modify fun limbo => limbo.withIndex (limbo.index.remove entry.owner entry.block id)
  onStore (SlotStore.delete id)
  return entry

/-- Stores an entry and registers it in the index. -/
def insert (entry : Entry) : Action LimboError (Limbo S) Unit := do
  let id ← onStore (SlotStore.put entry.encode)
  let limbo ← Action.current
  match limbo.index.insert? entry.owner entry.block id with
  | some index => Action.modify (withIndex · index)
  | none =>
    onStore (SlotStore.delete id)
    Action.fail (.alreadyTracked entry.owner)

/-- Keeps the blobs of a transaction that was included in a block. A transaction that is tracked
already is refused, and its entry stays as it is. -/
def push (tx : TxHash) (block : UInt64) (sidecar : Sidecar) : Action LimboError (Limbo S) Unit :=
  observed .push do
    let limbo ← Action.current
    if limbo.contains tx then
      Action.report (.limbo (.pushTracked tx))
      Action.fail (.alreadyTracked tx)
    else
      (insert ⟨tx, block, sidecar⟩).reportFailure fun cause => .limbo (.storeFailed tx cause)

/-- Hands back the blobs of a transaction and forgets it. -/
def pull (tx : TxHash) : Action LimboError (Limbo S) Sidecar :=
  observed .pull do
    let limbo ← Action.current
    match limbo.index.slotOf tx with
    | none =>
      Action.report (.limbo (.pullUntracked tx))
      Action.fail (.notTracked tx)
    | some id =>
      let entry ← (take id).reportFailure fun cause => .limbo (.takeFailed tx id cause)
      return entry.sidecar

/-- Moves a transaction to another block. Its entry is taken out and stored again, so a failure
may lose it. -/
def update (tx : TxHash) (block : UInt64) : Action LimboError (Limbo S) Update :=
  observed .update do
    let limbo ← Action.current
    match limbo.index.slotOf tx with
    | none =>
      Action.report (.limbo (.updateUntracked tx))
      return .untracked
    | some id =>
      if (limbo.index.slot id).map Tracked.block = some block then
        Action.report (.limbo (.updateUnchanged tx block))
        return .unchanged
      else
        let entry ← (take id).reportFailure fun cause => .limbo (.takeFailed tx id cause)
        (insert ⟨tx, block, entry.sidecar⟩).reportFailure fun cause =>
          .limbo (.storeFailed tx cause)
        Action.report (.limbo (.moved tx entry.block block))
        return .moved entry.block block

/-- Deletes the records of evicted slots. A failure is noted and the sweep goes on. -/
def deleteEvicted (store : S) : List Evicted → Outcome S (List EvictionFailure)
  | [] => { value := [], state := store }
  | slot :: rest =>
    match SlotStore.delete slot.id store with
    | { value := .ok (), state, events } => (deleteEvicted state rest).after events
    | { value := .error cause, state, events } =>
      ((deleteEvicted state rest).map (⟨slot.owner, slot.block, slot.id, cause⟩ :: ·)).after
        (events ++ [.limbo (.evictionFailed slot.block slot.id cause)])

/-- Evicts every entry at or below the finalized block. -/
def finalize (finalized : Option UInt64) (limbo : Limbo S) : Outcome (Limbo S) Finalization :=
  match finalized with
  | none =>
    { value := .noFinalizedBlock, state := limbo, events := [.limbo .nothingFinalized] }
  | some block =>
    let (evicted, index) := limbo.index.splitFinalized block
    let { value := failures, state := store, events } := deleteEvicted limbo.store evicted
    { value := .swept evicted.length failures
      state := {
        store, index
        ledger := limbo.ledger.map (·.countSweep evicted.length failures.length) }
      events := events ++ [.limbo (.swept block evicted.length failures.length)] }

/-- Releases the store. -/
def close : Action LimboError (Limbo S) Unit :=
  onStore SlotStore.close

end BlobLimbo.Limbo
