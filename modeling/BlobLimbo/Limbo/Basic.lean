import BlobLimbo.Entry
import BlobLimbo.Index
import BlobLimbo.Metrics.Limbo

/-!
# Limbos

An indexed store of the blobs of recently included transactions, kept until their block is final.
Blobs are not part of the chain: when a reorg takes a transaction out of a block again, the limbo
is the only place its blobs can come from. They enter by `push`, change block by `update`, leave by
`pull` when their transaction goes back to the pool, and by `finalize` when their block is final.

A limbo works the same over any slot store. This module holds the limbo itself and what can be
read off it.
-/

namespace BlobLimbo

/-- A limbo over a store of type `S`. -/
structure Limbo (S : Type) where
  /-- Where the entries are kept. -/
  store : S
  /-- Which entry is where. -/
  index : Index := {}
  /-- What was recorded, if metrics are enabled. -/
  ledger : Option Metrics.Ledger := none

/-- What an update did. -/
inductive Update where
  /-- The transaction is not held. -/
  | untracked
  /-- The transaction is in that block already. -/
  | unchanged
  /-- The entry was stored anew under another block. -/
  | moved (source target : UInt64)
  deriving DecidableEq

/-- A finalized entry whose record is still in the store. The limbo no longer tracks it. -/
structure EvictionFailure where
  /-- Owner of the entry. -/
  tx : TxHash
  /-- Block of the entry. -/
  block : UInt64
  /-- Slot of the record. -/
  id : SlotId
  /-- Why it could not be deleted. -/
  cause : StoreError
  deriving DecidableEq

/-- What a sweep did. -/
inductive Finalization where
  /-- No block is final yet. -/
  | noFinalizedBlock
  /-- Everything at or below the finalized block is gone from the index. -/
  | swept (evicted : Nat) (failures : List EvictionFailure)
  deriving DecidableEq

namespace Limbo

variable {S : Type}

/-- The number of tracked transactions. -/
def size (limbo : Limbo S) : Nat :=
  limbo.index.size

/-- Whether no transaction is tracked. -/
def isEmpty (limbo : Limbo S) : Bool :=
  limbo.index.size = 0

/-- Whether a transaction is tracked. -/
def contains (limbo : Limbo S) (tx : TxHash) : Bool :=
  limbo.index.contains tx

/-- The block a transaction is tracked under. -/
def trackedBlock (limbo : Limbo S) (tx : TxHash) : Option UInt64 :=
  ((limbo.index.slotOf tx).bind limbo.index.slot).map Tracked.block

/-- The number of tracked transactions of each block, lowest block first. -/
def groupSizes (limbo : Limbo S) : List (UInt64 × Nat) :=
  limbo.index.groupSizes

/-- Replaces the store. -/
def withStore (limbo : Limbo S) (store : S) : Limbo S :=
  { limbo with store }

/-- Replaces the index. -/
def withIndex (limbo : Limbo S) (index : Index) : Limbo S :=
  { limbo with index }

/-- Enables metrics, recording into the given ledger. -/
def withMetrics (ledger : Metrics.Ledger) (limbo : Limbo S) : Limbo S :=
  { limbo with ledger := some ledger.describeLimbo.zeroLimbo }

/-- Publishes how much is tracked. -/
def reportMetrics (limbo : Limbo S) : Limbo S :=
  { limbo with
    ledger := limbo.ledger.map fun ledger =>
      ledger.gaugeLimbo limbo.size limbo.groupSizes.length }

/-- Runs an operation of the store. -/
def onStore {α : Type} (action : Action StoreError S α) : Action LimboError (Limbo S) α :=
  (action.mapError LimboError.store).within store withStore

/-- Records the outcome of a call, if metrics are enabled. -/
def observed {α : Type} (method : Metrics.Method) (action : Action LimboError (Limbo S) α) :
    Action LimboError (Limbo S) α := fun limbo =>
  let outcome := action limbo
  outcome.mapState fun limbo =>
    { limbo with
      ledger := limbo.ledger.map fun ledger => ledger.observeCall method outcome.value.isOk }

end Limbo

end BlobLimbo
