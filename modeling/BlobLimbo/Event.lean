import BlobLimbo.Error

/-!
# Log events

What the library reports while it works. An event says what happened; its level, target, text and
fields follow from that. Stores, limbos and operator commands each report under their own target.
-/

namespace BlobLimbo

/-- How much an event matters, most first. -/
inductive Level where
  | error
  | warn
  | info
  | debug
  | trace
  deriving DecidableEq, Repr

namespace Level

/-- The name of a level in upper case. -/
def label : Level → String
  | .error => "ERROR"
  | .warn => "WARN"
  | .info => "INFO"
  | .debug => "DEBUG"
  | .trace => "TRACE"

/-- The verbosity a level needs, from one up. -/
def verbosity : Level → Nat
  | .error => 1
  | .warn => 2
  | .info => 3
  | .debug => 4
  | .trace => 5

end Level

/-- The value of a field of an event. -/
inductive FieldValue where
  /-- A number, kept as a number in structured logs. -/
  | number (n : Nat)
  /-- Text as it is displayed. -/
  | text (s : String)
  deriving DecidableEq, Repr

/-- The value as displayed. -/
def FieldValue.display : FieldValue → String
  | .number n => toString n
  | .text s => s

/-- What a store on disk reports. -/
inductive StoreEvent where
  /-- A shelf file ends inside a slot. -/
  | truncatingTail (path : String) (length : Nat) (slotSize : UInt32)
  /-- A slot's header announces more than the slot can hold. -/
  | droppingCorrupt (path : String) (slot size capacity : Nat)
  /-- A store was opened. -/
  | opened (path : String) (shelves replayed : Nat)
  /-- A record was stored. -/
  | stored (id size : Nat)
  /-- A record was deleted. -/
  | deleted (id : Nat)
  /-- A store was closed. -/
  | closed (path : String)
  deriving DecidableEq, Repr

/-- What a limbo reports. -/
inductive LimboEvent where
  /-- A replayed record is no entry. -/
  | undecodable (id : Nat) (cause : Rlp.DecodeError)
  /-- A replayed record belongs to an owner that was seen before. -/
  | duplicate (owner : TxHash) (id : Nat)
  /-- These records are about to be deleted. -/
  | droppingInvalid (ids : List Nat)
  /-- One of them could not be deleted. -/
  | dropFailed (cause : StoreError)
  /-- The store could not be closed after that. -/
  | closeFailed (cause : StoreError)
  /-- All records are indexed. -/
  | indexed (tracked dropped : Nat)
  /-- A tracked transaction was pushed again. -/
  | pushTracked (tx : TxHash)
  /-- An entry could not be stored. -/
  | storeFailed (tx : TxHash) (cause : LimboError)
  /-- A transaction was pulled that is not held. -/
  | pullUntracked (tx : TxHash)
  /-- An entry could not be taken out of the store. -/
  | takeFailed (tx : TxHash) (id : Nat) (cause : LimboError)
  /-- There is no finalized block yet. -/
  | nothingFinalized
  /-- A finalized entry's record could not be deleted. -/
  | evictionFailed (block : UInt64) (id : Nat) (cause : StoreError)
  /-- A sweep is over. -/
  | swept (finalized : UInt64) (evicted failed : Nat)
  /-- A transaction was updated that is not held. -/
  | updateUntracked (tx : TxHash)
  /-- A transaction is in the requested block already. -/
  | updateUnchanged (tx : TxHash) (block : UInt64)
  /-- A transaction was moved to another block. -/
  | moved (tx : TxHash) (source target : UInt64)
  deriving DecidableEq

/-- What an operator command reports. -/
inductive CommandEvent where
  /-- A limbo was inspected. -/
  | inspected (entries : Nat)
  /-- A finalized entry's record is still on disk. -/
  | leftOnDisk (tx : TxHash) (block : UInt64) (cause : StoreError)
  /-- A sweep was asked for and is over. -/
  | swept (block : UInt64) (evicted : Nat)
  /-- The blobs of a transaction were dropped. -/
  | dropped (tx : TxHash) (blobs : Nat)
  deriving DecidableEq

/-- An event of any part of the library. -/
inductive Event where
  | store (event : StoreEvent)
  | limbo (event : LimboEvent)
  | command (event : CommandEvent)
  deriving DecidableEq

namespace StoreEvent

/-- How much the event matters. -/
def level : StoreEvent → Level
  | .truncatingTail .. => .warn
  | .droppingCorrupt .. => .error
  | .opened .. | .closed .. => .debug
  | .stored .. | .deleted .. => .trace

/-- The text of the event. -/
def message : StoreEvent → String
  | .truncatingTail .. => "Truncating partially written trailing slot"
  | .droppingCorrupt .. => "Dropping slot with corrupt length header"
  | .opened .. => "Opened slotted store"
  | .stored .. => "Stored record"
  | .deleted .. => "Deleted record"
  | .closed .. => "Closed slotted store"

/-- What the event is about. -/
def fields : StoreEvent → List (String × FieldValue)
  | .truncatingTail path length slotSize =>
    [("path", .text path), ("len", .number length), ("slot_size", .number slotSize.toNat)]
  | .droppingCorrupt path slot size capacity =>
    [("path", .text path), ("slot", .number slot), ("size", .number size),
      ("capacity", .number capacity)]
  | .opened path shelves replayed =>
    [("path", .text path), ("shelves", .number shelves), ("replayed", .number replayed)]
  | .stored id size => [("id", .number id), ("size", .number size)]
  | .deleted id => [("id", .number id)]
  | .closed path => [("path", .text path)]

end StoreEvent

namespace LimboEvent

/-- How much the event matters. -/
def level : LimboEvent → Level
  | .undecodable .. | .duplicate .. | .dropFailed .. | .pushTracked .. | .storeFailed ..
  | .takeFailed .. | .nothingFinalized | .evictionFailed .. => .error
  | .droppingInvalid .. | .closeFailed .. => .warn
  | .indexed .. | .swept .. => .debug
  | .pullUntracked .. | .updateUntracked .. | .updateUnchanged .. | .moved .. => .trace

/-- The text of the event. -/
def message : LimboEvent → String
  | .undecodable .. => "Failed to decode blob limbo entry"
  | .duplicate .. => "Dropping duplicate blob limbo entry"
  | .droppingInvalid .. => "Dropping invalidated limboed blobs"
  | .dropFailed .. => "Failed to drop invalidated limboed blobs"
  | .closeFailed .. => "Failed to close limbo store"
  | .indexed .. => "Indexed limboed blobs"
  | .pushTracked .. => "Limbo cannot push already tracked blobs"
  | .storeFailed .. => "Failed to set and index limboed blobs"
  | .pullUntracked .. => "Limbo cannot pull non-tracked blobs"
  | .takeFailed .. => "Failed to get and drop limboed blobs"
  | .nothingFinalized => "Nil finalized block cannot evict old blobs"
  | .evictionFailed .. => "Failed to drop finalized blob"
  | .swept .. => "Evicted finalized blobs"
  | .updateUntracked .. => "Limbo cannot update non-tracked blobs"
  | .updateUnchanged .. => "Blob transaction unchanged in limbo"
  | .moved .. => "Blob transaction updated in limbo"

/-- Ids between brackets, as in `[1, 3]`. -/
def displayIds (ids : List Nat) : String :=
  "[" ++ ", ".intercalate (ids.map toString) ++ "]"

/-- What the event is about. -/
def fields : LimboEvent → List (String × FieldValue)
  | .undecodable id cause => [("id", .number id), ("err", .text cause.message)]
  | .duplicate owner id => [("owner", .text owner.toHex), ("id", .number id)]
  | .droppingInvalid ids => [("ids", .text (displayIds ids))]
  | .dropFailed cause => [("err", .text cause.message)]
  | .closeFailed cause => [("err", .text cause.message)]
  | .indexed tracked dropped => [("tracked", .number tracked), ("dropped", .number dropped)]
  | .pushTracked tx => [("tx", .text tx.toHex)]
  | .storeFailed tx cause => [("tx", .text tx.toHex), ("err", .text cause.message)]
  | .pullUntracked tx => [("tx", .text tx.toHex)]
  | .takeFailed tx id cause =>
    [("tx", .text tx.toHex), ("id", .number id), ("err", .text cause.message)]
  | .nothingFinalized => []
  | .evictionFailed block id cause =>
    [("block", .number block.toNat), ("id", .number id), ("err", .text cause.message)]
  | .swept finalized evicted failed =>
    [("finalized", .number finalized.toNat), ("evicted", .number evicted),
      ("failed", .number failed)]
  | .updateUntracked tx => [("tx", .text tx.toHex)]
  | .updateUnchanged tx block => [("tx", .text tx.toHex), ("block", .number block.toNat)]
  | .moved tx source target =>
    [("tx", .text tx.toHex), ("from", .number source.toNat), ("to", .number target.toNat)]

end LimboEvent

namespace CommandEvent

/-- How much the event matters. -/
def level : CommandEvent → Level
  | .leftOnDisk .. => .warn
  | .inspected .. | .swept .. | .dropped .. => .info

/-- The text of the event. -/
def message : CommandEvent → String
  | .inspected .. => "Inspected limbo"
  | .leftOnDisk .. => "Finalized entry left on disk"
  | .swept .. => "Swept finalized entries"
  | .dropped .. => "Dropped limboed blobs"

/-- What the event is about. -/
def fields : CommandEvent → List (String × FieldValue)
  | .inspected entries => [("entries", .number entries)]
  | .leftOnDisk tx block cause =>
    [("tx", .text tx.toHex), ("block", .number block.toNat), ("err", .text cause.message)]
  | .swept block evicted => [("block", .number block.toNat), ("evicted", .number evicted)]
  | .dropped tx blobs => [("tx", .text tx.toHex), ("blobs", .number blobs)]

end CommandEvent

namespace Event

/-- How much the event matters. -/
def level : Event → Level
  | .store event => event.level
  | .limbo event => event.level
  | .command event => event.level

/-- The part of the library that reports the event. -/
def target : Event → String
  | .store _ => "blobpool::slotted"
  | .limbo _ => "blobpool::limbo"
  | .command _ => "cli"

/-- The text of the event. -/
def message : Event → String
  | .store event => event.message
  | .limbo event => event.message
  | .command event => event.message

/-- What the event is about. -/
def fields : Event → List (String × FieldValue)
  | .store event => event.fields
  | .limbo event => event.fields
  | .command event => event.fields

end Event

end BlobLimbo
