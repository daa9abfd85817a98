import BlobLimbo.FixedBytes
import BlobLimbo.Rlp.Error
import BlobLimbo.Store.Error

/-!
# Limbo failures
-/

namespace BlobLimbo

/-- Why a limbo refuses an operation. -/
inductive LimboError where
  /-- The transaction's blobs are held already. -/
  | alreadyTracked (tx : TxHash)
  /-- The transaction's blobs are not held. -/
  | notTracked (tx : TxHash)
  /-- So many blobs per transaction need slots beyond 32 bits. -/
  | tooManyBlobs (requested max : UInt32)
  /-- The store failed. -/
  | store (cause : StoreError)
  /-- A stored record is no entry. -/
  | decode (cause : Rlp.DecodeError)
  deriving DecidableEq

namespace LimboError

/-- The text an operator reads. -/
def message : LimboError → String
  | .alreadyTracked tx => "blob transaction " ++ tx.toHex ++ " is already tracked"
  | .notTracked tx => "blob transaction " ++ tx.toHex ++ " is not tracked"
  | .tooManyBlobs requested max =>
    "max blobs per transaction " ++ toString requested ++
      " exceeds the supported maximum of " ++ toString max
  | .store cause => cause.message
  | .decode cause => "failed to decode limbo entry: " ++ cause.message

/-- The message followed by the messages of what caused it. A store failure speaks for itself. -/
def chain : LimboError → List String
  | .decode cause => [message (.decode cause), cause.message]
  | error => [error.message]

/-- Whether two failures are the same one. -/
def agrees : LimboError → LimboError → Bool
  | .store a, .store b => a.agrees b
  | a, b => a = b

end LimboError

end BlobLimbo
