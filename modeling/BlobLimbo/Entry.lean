import BlobLimbo.Rlp.Encoding
import BlobLimbo.Rlp.Decoding

/-!
# Limbo entries

The record kept for a blob transaction: its hash, the block that included it, and its sidecar. An
entry is stored as the RLP list `[owner, block, blobs, commitments, proofs]`. Nothing checks that
the three lists of a sidecar line up; that is up to whoever hands it over.
-/

namespace BlobLimbo

/-- The blobs of a transaction with the commitments and proofs that belong to them. -/
structure Sidecar where
  /-- The blobs, in the transaction's order. -/
  blobs : List Blob
  /-- The commitments to the blobs. -/
  commitments : List Commitment
  /-- The proofs for the blobs. -/
  proofs : List Commitment
  deriving DecidableEq

/-- A sidecar of `count` blobs filled with `seed`, whose commitments and proofs are filled with
the two bytes after it. -/
def Sidecar.filled (seed : UInt8) (count : Nat) : Sidecar :=
  ⟨List.replicate count (.replicate _ seed), List.replicate count (.replicate _ (seed + 1)),
    List.replicate count (.replicate _ (seed + 2))⟩

/-- A sidecar together with the transaction that owns it and the block that included it. -/
structure Entry where
  /-- Hash of the owning transaction. -/
  owner : TxHash
  /-- The block the transaction was included in. -/
  block : UInt64
  /-- What the transaction carried. -/
  sidecar : Sidecar
  deriving DecidableEq

namespace Entry

/-- The number of blobs the entry holds. -/
def blobCount (entry : Entry) : Nat :=
  entry.sidecar.blobs.length

/-- The five fields in the order they are stored. -/
def encodeFields (entry : Entry) : Bytes :=
  Rlp.encodeString entry.owner.toList ++ (Rlp.encodeUInt64 entry.block ++
    (Rlp.encodeFixedList entry.sidecar.blobs ++
      (Rlp.encodeFixedList entry.sidecar.commitments ++
        Rlp.encodeFixedList entry.sidecar.proofs)))

/-- The record written to a store. -/
def encode (entry : Entry) : Bytes :=
  Rlp.encodeList entry.encodeFields

/-- Reads the five fields and returns the bytes after them. -/
def decodeFields (input : Bytes) : Except Rlp.DecodeError (Entry × Bytes) := do
  let (owner, input) ← Rlp.decodeFixed 32 input
  let (block, input) ← Rlp.decodeUInt64 input
  let (blobs, input) ← Rlp.decodeFixedList bytesPerBlob input
  let (commitments, input) ← Rlp.decodeFixedList bytesPerCommitment input
  let (proofs, input) ← Rlp.decodeFixedList bytesPerCommitment input
  return (⟨owner, block, ⟨blobs, commitments, proofs⟩⟩, input)

/-- Reads an entry from the front of a byte string. The fields are read from everything after
the list's header, and only then is the space they took compared with the announced length. -/
def decodeFront (input : Bytes) : Except Rlp.DecodeError (Entry × Bytes) := do
  let (header, body) ← Rlp.Header.decode input
  if header.isList = false then throw .unexpectedString
  let (entry, rest) ← decodeFields body
  let consumed := body.length - rest.length
  if consumed ≠ header.length then throw (.listLengthMismatch header.length consumed)
  return (entry, rest)

/-- Reads a record as an entry, refusing bytes after it. -/
def decode (record : Bytes) : Except Rlp.DecodeError Entry := do
  let (entry, rest) ← decodeFront record
  if rest ≠ [] then throw .unexpectedLength
  return entry

end Entry

end BlobLimbo
