import BlobLimbo.Error

/-!
# Slot sizes of a limbo

A limbo's store has one slot size for each number of blobs a transaction may carry, so that an
entry with `n` blobs lies on the shelf of `n` blobs.
-/

namespace BlobLimbo.Layout

/-- What a blob, its commitment and its proof take in an encoded entry, headers included. -/
def perBlob : UInt32 := UInt32.ofNat (bytesPerBlob + 4 + 2 * (bytesPerCommitment + 1))

/-- What is set aside for the rest of an entry: slot header, list headers, owner and block. -/
def overhead : UInt32 := 1024

/-- How many blobs a transaction may carry when nothing else is said. -/
def defaultMaxBlobs : UInt32 := 6

/-- With more blobs than this the largest slot size would not fit in 32 bits. -/
def maxBlobsLimit : UInt32 := (0xFFFFFFFF - overhead) / perBlob

/-- The slot size for entries of `blobs` blobs. -/
def slotSize (blobs : Nat) : UInt32 :=
  overhead + UInt32.ofNat blobs * perBlob

/-- The slot sizes for transactions of one up to `maxBlobs` blobs. -/
def slotSizes (maxBlobs : UInt32) : Except LimboError (List UInt32) :=
  if maxBlobsLimit < maxBlobs then .error (.tooManyBlobs maxBlobs maxBlobsLimit)
  else .ok ((List.range maxBlobs.toNat).map fun n => slotSize (n + 1))

end BlobLimbo.Layout
