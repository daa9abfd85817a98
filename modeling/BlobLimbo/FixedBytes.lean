import BlobLimbo.Bytes
import Std.Data.ExtTreeMap

/-!
# Byte strings of a fixed length

Transaction hashes, blobs, commitments and proofs all have a length that is part of their type.
They are ordered byte by byte, which lets hashes serve as keys of a map.
-/

namespace BlobLimbo

/-- A byte string of length `n`. -/
structure FixedBytes (n : Nat) where
  /-- The bytes themselves. -/
  toList : Bytes
  /-- There are exactly `n` of them. -/
  length_toList : toList.length = n
  deriving DecidableEq

namespace FixedBytes

variable {n : Nat}

/-- Byte strings with the same bytes are the same. -/
theorem ext {a b : FixedBytes n} (h : a.toList = b.toList) : a = b := by
  cases a
  cases b
  simp_all

/-- Accepts a byte string of the right length. -/
def ofList? (n : Nat) (bytes : Bytes) : Option (FixedBytes n) :=
  if h : bytes.length = n then some ⟨bytes, h⟩ else none

/-- The same byte, `n` times. -/
def replicate (n : Nat) (byte : UInt8) : FixedBytes n :=
  ⟨List.replicate n byte, List.length_replicate⟩

/-- The form hashes are printed in: `0x` and two lower case digits a byte. -/
def toHex (bytes : FixedBytes n) : String :=
  "0x" ++ Bytes.toHex bytes.toList

/-- Reads two hexadecimal digits of either case a byte, after an optional `0x` or `0X`. -/
def ofHex? (n : Nat) (text : String) : Option (FixedBytes n) :=
  let digits := match text.toList with
    | '0' :: 'x' :: rest | '0' :: 'X' :: rest => rest
    | all => all
  (Bytes.ofHex? digits).bind (ofList? n)

instance : Ord (FixedBytes n) := ⟨compareOn toList⟩

instance : Std.TransOrd (FixedBytes n) :=
  inferInstanceAs (Std.TransCmp (compareOn (toList (n := n))))

instance : Std.LawfulEqOrd (FixedBytes n) where
  eq_of_compare h := ext (Std.LawfulEqOrd.eq_of_compare (α := Bytes) h)

end FixedBytes

/-- The hash that names a transaction. -/
abbrev TxHash := FixedBytes 32

/-- Hashes are keys of maps: they are ordered by their bytes. -/
instance : Std.TransOrd TxHash :=
  inferInstanceAs (Std.TransOrd (FixedBytes 32))

/-- The number of bytes in a blob. -/
def bytesPerBlob : Nat := 131072

/-- The number of bytes in a commitment or a proof. -/
def bytesPerCommitment : Nat := 48

/-- The payload a blob transaction carries besides itself. -/
abbrev Blob := FixedBytes bytesPerBlob

/-- A commitment to a blob, or a proof for one. -/
abbrev Commitment := FixedBytes bytesPerCommitment

end BlobLimbo
