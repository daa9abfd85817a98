import BlobLimbo.Layout
import BlobLimbo.Proofs.Codec.Canonical

/-!
# Lengths of encodings

How many bytes an entry takes. The owner and the block make hardly any difference, so whether the
entries of a sidecar can be read back is a matter of the sidecar (`Sidecar.Encodable`). An entry of
`n` blobs with their commitments and proofs fits a slot for `n` blobs.
-/

namespace BlobLimbo

namespace Rlp

/-- A header takes at most nine bytes. -/
theorem length_encodeHeader_le (offset length : Nat) : (encodeHeader offset length).length ≤ 9 := by
  unfold encodeHeader
  have hdigits := Bytes.length_minimal_le length
  split
  · simp
  · simp only [List.length_cons]
    omega

/-- The header of a longer payload takes no fewer bytes. -/
theorem length_encodeHeader_mono (offset : Nat) {shorter longer : Nat} (hle : shorter ≤ longer)
    (hlonger : longer < 2 ^ 64) :
    (encodeHeader offset shorter).length ≤ (encodeHeader offset longer).length := by
  have hdigits := Bytes.length_minimal_mono hle hlonger
  unfold encodeHeader
  split
  · split
    · exact Nat.le_refl _
    · simp
  · rw [if_neg (by omega)]
    simpa using hdigits

/-- The header of a short payload takes one byte. -/
theorem length_encodeHeader_of_short {offset length : Nat} (hshort : length < 56) :
    (encodeHeader offset length).length = 1 := by
  have hthreshold : length < longFormThreshold := hshort
  simp [encodeHeader, hthreshold]

/-- A string of more than one byte is a header and the string. -/
theorem length_encodeString {payload : Bytes} (hlength : payload.length ≠ 1) :
    (encodeString payload).length =
      (encodeHeader stringOffset payload.length).length + payload.length := by
  have hlone : ¬StandsAlone payload.length payload := fun h => hlength h.1
  rw [encodeString_of_not_standsAlone hlone]
  simp

/-- A number takes at most nine bytes. -/
theorem length_encodeUInt64_le (n : UInt64) : (encodeUInt64 n).length ≤ 9 := by
  have hdigits := Bytes.length_minimal_le n.toNat
  unfold encodeUInt64 encodeString
  split
  · split
    · simp
    · rw [List.length_append, length_encodeHeader_of_short (by omega)]
      simp
  · rw [List.length_append, length_encodeHeader_of_short (by omega)]
    omega

/-- A list of strings of one length takes a header and the same number of bytes for each. -/
theorem length_encodeFixedList {size width : Nat} (items : List (FixedBytes size))
    (hwidth : ∀ item : FixedBytes size, (encodeString item.toList).length = width) :
    (encodeFixedList items).length =
      (encodeHeader listOffset (items.length * width)).length + items.length * width := by
  have hpayload : (items.flatMap fun item => encodeString item.toList).length =
      items.length * width := by
    simp only [List.length_flatMap, hwidth, List.map_const', List.sum_replicate_nat]
  rw [encodeFixedList, encodeList, List.length_append, hpayload]

/-- What a blob takes in a list. -/
theorem length_encodeString_blob (blob : Blob) :
    (encodeString blob.toList).length = bytesPerBlob + 4 := by
  have hlength := blob.length_toList
  rw [length_encodeString (by rw [hlength]; decide), hlength]
  have hheader : (encodeHeader stringOffset bytesPerBlob).length = 4 := by decide
  omega

/-- What a commitment or a proof takes in a list. -/
theorem length_encodeString_commitment (commitment : Commitment) :
    (encodeString commitment.toList).length = bytesPerCommitment + 1 := by
  have hlength := commitment.length_toList
  rw [length_encodeString (by rw [hlength]; decide), hlength]
  have hheader : (encodeHeader stringOffset bytesPerCommitment).length = 1 := by decide
  omega

/-- What an owner takes. -/
theorem length_encodeString_owner (owner : TxHash) : (encodeString owner.toList).length = 33 := by
  have hlength := owner.length_toList
  rw [length_encodeString (by rw [hlength]; decide), hlength]
  have hheader : (encodeHeader stringOffset 32).length = 1 := by decide
  omega

end Rlp

/-- Every entry of the sidecar is shorter than `2 ^ 64` bytes. -/
def Sidecar.Encodable (sidecar : Sidecar) : Prop :=
  ∀ (owner : TxHash) (block : UInt64), (Entry.encode ⟨owner, block, sidecar⟩).length < 2 ^ 64

/-- A sidecar of at most some number of blobs, with a commitment and a proof for each. -/
structure Sidecar.OfAtMost (limit : Nat) (sidecar : Sidecar) : Prop where
  blobs_le : sidecar.blobs.length ≤ limit
  commitments_eq : sidecar.commitments.length = sidecar.blobs.length
  proofs_eq : sidecar.proofs.length = sidecar.blobs.length

namespace Entry

open Rlp

/-- The bytes of the three lists of a sidecar. -/
def sidecarLength (sidecar : Sidecar) : Nat :=
  (encodeFixedList sidecar.blobs).length + (encodeFixedList sidecar.commitments).length +
    (encodeFixedList sidecar.proofs).length

/-- The parts of an entry. -/
theorem length_encodeFields (entry : Entry) :
    entry.encodeFields.length =
      33 + (encodeUInt64 entry.block).length + sidecarLength entry.sidecar := by
  simp only [encodeFields, sidecarLength, List.length_append, length_encodeString_owner]
  omega

/-- An entry is its fields with a header in front. -/
theorem length_encode (entry : Entry) : entry.encode.length =
    (encodeHeader listOffset entry.encodeFields.length).length + entry.encodeFields.length := by
  rw [encode, encodeList, List.length_append]

/-- An entry is hardly longer than its sidecar. -/
theorem length_encode_le (entry : Entry) :
    entry.encode.length ≤ 51 + sidecarLength entry.sidecar := by
  have hheader := length_encodeHeader_le listOffset entry.encodeFields.length
  have hblock := length_encodeUInt64_le entry.block
  rw [encode, encodeList, List.length_append, length_encodeFields] at *
  omega

/-- An entry is longer than its sidecar. -/
theorem sidecarLength_lt (entry : Entry) : sidecarLength entry.sidecar < entry.encode.length := by
  rw [encode, encodeList, List.length_append, length_encodeFields]
  omega

/-- A short record has short fields. -/
theorem length_encodeFields_lt {entry : Entry} {limit : Nat} (h : entry.encode.length < limit) :
    entry.encodeFields.length < limit := by
  rw [encode, encodeList, List.length_append] at h
  omega

/-- A record is never empty. -/
theorem encode_ne_nil (entry : Entry) : entry.encode ≠ [] := by
  intro hnil
  have hlength := sidecarLength_lt entry
  simp [hnil] at hlength

/-- An entry of a sidecar whose entries are short enough is read back. -/
theorem decode_encode {owner : TxHash} {block : UInt64} {sidecar : Sidecar}
    (h : sidecar.Encodable) :
    decode (encode ⟨owner, block, sidecar⟩) = .ok ⟨owner, block, sidecar⟩ :=
  decode_eq_ok_iff.mpr ⟨length_encodeFields_lt (h owner block), rfl⟩

/-- A record that is an entry is its encoding. -/
theorem encode_of_decode {record : Bytes} {entry : Entry} (h : decode record = .ok entry) :
    record = entry.encode :=
  (decode_eq_ok_iff.mp h).2

/-- The sidecar of a record shorter than `2 ^ 63` bytes can be stored again with any owner and
block. -/
theorem encodable_of_decode {record : Bytes} {entry : Entry} (hlength : record.length < 2 ^ 63)
    (h : decode record = .ok entry) : entry.sidecar.Encodable := by
  intro owner block
  have hle := length_encode_le ⟨owner, block, entry.sidecar⟩
  have hlt := sidecarLength_lt entry
  rw [← encode_of_decode h] at hlt
  dsimp only at hle
  omega

/-- What an entry of `n` blobs with their commitments and proofs takes at most. -/
theorem length_encode_le_of_lengths {entry : Entry} {n : Nat}
    (hblobs : entry.sidecar.blobs.length = n)
    (hcommitments : entry.sidecar.commitments.length = n)
    (hproofs : entry.sidecar.proofs.length = n) :
    entry.encode.length ≤ 78 + n * Layout.perBlob.toNat := by
  have hle := length_encode_le entry
  have hblobsHeader := length_encodeHeader_le listOffset (n * (bytesPerBlob + 4))
  have hlistHeader := length_encodeHeader_le listOffset (n * (bytesPerCommitment + 1))
  have hperBlob : Layout.perBlob.toNat = bytesPerBlob + 4 + 2 * (bytesPerCommitment + 1) := by
    decide
  rw [sidecarLength, length_encodeFixedList _ length_encodeString_blob,
    length_encodeFixedList _ length_encodeString_commitment,
    length_encodeFixedList _ length_encodeString_commitment, hblobs, hcommitments, hproofs] at hle
  have hsum : n * (bytesPerBlob + 4 + 2 * (bytesPerCommitment + 1)) =
      n * (bytesPerBlob + 4) + n * (bytesPerCommitment + 1) + n * (bytesPerCommitment + 1) := by
    ring
  rw [hperBlob, hsum]
  omega

/-- The entry of a sidecar gets no longer by a block whose number takes no more bytes. -/
theorem length_encode_mono {owner : TxHash} {block block' : UInt64} {sidecar : Sidecar}
    (hblock : (encodeUInt64 block').length ≤ (encodeUInt64 block).length)
    (hlength : (encode ⟨owner, block, sidecar⟩).length < 2 ^ 64) :
    (encode ⟨owner, block', sidecar⟩).length ≤ (encode ⟨owner, block, sidecar⟩).length := by
  have hfields : (encodeFields ⟨owner, block', sidecar⟩).length ≤
      (encodeFields ⟨owner, block, sidecar⟩).length := by
    rw [length_encodeFields, length_encodeFields]
    dsimp only
    omega
  have hheader := length_encodeHeader_mono listOffset hfields (length_encodeFields_lt hlength)
  rw [length_encode, length_encode]
  omega

/-- An entry with a commitment and a proof for each blob takes more than its blobs, commitments and
proofs do. -/
theorem lt_length_encode_of_lengths {entry : Entry} {n : Nat}
    (hblobs : entry.sidecar.blobs.length = n)
    (hcommitments : entry.sidecar.commitments.length = n)
    (hproofs : entry.sidecar.proofs.length = n) :
    n * Layout.perBlob.toNat < entry.encode.length := by
  have hlt := sidecarLength_lt entry
  have hperBlob : Layout.perBlob.toNat = bytesPerBlob + 4 + 2 * (bytesPerCommitment + 1) := by
    decide
  rw [sidecarLength, length_encodeFixedList _ length_encodeString_blob,
    length_encodeFixedList _ length_encodeString_commitment,
    length_encodeFixedList _ length_encodeString_commitment, hblobs, hcommitments, hproofs] at hlt
  have hsum : n * (bytesPerBlob + 4 + 2 * (bytesPerCommitment + 1)) =
      n * (bytesPerBlob + 4) + n * (bytesPerCommitment + 1) + n * (bytesPerCommitment + 1) := by
    ring
  rw [hperBlob, hsum]
  omega

end Entry

/-- A sidecar of numbered blobs can be stored with any owner and block. -/
theorem Sidecar.OfAtMost.encodable {limit : Nat} {sidecar : Sidecar} (h : sidecar.OfAtMost limit)
    (hlimit : limit ≤ 2 ^ 32) : sidecar.Encodable := by
  intro owner block
  have hle : (Entry.encode ⟨owner, block, sidecar⟩).length ≤
      78 + sidecar.blobs.length * Layout.perBlob.toNat :=
    Entry.length_encode_le_of_lengths rfl h.commitments_eq h.proofs_eq
  have hblobs := h.blobs_le
  have hperBlob : Layout.perBlob.toNat = 131174 := by decide
  rw [hperBlob] at hle
  omega

end BlobLimbo
