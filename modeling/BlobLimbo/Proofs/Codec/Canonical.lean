import BlobLimbo.Entry
import BlobLimbo.Proofs.Codec.Items

/-!
# Entries have one encoding

An entry is read from its encoding and from no other byte string
(`Entry.decode_eq_ok_iff_eq_encode`). The fields are read from everything after the outer header,
past the announced end of the list if need be, so the argument runs through the bytes that follow:
each field determines its own bytes, whatever comes after them.
-/

namespace BlobLimbo.Entry

open Rlp

/-- The bytes of a list of strings of one fixed length, without the header of the list. -/
def payload {size : Nat} (items : List (FixedBytes size)) : Bytes :=
  items.flatMap fun item => encodeString item.toList

/-- The three lists of an entry are short enough for their headers. -/
structure Announceable (entry : Entry) : Prop where
  blobs : (payload entry.sidecar.blobs).length < 2 ^ 64
  commitments : (payload entry.sidecar.commitments).length < 2 ^ 64
  proofs : (payload entry.sidecar.proofs).length < 2 ^ 64

/-- Lists inside short enough fields are short enough. -/
theorem announceable_of_encodeFields {entry : Entry}
    (hlength : entry.encodeFields.length < 2 ^ 64) : entry.Announceable := by
  simp only [encodeFields, encodeFixedList, encodeList, List.length_append] at hlength
  constructor
  · simp only [payload]
    omega
  · simp only [payload]
    omega
  · simp only [payload]
    omega

/-- The five fields are read from their only form, whatever follows them. -/
theorem decodeFields_eq_ok_iff {entry : Entry} {input rest : Bytes} :
    decodeFields input = .ok (entry, rest) ↔
      entry.Announceable ∧ input = entry.encodeFields ++ rest := by
  have hblob : bytesPerBlob < 2 ^ 64 := by decide
  have hcommitment : bytesPerCommitment < 2 ^ 64 := by decide
  unfold decodeFields
  constructor
  · intro hok
    obtain ⟨⟨owner, afterOwner⟩, howner, hok⟩ := bind_eq_ok_iff.mp hok
    obtain ⟨⟨block, afterBlock⟩, hblock, hok⟩ := bind_eq_ok_iff.mp hok
    obtain ⟨⟨blobs, afterBlobs⟩, hblobs, hok⟩ := bind_eq_ok_iff.mp hok
    obtain ⟨⟨commitments, afterCommitments⟩, hcommitments, hok⟩ := bind_eq_ok_iff.mp hok
    obtain ⟨⟨proofs, afterProofs⟩, hproofs, hok⟩ := bind_eq_ok_iff.mp hok
    simp only [pure, Except.pure, Except.ok.injEq, Prod.mk.injEq] at hok
    obtain ⟨rfl, rfl⟩ := hok
    have howner := (decodeFixed_eq_ok_iff (by decide)).mp howner
    have hblock := decodeUInt64_eq_ok_iff.mp hblock
    obtain ⟨hblobsLimit, hblobs⟩ := (decodeFixedList_eq_ok_iff hblob).mp hblobs
    obtain ⟨hcommitmentsLimit, hcommitments⟩ :=
      (decodeFixedList_eq_ok_iff hcommitment).mp hcommitments
    obtain ⟨hproofsLimit, hproofs⟩ := (decodeFixedList_eq_ok_iff hcommitment).mp hproofs
    refine ⟨⟨hblobsLimit, hcommitmentsLimit, hproofsLimit⟩, ?_⟩
    simp only [howner, hblock, hblobs, hcommitments, hproofs, encodeFields, List.append_assoc]
  · rintro ⟨⟨hblobsLimit, hcommitmentsLimit, hproofsLimit⟩, rfl⟩
    obtain ⟨owner, block, ⟨blobs, commitments, proofs⟩⟩ := entry
    have hproofs := (decodeFixedList_eq_ok_iff hcommitment).mpr
      ⟨hproofsLimit, (rfl : encodeFixedList proofs ++ rest = _)⟩
    have hcommitments := (decodeFixedList_eq_ok_iff hcommitment).mpr
      ⟨hcommitmentsLimit, (rfl : encodeFixedList commitments ++
        (encodeFixedList proofs ++ rest) = _)⟩
    have hblobs := (decodeFixedList_eq_ok_iff hblob).mpr
      ⟨hblobsLimit, (rfl : encodeFixedList blobs ++
        (encodeFixedList commitments ++ (encodeFixedList proofs ++ rest)) = _)⟩
    have hblock := decodeUInt64_eq_ok_iff.mpr
      (rfl : encodeUInt64 block ++ (encodeFixedList blobs ++
        (encodeFixedList commitments ++ (encodeFixedList proofs ++ rest))) = _)
    have howner : decodeFixed 32
          (encodeFields ⟨owner, block, ⟨blobs, commitments, proofs⟩⟩ ++ rest) =
        .ok (owner, encodeUInt64 block ++ (encodeFixedList blobs ++
          (encodeFixedList commitments ++ (encodeFixedList proofs ++ rest)))) := by
      rw [decodeFixed_eq_ok_iff (by decide)]
      simp only [encodeFields, List.append_assoc]
    refine bind_eq_ok_iff.mpr ⟨_, howner, bind_eq_ok_iff.mpr ⟨_, hblock, ?_⟩⟩
    refine bind_eq_ok_iff.mpr ⟨_, hblobs, bind_eq_ok_iff.mpr ⟨_, hcommitments, ?_⟩⟩
    exact bind_eq_ok_iff.mpr ⟨_, hproofs, rfl⟩

/-- An entry at the front of a byte string is read from its only form. The announced length of the
outer list decides only at the end, where it must be the length of the fields. -/
theorem decodeFront_eq_ok_iff {entry : Entry} {input rest : Bytes} :
    decodeFront input = .ok (entry, rest) ↔
      entry.encodeFields.length < 2 ^ 64 ∧ input = entry.encode ++ rest := by
  unfold decodeFront
  constructor
  · intro hok
    obtain ⟨⟨⟨isList, length⟩, body⟩, hheader, hok⟩ := bind_eq_ok_iff.mp hok
    cases isList with
    | false => simp [bind, Except.bind, throw, throwThe, MonadExceptOf.throw] at hok
    | true =>
      simp only [Bool.true_eq_false, if_false] at hok
      obtain ⟨⟨found, tail⟩, hfields, hok⟩ := bind_eq_ok_iff.mp hok
      obtain ⟨-, rfl⟩ := decodeFields_eq_ok_iff.mp hfields
      dsimp only at hok
      rw [List.length_append, Nat.add_sub_cancel] at hok
      by_cases hconsumed : found.encodeFields.length = length
      · rw [if_neg (not_not.mpr hconsumed)] at hok
        simp only [pure, Except.pure, Except.ok.injEq, Prod.mk.injEq] at hok
        obtain ⟨rfl, rfl⟩ := hok
        rcases Header.decode_eq_ok_iff.mp hheader with ⟨heq, -⟩ | ⟨rfl, hlimit, -, -⟩
        · simp at heq
        · subst hconsumed
          refine ⟨hlimit, ?_⟩
          simp [encode, encodeList, Header.encode]
      · rw [if_pos hconsumed] at hok
        simp [bind, Except.bind, throw, throwThe, MonadExceptOf.throw] at hok
  · rintro ⟨hlimit, rfl⟩
    have hfields := decodeFields_eq_ok_iff.mpr
      ⟨announceable_of_encodeFields hlimit, (rfl : entry.encodeFields ++ rest = _)⟩
    have hheader : Header.decode (entry.encode ++ rest) =
        .ok (⟨true, entry.encodeFields.length⟩, entry.encodeFields ++ rest) := by
      refine Header.decode_eq_ok_iff.mpr (Or.inr ⟨?_, hlimit, ?_, by simp⟩)
      · simp [encode, encodeList, Header.encode]
      · simp
    refine bind_eq_ok_iff.mpr ⟨_, hheader, ?_⟩
    simp only [Bool.true_eq_false, if_false]
    refine bind_eq_ok_iff.mpr ⟨_, hfields, ?_⟩
    dsimp only
    rw [List.length_append, Nat.add_sub_cancel, if_neg (not_not.mpr rfl)]
    rfl

/-- A record is read as an entry from the entry's only form. -/
theorem decode_eq_ok_iff {entry : Entry} {record : Bytes} :
    decode record = .ok entry ↔ entry.encodeFields.length < 2 ^ 64 ∧ record = entry.encode := by
  unfold decode
  constructor
  · intro hok
    obtain ⟨⟨found, rest⟩, hfront, hresult⟩ := bind_eq_ok_iff.mp hok
    obtain ⟨hlimit, rfl⟩ := decodeFront_eq_ok_iff.mp hfront
    cases rest with
    | nil =>
      have hfound : found = entry := by
        simpa [pure, Except.pure] using hresult
      subst hfound
      exact ⟨hlimit, List.append_nil _⟩
    | cons byte rest => simp [bind, Except.bind, throw, throwThe, MonadExceptOf.throw] at hresult
  · rintro ⟨hlimit, rfl⟩
    have hfront := decodeFront_eq_ok_iff.mpr ⟨hlimit, (List.append_nil entry.encode).symm⟩
    exact bind_eq_ok_iff.mpr ⟨_, hfront, rfl⟩

/-- **Canonical encodings.** An entry whose encoding is shorter than `2 ^ 64` bytes is read from
its encoding, and from no other byte string. -/
theorem decode_eq_ok_iff_eq_encode (record : Bytes) (entry : Entry)
    (hlength : entry.encode.length < 2 ^ 64) :
    decode record = .ok entry ↔ record = entry.encode := by
  have hfields : entry.encodeFields.length < 2 ^ 64 := by
    simp only [encode, encodeList, List.length_append] at hlength
    omega
  rw [decode_eq_ok_iff, and_iff_right hfields]

/-- An entry of two commitments and no blobs is read from its encoding, but not when the length of
the outer list is written with a zero in front. -/
theorem decode_encode_two_commitments :
    let entry : Entry := ⟨.replicate 32 0x11, 1024, ⟨[], [.replicate _ 1, .replicate _ 2], []⟩⟩
    entry.encode.length < 2 ^ 64 ∧ decode entry.encode = .ok entry ∧
      decode (0xF9 :: 0 :: entry.encode.drop 1) ≠ .ok entry := by
  intro entry
  have hlength : entry.encode.length < 2 ^ 64 := by decide +kernel
  refine ⟨hlength, (decode_eq_ok_iff_eq_encode _ entry hlength).mpr rfl, ?_⟩
  intro hok
  have hsame := (decode_eq_ok_iff_eq_encode _ entry hlength).mp hok
  exact absurd hsame (by decide +kernel)

end BlobLimbo.Entry
