import BlobLimbo.Proofs.Codec.Length

/-!
# Torn and over-long records

The header of an entry announces how many bytes follow. A record that was cut off anywhere is
refused for being too short before any field is read, and a record with bytes behind the entry is
refused for its length once all fields are read (`Entry.decode_of_damaged`). So no encoding begins
with another one.
-/

namespace BlobLimbo

namespace Rlp

/-- A header does not fit when fewer bytes follow than it announces. -/
theorem Header.fitting_of_torn {header : Header} {input : Bytes}
    (hshort : input.length < header.length) : header.fitting input = .error .inputTooShort := by
  unfold Header.fitting
  rw [if_pos (by rw [List.length_take]; omega)]

/-- The long form of a header is refused when it is cut off, or when its payload is. -/
theorem Header.decodeLong_of_torn (isList : Bool) {length : Nat} (hlong : 56 ≤ length)
    (hlength : length < 2 ^ 64) {input payload : Bytes}
    (hfront : input <+: Bytes.minimal length ++ payload)
    (hshort : input.length < (Bytes.minimal length).length + length) :
    Header.decodeLong isList (Bytes.minimal length).length input = .error .inputTooShort := by
  unfold Header.decodeLong
  rcases Nat.lt_or_ge input.length (Bytes.minimal length).length with hcut | hwhole
  · rw [if_pos (by rw [List.length_take]; omega)]
  · -- the digits of the length are all there, so it is the payload that is cut off
    obtain ⟨rest, rfl⟩ : Bytes.minimal length <+: input :=
      List.prefix_of_prefix_length_le (List.prefix_append _ payload) hfront hwhole
    rw [List.length_append] at hshort
    rw [List.take_left, List.drop_left, if_neg (Nat.lt_irrefl _),
      readNat_eq_ok_iff.mpr ⟨hlength, rfl⟩]
    simp only [if_neg (Nat.not_lt.mpr hlong)]
    exact Header.fitting_of_torn (Nat.lt_of_add_lt_add_left hshort)

/-- The front of a list is refused when it is shorter than the list. -/
theorem Header.decode_of_torn {payload input : Bytes} (hlength : payload.length < 2 ^ 64)
    (hfront : input <+: encodeList payload) (hne : input ≠ encodeList payload) :
    Header.decode input = .error .inputTooShort := by
  have hshort : input.length < (encodeList payload).length :=
    Nat.lt_of_le_of_ne hfront.length_le fun hsame => hne (hfront.eq_of_length hsame)
  have hencode : encodeList payload = Header.encode ⟨true, payload.length⟩ ++ payload := by
    simp [encodeList, Header.encode]
  rw [hencode] at hfront hshort
  cases input with
  | nil => rfl
  | cons byte rest =>
    by_cases hsmall : payload.length < 56
    · rw [Header.encode_of_short hsmall, List.singleton_append, List.cons_prefix_cons] at hfront
      obtain ⟨rfl, -⟩ := hfront
      rw [Header.encode_of_short hsmall, List.singleton_append, List.length_cons,
        List.length_cons] at hshort
      have hfirst : (UInt8.ofNat (0xC0 + payload.length)).toNat = 0xC0 + payload.length :=
        toNat_ofNat_of_lt (by omega)
      simp only [if_true, Header.decode, hfirst]
      rw [if_neg (by omega), if_neg (by omega), if_neg (by omega), if_pos (by omega),
        Nat.add_sub_cancel_left]
      exact Header.fitting_of_torn (Nat.lt_of_succ_lt_succ hshort)
    · have hlong : 56 ≤ payload.length := Nat.le_of_not_lt hsmall
      have hwidth := Bytes.length_minimal_le payload.length
      have hpos := Bytes.length_minimal_pos (by omega) hlength
      rw [Header.encode_of_long hlong, List.cons_append, List.cons_prefix_cons] at hfront
      obtain ⟨rfl, hfront⟩ := hfront
      rw [Header.encode_of_long hlong, List.cons_append, List.length_cons, List.length_cons,
        List.length_append] at hshort
      have hfirst : (UInt8.ofNat (0xF7 + (Bytes.minimal payload.length).length)).toNat =
          0xF7 + (Bytes.minimal payload.length).length := toNat_ofNat_of_lt (by omega)
      simp only [if_true, Header.decode, hfirst]
      rw [if_neg (by omega), if_neg (by omega), if_neg (by omega), if_neg (by omega),
        Nat.add_sub_cancel_left]
      exact Header.decodeLong_of_torn true hlong hlength hfront (Nat.lt_of_succ_lt_succ hshort)

end Rlp

namespace Entry

open Rlp

variable {entry other : Entry} {record rest : Bytes}

/-- A record that is cut off is too short. -/
theorem decode_of_torn (hlength : entry.encode.length < 2 ^ 64) (hfront : record <+: entry.encode)
    (hne : record ≠ entry.encode) : decode record = .error .inputTooShort := by
  have hheader := Header.decode_of_torn (length_encodeFields_lt hlength) hfront hne
  simp only [decode, decodeFront, hheader, bind, Except.bind]

/-- A record with bytes behind the entry has the wrong length. -/
theorem decode_of_trailing (hlength : entry.encode.length < 2 ^ 64) (hrest : rest ≠ []) :
    decode (entry.encode ++ rest) = .error .unexpectedLength := by
  have hfront := decodeFront_eq_ok_iff.mpr
    ⟨length_encodeFields_lt hlength, (rfl : entry.encode ++ rest = _)⟩
  simp [decode, hfront, bind, Except.bind, hrest, throw, throwThe, MonadExceptOf.throw]

/-- An encoding that begins with another one is that one. -/
theorem eq_of_encode_prefix (hlength : entry.encode.length < 2 ^ 64)
    (hfront : other.encode <+: entry.encode) : other = entry := by
  have hshorter := Nat.lt_of_le_of_lt hfront.length_le hlength
  obtain ⟨rest, hrest⟩ := hfront
  have hentry := decodeFront_eq_ok_iff.mpr
    ⟨length_encodeFields_lt hlength, (List.append_nil entry.encode).symm⟩
  have hother := decodeFront_eq_ok_iff.mpr ⟨length_encodeFields_lt hshorter, hrest.symm⟩
  rw [hentry, Except.ok.injEq, Prod.mk.injEq] at hother
  exact hother.1.symm

/-- **Damaged records.** Take any entry whose encoding is shorter than `2 ^ 64` bytes. Its encoding
is too short for an entry when it is cut off anywhere, and has the wrong length when anything is
appended to it. No other entry's encoding is the beginning of it. -/
theorem decode_of_damaged (entry : Entry) (hlength : entry.encode.length < 2 ^ 64) :
    (∀ record, record <+: entry.encode → record ≠ entry.encode →
      decode record = .error .inputTooShort) ∧
    (∀ rest, rest ≠ [] → decode (entry.encode ++ rest) = .error .unexpectedLength) ∧
    ∀ other : Entry, other.encode <+: entry.encode → other = entry :=
  ⟨fun _ => decode_of_torn hlength, fun _ => decode_of_trailing hlength,
    fun _ => eq_of_encode_prefix hlength⟩

/-- An entry of two commitments and no blobs, cut off inside its second commitment, and followed by
what could be another field. -/
theorem decode_of_damaged_two_commitments :
    let entry : Entry := ⟨.replicate 32 0x11, 1024, ⟨[], [.replicate _ 1, .replicate _ 2], []⟩⟩
    entry.encode.length < 2 ^ 64 ∧ entry.encode.take 100 ≠ entry.encode ∧
      decode (entry.encode.take 100) = .error .inputTooShort ∧
      decode (entry.encode ++ [0xC0]) = .error .unexpectedLength ∧
      ∀ other : Entry, other.encode <+: entry.encode → other = entry := by
  intro entry
  have hlength : entry.encode.length < 2 ^ 64 := by decide +kernel
  have hcut : entry.encode.take 100 ≠ entry.encode := by decide +kernel
  obtain ⟨htorn, htrailing, hfree⟩ := decode_of_damaged entry hlength
  exact ⟨hlength, hcut, htorn _ (List.take_prefix _ _) hcut, htrailing [0xC0] (by decide), hfree⟩

end Entry

end BlobLimbo
