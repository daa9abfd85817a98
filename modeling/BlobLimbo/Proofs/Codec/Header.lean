import BlobLimbo.Rlp.Decoding
import BlobLimbo.Rlp.Encoding
import BlobLimbo.Proofs.Codec.BigEndian

/-!
# Headers have one form

Reading a header succeeds exactly on the header that writing produces, followed by at least as many
bytes as it announces (`Header.decode_eq_ok_iff`). The one exception is a byte below `0x80`, which
needs no header and may not have one.
-/

namespace BlobLimbo.Rlp

/-- Numbers are read from their minimal form and from nothing else. -/
theorem readNat_eq_ok_iff {digits : Bytes} {n : Nat} :
    readNat digits = .ok n ↔ n < 2 ^ 64 ∧ digits = Bytes.minimal n := by
  unfold readNat
  constructor
  · intro h
    split at h
    · simp at h
    · split at h
      · simp at h
      · rename_i hlength hhead
        have hn : Bytes.toNat digits = n := by simpa using h
        have hlt := Bytes.toNat_lt digits
        have hpow : 256 ^ digits.length ≤ 256 ^ 8 := Nat.pow_le_pow_right (by omega) (by omega)
        subst hn
        exact ⟨by omega, (Bytes.minimal_toNat (by omega) hhead).symm⟩
  · rintro ⟨hn, rfl⟩
    have hlength := Bytes.length_minimal_le n
    rw [if_neg (by omega), if_neg (Bytes.head?_minimal n), Bytes.toNat_minimal hn]

/-- A header fits when enough bytes follow. -/
theorem Header.fitting_eq_ok_iff {header header' : Header} {input rest : Bytes} :
    header.fitting input = .ok (header', rest) ↔
      header' = header ∧ rest = input ∧ header.length ≤ input.length := by
  unfold Header.fitting
  rw [List.length_take]
  split
  · simp only [reduceCtorEq, false_iff]
    omega
  · simp only [Except.ok.injEq, Prod.mk.injEq]
    constructor
    · rintro ⟨rfl, rfl⟩
      exact ⟨rfl, rfl, by omega⟩
    · rintro ⟨rfl, rfl, -⟩
      exact ⟨rfl, rfl⟩

/-- The long form holds the minimal form of a length of at least 56. -/
theorem Header.decodeLong_eq_ok_iff {isList : Bool} {width : Nat} {input rest : Bytes}
    {header : Header} :
    Header.decodeLong isList width input = .ok (header, rest) ↔
      header.isList = isList ∧ 56 ≤ header.length ∧ header.length < 2 ^ 64 ∧
        (Bytes.minimal header.length).length = width ∧
        input = Bytes.minimal header.length ++ rest ∧ header.length ≤ rest.length := by
  unfold Header.decodeLong
  constructor
  · intro h
    split at h
    · simp at h
    · rename_i hwidth
      have htake : (input.take width).length = width := by
        rw [List.length_take] at hwidth ⊢
        omega
      cases hread : readNat (input.take width) with
      | error e => simp [hread] at h
      | ok length =>
        obtain ⟨hlength, hdigits⟩ := readNat_eq_ok_iff.mp hread
        simp only [hread] at h
        split at h
        · simp at h
        · rename_i hlong
          obtain ⟨rfl, rfl, hfits⟩ := Header.fitting_eq_ok_iff.mp h
          refine ⟨rfl, Nat.le_of_not_lt hlong, hlength, by rw [← hdigits, htake], ?_, hfits⟩
          rw [← hdigits, List.take_append_drop]
  · rintro ⟨rfl, hlong, hlength, rfl, rfl, hfits⟩
    rw [List.take_left, List.drop_left, if_neg (by omega),
      readNat_eq_ok_iff.mpr ⟨hlength, rfl⟩]
    simp only [if_neg (show ¬header.length < 56 by omega)]
    exact Header.fitting_eq_ok_iff.mpr ⟨rfl, rfl, hfits⟩

/-- A string of one byte below `0x80` follows, which needs no header. -/
def StandsAlone (length : Nat) (rest : Bytes) : Prop :=
  length = 1 ∧ ∃ byte tail, rest = byte :: tail ∧ byte < 0x80

/-- The short form of a string is read unless the string needs no header. -/
theorem Header.decodeShort_eq_ok_iff {length : Nat} {input rest : Bytes} {header : Header} :
    Header.decodeShort length input = .ok (header, rest) ↔
      header = ⟨false, length⟩ ∧ rest = input ∧ length ≤ input.length ∧
        ¬StandsAlone length input := by
  unfold Header.decodeShort
  by_cases hone : length = 1
  · subst hone
    rw [if_pos rfl]
    cases input with
    | nil => simp
    | cons byte tail =>
      by_cases hbyte : byte < 0x80
      · simp [hbyte, StandsAlone]
      · simp [hbyte, StandsAlone, Header.fitting_eq_ok_iff]
  · simp [hone, StandsAlone, Header.fitting_eq_ok_iff]

/-- A header as it is written. -/
def Header.encode (header : Header) : Bytes :=
  encodeHeader (if header.isList then listOffset else stringOffset) header.length

/-- The short form of a header is one byte. -/
theorem Header.encode_of_short {header : Header} (hshort : header.length < 56) :
    header.encode = [UInt8.ofNat ((if header.isList then 0xC0 else 0x80) + header.length)] := by
  have hthreshold : header.length < longFormThreshold := hshort
  simp only [Header.encode, encodeHeader, if_pos hthreshold, listOffset, stringOffset]

/-- The long form of a header is one byte and the minimal form of the length. -/
theorem Header.encode_of_long {header : Header} (hlong : 56 ≤ header.length) :
    header.encode = UInt8.ofNat ((if header.isList then 0xF7 else 0xB7) +
      (Bytes.minimal header.length).length) :: Bytes.minimal header.length := by
  have hthreshold : ¬header.length < longFormThreshold := Nat.not_lt.mpr hlong
  simp only [Header.encode, encodeHeader, if_neg hthreshold, listOffset, stringOffset]
  cases header.isList <;> rfl

/-- A first byte that leads to the short form is the whole header. -/
theorem Header.encode_of_shortByte {header : Header} {byte : UInt8} (hshort : header.length < 56)
    (hbyte : byte.toNat = (if header.isList then 0xC0 else 0x80) + header.length) :
    header.encode = [byte] := by
  rw [Header.encode_of_short hshort, ← hbyte, UInt8.ofNat_toNat]

/-- A first byte that leads to the long form comes in front of the length. -/
theorem Header.encode_of_longByte {header : Header} {byte : UInt8} (hlong : 56 ≤ header.length)
    (hbyte : byte.toNat =
      (if header.isList then 0xF7 else 0xB7) + (Bytes.minimal header.length).length) :
    header.encode = byte :: Bytes.minimal header.length := by
  rw [Header.encode_of_long hlong, ← hbyte, UInt8.ofNat_toNat]

/-- Reading a header and finding the bytes of its item. Either the item is a byte below `0x80`
that stands for itself, or the header was written in its only form. -/
def Header.Announces (header : Header) (input rest : Bytes) : Prop :=
  (header = ⟨false, 1⟩ ∧ rest = input ∧ StandsAlone 1 input) ∨
    (input = header.encode ++ rest ∧ header.length < 2 ^ 64 ∧ header.length ≤ rest.length ∧
      ¬(header.isList = false ∧ StandsAlone header.length rest))

/-- What was read as a header is a header in its only form. -/
theorem Header.announces_of_decode {header : Header} {input rest : Bytes}
    (hok : Header.decode input = .ok (header, rest)) : header.Announces input rest := by
  cases input with
  | nil => simp [Header.decode] at hok
  | cons byte tail =>
    simp only [Header.decode] at hok
    split at hok
    · rename_i hsingle
      left
      simp only [Except.ok.injEq, Prod.mk.injEq] at hok
      refine ⟨hok.1.symm, hok.2.symm, rfl, byte, tail, rfl, ?_⟩
      rw [UInt8.lt_iff_toNat_lt]
      exact hsingle
    · right
      split at hok
      · obtain ⟨rfl, rfl, hfits, halone⟩ := Header.decodeShort_eq_ok_iff.mp hok
        have hencode : Header.encode ⟨false, byte.toNat - 0x80⟩ = [byte] := by
          refine Header.encode_of_shortByte (by dsimp only; omega) ?_
          simp only [Bool.false_eq_true, if_false]
          omega
        exact ⟨by rw [hencode]; rfl, by dsimp only; omega, hfits, fun h => halone h.2⟩
      · split at hok
        · obtain ⟨hlist, hlong, hlength, hwidth, rfl, hfits⟩ :=
            Header.decodeLong_eq_ok_iff.mp hok
          have hbyte : byte.toNat =
              (if header.isList then 0xF7 else 0xB7) + (Bytes.minimal header.length).length := by
            rw [hlist, hwidth]
            simp only [Bool.false_eq_true, if_false]
            omega
          have hencode := Header.encode_of_longByte hlong hbyte
          exact ⟨by rw [hencode]; rfl, hlength, hfits, fun h => by have := h.2.1; omega⟩
        · split at hok
          · obtain ⟨rfl, rfl, hfits⟩ := Header.fitting_eq_ok_iff.mp hok
            have hencode : Header.encode ⟨true, byte.toNat - 0xC0⟩ = [byte] := by
              refine Header.encode_of_shortByte (by dsimp only; omega) ?_
              simp only [if_true]
              omega
            exact ⟨by rw [hencode]; rfl, by dsimp only; omega, hfits, fun h => by simp at h⟩
          · obtain ⟨hlist, hlong, hlength, hwidth, rfl, hfits⟩ :=
              Header.decodeLong_eq_ok_iff.mp hok
            have hbyte : byte.toNat =
                (if header.isList then 0xF7 else 0xB7) + (Bytes.minimal header.length).length := by
              rw [hlist, hwidth]
              simp only [if_true]
              omega
            have hencode := Header.encode_of_longByte hlong hbyte
            exact ⟨by rw [hencode]; rfl, hlength, hfits, fun h => by have := h.2.1; omega⟩

/-- A number below 256 survives in a byte. -/
theorem toNat_ofNat_of_lt {n : Nat} (hn : n < 256) : (UInt8.ofNat n).toNat = n := by
  rw [UInt8.toNat_ofNat']
  exact Nat.mod_eq_of_lt hn

/-- A header in its only form is read. -/
theorem Header.decode_of_announces {header : Header} {input rest : Bytes}
    (h : header.Announces input rest) : Header.decode input = .ok (header, rest) := by
  rcases h with ⟨rfl, rfl, -, byte, tail, rfl, hbyte⟩ | ⟨rfl, hlength, hfits, halone⟩
  · have hsingle : byte.toNat < 0x80 := UInt8.lt_iff_toNat_lt.mp hbyte
    simp only [Header.decode, if_pos hsingle]
  · obtain ⟨isList, length⟩ := header
    dsimp only at hlength hfits halone
    by_cases hshort : length < 56
    · rw [Header.encode_of_short hshort]
      cases isList with
      | false =>
        have hfirst : (UInt8.ofNat (0x80 + length)).toNat = 0x80 + length :=
          toNat_ofNat_of_lt (by omega)
        simp only [Bool.false_eq_true, if_false, List.singleton_append, Header.decode, hfirst]
        rw [if_neg (by omega), if_pos (by omega), Nat.add_sub_cancel_left]
        exact Header.decodeShort_eq_ok_iff.mpr ⟨rfl, rfl, hfits, fun h => halone ⟨rfl, h⟩⟩
      | true =>
        have hfirst : (UInt8.ofNat (0xC0 + length)).toNat = 0xC0 + length :=
          toNat_ofNat_of_lt (by omega)
        simp only [if_true, List.singleton_append, Header.decode, hfirst]
        rw [if_neg (by omega), if_neg (by omega), if_neg (by omega), if_pos (by omega),
          Nat.add_sub_cancel_left]
        exact Header.fitting_eq_ok_iff.mpr ⟨rfl, rfl, hfits⟩
    · have hlong : 56 ≤ length := Nat.le_of_not_lt hshort
      have hwidth := Bytes.length_minimal_le length
      have hpos := Bytes.length_minimal_pos (by omega) hlength
      rw [Header.encode_of_long hlong]
      dsimp only
      cases isList with
      | false =>
        have hfirst : (UInt8.ofNat (0xB7 + (Bytes.minimal length).length)).toNat =
            0xB7 + (Bytes.minimal length).length := toNat_ofNat_of_lt (by omega)
        simp only [Bool.false_eq_true, if_false, List.cons_append, Header.decode, hfirst]
        rw [if_neg (by omega), if_neg (by omega), if_pos (by omega), Nat.add_sub_cancel_left]
        exact Header.decodeLong_eq_ok_iff.mpr ⟨rfl, hlong, hlength, rfl, rfl, hfits⟩
      | true =>
        have hfirst : (UInt8.ofNat (0xF7 + (Bytes.minimal length).length)).toNat =
            0xF7 + (Bytes.minimal length).length := toNat_ofNat_of_lt (by omega)
        simp only [if_true, List.cons_append, Header.decode, hfirst]
        rw [if_neg (by omega), if_neg (by omega), if_neg (by omega), if_neg (by omega),
          Nat.add_sub_cancel_left]
        exact Header.decodeLong_eq_ok_iff.mpr ⟨rfl, hlong, hlength, rfl, rfl, hfits⟩

/-- Headers are read from their only form and from nothing else. -/
theorem Header.decode_eq_ok_iff {header : Header} {input rest : Bytes} :
    Header.decode input = .ok (header, rest) ↔ header.Announces input rest :=
  ⟨Header.announces_of_decode, Header.decode_of_announces⟩

end BlobLimbo.Rlp
