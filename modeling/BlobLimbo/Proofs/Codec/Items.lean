import BlobLimbo.Proofs.Codec.Header
import BlobLimbo.Proofs.Reading

/-!
# Items have one form

Each reader of items succeeds exactly on what the matching writer produces, whatever follows. The
payload of an item, and with it every length a header announces, stays below `2 ^ 64` bytes.
-/

namespace BlobLimbo.Rlp

/-- A payload is what the header announces. -/
theorem decodePayload_eq_ok_iff {isList : Bool} {input payload rest : Bytes} :
    decodePayload isList input = .ok (payload, rest) ↔
      ∃ header : Header, header.isList = isList ∧ header.length = payload.length ∧
        header.Announces input (payload ++ rest) := by
  unfold decodePayload
  rw [bind_eq_ok_iff]
  constructor
  · rintro ⟨⟨header, body⟩, hheader, hpayload⟩
    have hannounces := Header.decode_eq_ok_iff.mp hheader
    dsimp only at hpayload
    split at hpayload
    · rename_i hlist
      simp only [pure, Except.pure, Except.ok.injEq, Prod.mk.injEq] at hpayload
      obtain ⟨rfl, rfl⟩ := hpayload
      refine ⟨header, hlist, ?_, by rwa [List.take_append_drop]⟩
      rw [List.length_take]
      rcases hannounces with ⟨rfl, rfl, -, byte, tail, rfl, -⟩ | ⟨-, -, hfits, -⟩
      · simp
      · omega
    · cases isList <;> simp [throw, throwThe, MonadExceptOf.throw] at hpayload
  · rintro ⟨header, hlist, hlength, hannounces⟩
    refine ⟨(header, payload ++ rest), Header.decode_eq_ok_iff.mpr hannounces, ?_⟩
    dsimp only
    rw [if_pos hlist, hlength, List.take_left, List.drop_left]
    rfl

/-- Lists are read from their only form. -/
theorem decodePayload_list_eq_ok_iff {input payload rest : Bytes} :
    decodePayload true input = .ok (payload, rest) ↔
      payload.length < 2 ^ 64 ∧ input = encodeList payload ++ rest := by
  rw [decodePayload_eq_ok_iff]
  constructor
  · rintro ⟨⟨isList, length⟩, hlist, hlength, hannounces⟩
    dsimp only at hlist hlength
    subst hlist hlength
    rcases hannounces with ⟨heq, -⟩ | ⟨rfl, hlimit, -, -⟩
    · simp at heq
    · refine ⟨hlimit, ?_⟩
      simp [Header.encode, encodeList]
  · rintro ⟨hlimit, rfl⟩
    refine ⟨⟨true, payload.length⟩, rfl, rfl, Or.inr ⟨?_, hlimit, ?_, by simp⟩⟩
    · simp [Header.encode, encodeList]
    · simp

/-- A string that stands for itself is one small byte. -/
theorem encodeString_of_standsAlone {payload : Bytes} (h : StandsAlone payload.length payload) :
    encodeString payload = payload := by
  obtain ⟨hlength, byte, tail, rfl, hbyte⟩ := h
  have htail : tail = [] := by simpa using hlength
  subst htail
  simp [encodeString, hbyte]

/-- Every other string has a header. -/
theorem encodeString_of_not_standsAlone {payload : Bytes}
    (h : ¬StandsAlone payload.length payload) :
    encodeString payload = encodeHeader stringOffset payload.length ++ payload := by
  unfold encodeString
  split
  · rename_i byte
    have hbyte : ¬byte < 0x80 := fun hlt => h ⟨rfl, byte, [], rfl, hlt⟩
    rw [if_neg hbyte]
    rfl
  · rfl

/-- Whether a string stands for itself does not depend on what follows. -/
theorem standsAlone_append_iff {payload rest : Bytes} :
    StandsAlone payload.length (payload ++ rest) ↔ StandsAlone payload.length payload := by
  unfold StandsAlone
  cases payload with
  | nil => simp
  | cons byte tail =>
    simp only [List.cons_append, List.cons.injEq]
    constructor
    · rintro ⟨hone, byte', tail', ⟨rfl, -⟩, hbyte⟩
      exact ⟨hone, byte, tail, ⟨rfl, rfl⟩, hbyte⟩
    · rintro ⟨hone, byte', tail', ⟨rfl, -⟩, hbyte⟩
      exact ⟨hone, byte, tail ++ rest, ⟨rfl, rfl⟩, hbyte⟩

/-- Strings are read from their only form. -/
theorem decodePayload_string_eq_ok_iff {input payload rest : Bytes} :
    decodePayload false input = .ok (payload, rest) ↔
      payload.length < 2 ^ 64 ∧ input = encodeString payload ++ rest := by
  rw [decodePayload_eq_ok_iff]
  constructor
  · rintro ⟨⟨isList, length⟩, hlist, hlength, hannounces⟩
    dsimp only at hlist hlength
    subst hlist hlength
    rcases hannounces with ⟨heq, rfl, halone⟩ | ⟨rfl, hlimit, -, halone⟩
    · have hone : payload.length = 1 := by simpa using heq
      rw [← hone, standsAlone_append_iff] at halone
      exact ⟨by omega, by rw [encodeString_of_standsAlone halone]⟩
    · have hheader : ¬StandsAlone payload.length payload := by
        rw [← @standsAlone_append_iff payload rest]
        exact fun h => halone ⟨rfl, h⟩
      refine ⟨hlimit, ?_⟩
      rw [encodeString_of_not_standsAlone hheader]
      simp [Header.encode]
  · rintro ⟨hlimit, rfl⟩
    refine ⟨⟨false, payload.length⟩, rfl, rfl, ?_⟩
    by_cases halone : StandsAlone payload.length payload
    · left
      have hone := halone.1
      have hfront := (@standsAlone_append_iff payload rest).mpr halone
      rw [hone] at hfront
      rw [encodeString_of_standsAlone halone, hone]
      exact ⟨rfl, rfl, hfront⟩
    · right
      rw [encodeString_of_not_standsAlone halone]
      refine ⟨by simp [Header.encode], hlimit, by simp, ?_⟩
      rintro ⟨-, h⟩
      exact halone (standsAlone_append_iff.mp h)

/-- Numbers of 64 bits are read from their only form. -/
theorem decodeUInt64_eq_ok_iff {input rest : Bytes} {n : UInt64} :
    decodeUInt64 input = .ok (n, rest) ↔ input = encodeUInt64 n ++ rest := by
  unfold decodeUInt64 encodeUInt64
  rw [bind_eq_ok_iff]
  constructor
  · rintro ⟨⟨payload, tail⟩, hpayload, hnumber⟩
    obtain ⟨-, rfl⟩ := decodePayload_string_eq_ok_iff.mp hpayload
    obtain ⟨number, hread, hresult⟩ := bind_eq_ok_iff.mp hnumber
    obtain ⟨hlimit, rfl⟩ := readNat_eq_ok_iff.mp hread
    simp only [pure, Except.pure, Except.ok.injEq, Prod.mk.injEq] at hresult
    obtain ⟨rfl, rfl⟩ := hresult
    rw [UInt64.toNat_ofNat_of_lt' hlimit]
  · rintro rfl
    have hlength := Bytes.length_minimal_le n.toNat
    refine ⟨(Bytes.minimal n.toNat, rest),
      decodePayload_string_eq_ok_iff.mpr ⟨by omega, rfl⟩, ?_⟩
    dsimp only
    rw [readNat_eq_ok_iff.mpr ⟨n.toNat_lt, rfl⟩]
    simp [bind, Except.bind, pure, Except.pure]

/-- A byte string of the right length is accepted as it is. -/
theorem ofList?_eq_some_iff {size : Nat} {bytes : Bytes} {item : FixedBytes size} :
    FixedBytes.ofList? size bytes = some item ↔ item.toList = bytes := by
  unfold FixedBytes.ofList?
  constructor
  · intro h
    split at h
    · rw [← Option.some.inj h]
    · simp at h
  · rintro rfl
    rw [dif_pos item.length_toList]

variable {size : Nat} (hsize : size < 2 ^ 64)

include hsize

/-- Strings of a fixed length are read from their only form. -/
theorem decodeFixed_eq_ok_iff {input rest : Bytes} {item : FixedBytes size} :
    decodeFixed size input = .ok (item, rest) ↔ input = encodeString item.toList ++ rest := by
  unfold decodeFixed
  rw [bind_eq_ok_iff]
  constructor
  · rintro ⟨⟨payload, tail⟩, hpayload, hitem⟩
    obtain ⟨-, rfl⟩ := decodePayload_string_eq_ok_iff.mp hpayload
    dsimp only at hitem
    cases hfound : FixedBytes.ofList? size payload with
    | none => simp [hfound, throw, throwThe, MonadExceptOf.throw] at hitem
    | some found =>
      simp only [hfound, pure, Except.pure, Except.ok.injEq, Prod.mk.injEq] at hitem
      obtain ⟨rfl, rfl⟩ := hitem
      rw [ofList?_eq_some_iff.mp hfound]
  · rintro rfl
    refine ⟨(item.toList, rest),
      decodePayload_string_eq_ok_iff.mpr ⟨by rw [item.length_toList]; exact hsize, rfl⟩, ?_⟩
    dsimp only
    rw [ofList?_eq_some_iff.mpr rfl]
    rfl

/-- Items that were read one after the other were written one after the other. -/
theorem eq_flatMap_of_decodeFixedItems {input : Bytes} {items : List (FixedBytes size)}
    (hok : decodeFixedItems size input = .ok items) :
    input = items.flatMap fun item => encodeString item.toList := by
  fun_induction decodeFixedItems size input generalizing items with
  | case1 =>
    have hnil : items = [] := by simpa using hok.symm
    rw [hnil]
    rfl
  | case2 => simp at hok
  | case3 => simp at hok
  | case4 input _ item rest hitem _ found hfound ih =>
    have hitems : item :: found = items := by simpa using hok
    rw [← hitems, List.flatMap_cons, ← ih hfound]
    exact (decodeFixed_eq_ok_iff hsize).mp hitem

/-- Items that were written one after the other are read back until nothing is left. -/
theorem decodeFixedItems_flatMap (items : List (FixedBytes size)) :
    decodeFixedItems size (items.flatMap fun item => encodeString item.toList) = .ok items := by
  induction items with
  | nil => simp [decodeFixedItems]
  | cons item items ih =>
    have hitem := (decodeFixed_eq_ok_iff hsize).mpr
      (rfl : encodeString item.toList ++ items.flatMap (fun item => encodeString item.toList) = _)
    have hshorter := length_decodeFixed_lt hitem
    rw [List.flatMap_cons, decodeFixedItems, if_neg (List.length_pos_iff.mp (by omega))]
    split
    · rename_i e herror
      rw [hitem] at herror
      simp at herror
    · rename_i found rest hfound
      rw [hitem] at hfound
      simp only [Except.ok.injEq, Prod.mk.injEq] at hfound
      obtain ⟨rfl, rfl⟩ := hfound
      rw [ih]

/-- Lists of strings of a fixed length are read from their only form. -/
theorem decodeFixedList_eq_ok_iff {input rest : Bytes} {items : List (FixedBytes size)} :
    decodeFixedList size input = .ok (items, rest) ↔
      (items.flatMap fun item => encodeString item.toList).length < 2 ^ 64 ∧
        input = encodeFixedList items ++ rest := by
  unfold decodeFixedList encodeFixedList
  rw [bind_eq_ok_iff]
  constructor
  · rintro ⟨⟨payload, tail⟩, hpayload, hitems⟩
    obtain ⟨hlimit, rfl⟩ := decodePayload_list_eq_ok_iff.mp hpayload
    obtain ⟨found, hfound, hresult⟩ := bind_eq_ok_iff.mp hitems
    simp only [pure, Except.pure, Except.ok.injEq, Prod.mk.injEq] at hresult
    obtain ⟨rfl, rfl⟩ := hresult
    rw [← eq_flatMap_of_decodeFixedItems hsize hfound]
    exact ⟨hlimit, rfl⟩
  · rintro ⟨hlimit, rfl⟩
    refine ⟨(_, rest), decodePayload_list_eq_ok_iff.mpr ⟨hlimit, rfl⟩, ?_⟩
    dsimp only
    rw [decodeFixedItems_flatMap hsize]
    rfl

end BlobLimbo.Rlp
