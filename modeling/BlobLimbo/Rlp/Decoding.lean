import BlobLimbo.FixedBytes
import BlobLimbo.Rlp.Error

/-!
# Reading RLP

Readers take a byte string and return what they read together with the bytes that follow. Only
canonical encodings are accepted: no header that a shorter one could replace, and no leading
zeros in numbers and lengths. Every item takes at least one byte (`length_decodePayload_lt`), so
reading a list of items comes to an end.
-/

namespace BlobLimbo.Rlp

/-- What the header of an item says. -/
structure Header where
  /-- Whether the item is a list. -/
  isList : Bool
  /-- The number of payload bytes. -/
  length : Nat
  deriving DecidableEq, Repr

/-- Accepts a header if as many bytes follow as it announces. -/
def Header.fitting (header : Header) (rest : Bytes) : Except DecodeError (Header × Bytes) :=
  if (rest.take header.length).length < header.length then .error .inputTooShort
  else .ok (header, rest)

/-- A number without leading zeros in at most eight bytes. -/
def readNat (digits : Bytes) : Except DecodeError Nat :=
  if 8 < digits.length then .error .overflow
  else if digits.head? = some 0 then .error .leadingZero
  else .ok (Bytes.toNat digits)

/-- The rest of a header whose length is written in the next `width` bytes. -/
def Header.decodeLong (isList : Bool) (width : Nat) (input : Bytes) :
    Except DecodeError (Header × Bytes) :=
  if (input.take width).length < width then .error .inputTooShort
  else
    match readNat (input.take width) with
    | .error e => .error e
    | .ok length =>
      if length < 56 then .error .nonCanonicalSize
      else Header.fitting ⟨isList, length⟩ (input.drop width)

/-- The rest of a header for a string of at most 55 bytes. One byte below `0x80` needs none. -/
def Header.decodeShort (length : Nat) (input : Bytes) : Except DecodeError (Header × Bytes) :=
  if length = 1 then
    match input with
    | [] => .error .inputTooShort
    | byte :: _ =>
      if byte < 0x80 then .error .nonCanonicalSingleByte else Header.fitting ⟨false, 1⟩ input
  else Header.fitting ⟨false, length⟩ input

/-- Reads a header. A byte below `0x80` is its own payload and is left in place. -/
def Header.decode : Bytes → Except DecodeError (Header × Bytes)
  | [] => .error .inputTooShort
  | byte :: rest =>
    let b := byte.toNat
    if b < 0x80 then .ok (⟨false, 1⟩, byte :: rest)
    else if b < 0xB8 then Header.decodeShort (b - 0x80) rest
    else if b < 0xC0 then Header.decodeLong false (b - 0xB7) rest
    else if b < 0xF8 then Header.fitting ⟨true, b - 0xC0⟩ rest
    else Header.decodeLong true (b - 0xF7) rest

/-- Reads an item of the given kind and returns its payload. -/
def decodePayload (isList : Bool) (input : Bytes) : Except DecodeError (Bytes × Bytes) := do
  let (header, rest) ← Header.decode input
  if header.isList = isList then
    return (rest.take header.length, rest.drop header.length)
  else throw (if isList then .unexpectedString else .unexpectedList)

/-- Reads a number of at most 64 bits. -/
def decodeUInt64 (input : Bytes) : Except DecodeError (UInt64 × Bytes) := do
  let (payload, rest) ← decodePayload false input
  let n ← readNat payload
  return (UInt64.ofNat n, rest)

/-- Reads a string of one fixed length. -/
def decodeFixed (n : Nat) (input : Bytes) : Except DecodeError (FixedBytes n × Bytes) := do
  let (payload, rest) ← decodePayload false input
  match FixedBytes.ofList? n payload with
  | some item => return (item, rest)
  | none => throw .unexpectedLength

theorem Header.fitting_eq_ok {header header' : Header} {input rest : Bytes}
    (h : header.fitting input = .ok (header', rest)) : header' = header ∧ rest = input := by
  unfold Header.fitting at h
  split at h <;> simp_all

theorem Header.decodeLong_eq_ok {isList : Bool} {width : Nat} {input rest : Bytes}
    {header : Header} (h : Header.decodeLong isList width input = .ok (header, rest)) :
    rest.length ≤ input.length := by
  unfold Header.decodeLong at h
  split at h
  · simp at h
  · split at h
    · simp at h
    · split at h
      · simp at h
      · obtain ⟨-, rfl⟩ := Header.fitting_eq_ok h
        simp

theorem Header.decodeShort_eq_ok {length : Nat} {input rest : Bytes} {header : Header}
    (h : Header.decodeShort length input = .ok (header, rest)) : rest = input := by
  unfold Header.decodeShort at h
  split at h
  · split at h
    · simp at h
    · split at h
      · simp at h
      · exact (Header.fitting_eq_ok h).2
  · exact (Header.fitting_eq_ok h).2

/-- Either a header byte was consumed, or the first byte is the payload. -/
theorem Header.length_decode {input rest : Bytes} {header : Header}
    (h : Header.decode input = .ok (header, rest)) :
    rest.length < input.length ∨ header.length = 1 ∧ rest = input ∧ input ≠ [] := by
  unfold Header.decode at h
  split at h
  · simp at h
  · rename_i byte tail
    dsimp only at h
    split at h
    · simp only [Except.ok.injEq, Prod.mk.injEq] at h
      exact .inr ⟨by rw [← h.1], h.2.symm, by simp⟩
    · split at h
      · rw [Header.decodeShort_eq_ok h]
        simp
      · split at h
        · have := Header.decodeLong_eq_ok h
          simp only [List.length_cons]
          omega
        · split at h
          · obtain ⟨-, rfl⟩ := Header.fitting_eq_ok h
            simp
          · have := Header.decodeLong_eq_ok h
            simp only [List.length_cons]
            omega

/-- Reading an item leaves fewer bytes than there were. -/
theorem length_decodePayload_lt {isList : Bool} {input payload rest : Bytes}
    (h : decodePayload isList input = .ok (payload, rest)) : rest.length < input.length := by
  unfold decodePayload at h
  cases hd : Header.decode input with
  | error e => simp [hd, bind, Except.bind] at h
  | ok read =>
    obtain ⟨header, body⟩ := read
    simp only [hd, bind, Except.bind] at h
    split at h
    · simp only [pure, Except.pure, Except.ok.injEq, Prod.mk.injEq] at h
      rcases Header.length_decode hd with hlt | ⟨hone, rfl, hne⟩
      · rw [← h.2, List.length_drop]
        omega
      · have := List.length_pos_iff.2 hne
        rw [← h.2, List.length_drop]
        omega
    · simp [throw, throwThe, MonadExceptOf.throw] at h

/-- Reading a string of fixed length leaves fewer bytes than there were. -/
theorem length_decodeFixed_lt {n : Nat} {input rest : Bytes} {item : FixedBytes n}
    (h : decodeFixed n input = .ok (item, rest)) : rest.length < input.length := by
  unfold decodeFixed at h
  cases hd : decodePayload false input with
  | error e => simp [hd, bind, Except.bind] at h
  | ok read =>
    obtain ⟨payload, tail⟩ := read
    simp only [hd, bind, Except.bind] at h
    split at h
    · simp only [pure, Except.pure, Except.ok.injEq, Prod.mk.injEq] at h
      rw [← h.2]
      exact length_decodePayload_lt hd
    · simp [throw, throwThe, MonadExceptOf.throw] at h

/-- Reads strings of one fixed length until the input is used up. -/
def decodeFixedItems (n : Nat) (input : Bytes) : Except DecodeError (List (FixedBytes n)) :=
  if input = [] then .ok []
  else
    match h : decodeFixed n input with
    | .error e => .error e
    | .ok (item, rest) =>
      have := length_decodeFixed_lt h
      match decodeFixedItems n rest with
      | .error e => .error e
      | .ok items => .ok (item :: items)
  termination_by input.length

/-- Reads a list of strings of one fixed length. -/
def decodeFixedList (n : Nat) (input : Bytes) :
    Except DecodeError (List (FixedBytes n) × Bytes) := do
  let (payload, rest) ← decodePayload true input
  let items ← decodeFixedItems n payload
  return (items, rest)

end BlobLimbo.Rlp
