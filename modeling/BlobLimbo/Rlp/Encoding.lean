import BlobLimbo.FixedBytes

/-!
# Writing RLP

An item is a string or a list of items. A string of one byte below `0x80` stands for itself;
every other item is a header followed by its payload. Up to 55 payload bytes the header is one
byte; beyond, it is one byte that counts the bytes of the length, then the length itself.
-/

namespace BlobLimbo.Rlp

/-- The first header byte of an empty string. -/
def stringOffset : Nat := 0x80

/-- The first header byte of an empty list. -/
def listOffset : Nat := 0xC0

/-- Payloads shorter than this have a header of one byte. -/
def longFormThreshold : Nat := 56

/-- The header of a payload of `length` bytes, of a string or of a list by its offset. -/
def encodeHeader (offset length : Nat) : Bytes :=
  if length < longFormThreshold then [UInt8.ofNat (offset + length)]
  else
    let digits := Bytes.minimal length
    UInt8.ofNat (offset + longFormThreshold - 1 + digits.length) :: digits

/-- The encoding of a string. -/
def encodeString (payload : Bytes) : Bytes :=
  match payload with
  | [byte] => if byte < 0x80 then [byte] else encodeHeader stringOffset 1 ++ [byte]
  | _ => encodeHeader stringOffset payload.length ++ payload

/-- The encoding of a list whose items are already encoded, one after the other. -/
def encodeList (payload : Bytes) : Bytes :=
  encodeHeader listOffset payload.length ++ payload

/-- A number is the string of its bytes without leading zeros. -/
def encodeUInt64 (n : UInt64) : Bytes :=
  encodeString (Bytes.minimal n.toNat)

/-- A list of strings of one fixed length. -/
def encodeFixedList {n : Nat} (items : List (FixedBytes n)) : Bytes :=
  encodeList (items.flatMap fun item => encodeString item.toList)

end BlobLimbo.Rlp
