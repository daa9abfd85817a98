/-!
# Reasons an RLP item is refused
-/

namespace BlobLimbo.Rlp

/-- Why a byte string is not the RLP encoding that was asked for. -/
inductive DecodeError where
  /-- A number has more bytes than fit its type. -/
  | overflow
  /-- A number or a length starts with a zero byte. -/
  | leadingZero
  /-- Fewer bytes follow than a header announces. -/
  | inputTooShort
  /-- A byte below `0x80` carries a header it does not need. -/
  | nonCanonicalSingleByte
  /-- A length below 56 is written in the long form. -/
  | nonCanonicalSize
  /-- A string has the wrong length, or bytes follow the item. -/
  | unexpectedLength
  /-- A string where a list was expected. -/
  | unexpectedString
  /-- A list where a string was expected. -/
  | unexpectedList
  /-- The fields of a list do not fill the list exactly. -/
  | listLengthMismatch (expected got : Nat)
  deriving DecidableEq, Repr

/-- The text an operator reads. -/
def DecodeError.message : DecodeError → String
  | .overflow => "overflow"
  | .leadingZero => "leading zero"
  | .inputTooShort => "input too short"
  | .nonCanonicalSingleByte => "non-canonical single byte"
  | .nonCanonicalSize => "non-canonical size"
  | .unexpectedLength => "unexpected length"
  | .unexpectedString => "unexpected string"
  | .unexpectedList => "unexpected list"
  | .listLengthMismatch expected got =>
    "unexpected list length (got " ++ toString got ++ ", expected " ++ toString expected ++ ")"

end BlobLimbo.Rlp
