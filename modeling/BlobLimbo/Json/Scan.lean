import BlobLimbo.Bytes
import BlobLimbo.Text.Cut

/-!
# Scanning JSON

Readers take the characters that are left and return what they read together with the characters
after it. They stop at the first fault, and tell apart text that is no JSON, text that ends too
early, and JSON of another shape than the one asked for.
-/

namespace BlobLimbo.Json

/-- Why a text is not the document that was asked for. -/
inductive Fault where
  /-- It is no JSON. -/
  | malformed
  /-- It ends too early. -/
  | incomplete
  /-- It has another shape. -/
  | mismatch
  deriving DecidableEq, Repr

/-- The blanks between tokens. -/
def isSpace (c : Char) : Bool :=
  c = ' ' ∨ c = '\n' ∨ c = '\t' ∨ c = '\r'

/-- Passes over blanks. -/
def skipSpace (input : List Char) : List Char :=
  input.dropWhile isSpace

/-- Passes over the given characters. -/
def expectWord : (word : List Char) → List Char → Except Fault (List Char)
  | [], input => .ok input
  | _ :: _, [] => .error .incomplete
  | c :: word, d :: input => if c = d then expectWord word input else .error .malformed

/-- Passes over blanks and one character. -/
def expectMark (mark : Char) (input : List Char) : Except Fault (List Char) :=
  match skipSpace input with
  | [] => .error .incomplete
  | c :: rest => if c = mark then .ok rest else .error .malformed

/-! ## Strings -/

/-- The number in the next four hexadecimal digits. Text that ends before four more bytes is
incomplete. -/
def readHex4 (input : List Char) : Except Fault (Nat × List Char) :=
  match input with
  | a :: b :: c :: d :: rest =>
    match Bytes.hexValue? a, Bytes.hexValue? b, Bytes.hexValue? c, Bytes.hexValue? d with
    | some a, some b, some c, some d => .ok (((a * 16 + b) * 16 + c) * 16 + d, rest)
    | _, _, _, _ => .error .malformed
  | few => if Text.byteLength few < 4 then .error .incomplete else .error .malformed

/-- Whether a number is the first half of a surrogate pair. -/
def isHighSurrogate (n : Nat) : Bool :=
  0xD800 ≤ n ∧ n < 0xDC00

/-- Whether a number is the second half of a surrogate pair. -/
def isLowSurrogate (n : Nat) : Bool :=
  0xDC00 ≤ n ∧ n < 0xE000

/-- Reads the escape that follows a first half of a surrogate pair. -/
def readLowSurrogate (high : Nat) (input : List Char) : Except Fault (Char × List Char) := do
  let input ← expectWord ['\\', 'u'] input
  let (low, rest) ← readHex4 input
  if isLowSurrogate low then
    return (Char.ofNat (0x10000 + (high - 0xD800) * 0x400 + (low - 0xDC00)), rest)
  else throw .malformed

/-- Reads what follows a backslash and a `u`: one escape, or two that make a surrogate pair. -/
def readUnicode (input : List Char) : Except Fault (Char × List Char) := do
  let (n, rest) ← readHex4 input
  if isLowSurrogate n then throw .malformed
  else if isHighSurrogate n then readLowSurrogate n rest
  else return (Char.ofNat n, rest)

/-- The character a one-letter escape stands for. -/
def escaped? : Char → Option Char
  | '"' => some '"'
  | '\\' => some '\\'
  | '/' => some '/'
  | 'b' => some '\x08'
  | 'f' => some '\x0c'
  | 'n' => some '\n'
  | 'r' => some '\r'
  | 't' => some '\t'
  | _ => none

/-- Reads what follows a backslash. -/
def readEscape : List Char → Except Fault (Char × List Char)
  | [] => .error .incomplete
  | 'u' :: rest => readUnicode rest
  | c :: rest =>
    match escaped? c with
    | some d => .ok (d, rest)
    | none => .error .malformed

/-- Reads the characters of a string up to its closing quote. The first number bounds how many
there can be. -/
def readCharacters : (bound : Nat) → List Char → Except Fault (List Char × List Char)
  | 0, _ => .error .incomplete
  | _ + 1, [] => .error .incomplete
  | bound + 1, c :: rest =>
    if c = '"' then .ok ([], rest)
    else if c = '\\' then do
      let (d, rest) ← readEscape rest
      let (text, rest) ← readCharacters bound rest
      return (d :: text, rest)
    else if c.toNat < 0x20 then .error .malformed
    else do
      let (text, rest) ← readCharacters bound rest
      return (c :: text, rest)

/-- Reads a string after its opening quote. -/
def readString (input : List Char) : Except Fault (List Char × List Char) :=
  readCharacters (input.length + 1) input

/-- Passes over the characters of a string up to its closing quote. What an escape of four digits
stands for does not matter here. -/
def skipCharacters : (bound : Nat) → List Char → Except Fault (List Char)
  | 0, _ => .error .incomplete
  | _ + 1, [] => .error .incomplete
  | bound + 1, c :: rest =>
    if c = '"' then .ok rest
    else if c = '\\' then
      match rest with
      | [] => .error .incomplete
      | 'u' :: rest => do
        let (_, rest) ← readHex4 rest
        skipCharacters bound rest
      | d :: rest => if (escaped? d).isSome then skipCharacters bound rest else .error .malformed
    else if c.toNat < 0x20 then .error .malformed
    else skipCharacters bound rest

/-- Passes over a string after its opening quote. -/
def skipString (input : List Char) : Except Fault (List Char) :=
  skipCharacters (input.length + 1) input

/-! ## Numbers -/

/-- What the text of a number stands for. -/
inductive Number where
  /-- A whole number from zero up. -/
  | natural (n : Nat)
  /-- Any other number. -/
  | other
  deriving DecidableEq, Repr

/-- The largest number that is read digit by digit. -/
def maxSignificand : Nat := 0xFFFFFFFFFFFFFFFF

/-- The value of a decimal digit. -/
def digitValue (c : Char) : Nat :=
  c.toNat - '0'.toNat

/-- Appends decimal digits to a number as long as it stays in 64 bits. Returns the number, how many
digits were taken, and how many were not. -/
def appendDigits (significand : Nat) : List Char → Nat × Nat × Nat
  | [] => (significand, 0, 0)
  | d :: digits =>
    let next := significand * 10 + digitValue d
    if maxSignificand < next then (significand, 0, digits.length + 1)
    else
      let (last, taken, left) := appendDigits next digits
      (last, taken + 1, left)

/-- The nearest number with at most 53 significant bits, ties to even. -/
def roundToDouble (n : Nat) : Nat :=
  let excess := n.log2 + 1 - 53
  let quotient := n >>> excess
  let unit : Nat := 1 <<< excess
  let remainder := n % unit
  let up := unit < 2 * remainder ∨ unit = 2 * remainder ∧ quotient % 2 = 1
  (if excess ≠ 0 ∧ up then quotient + 1 else quotient) <<< excess

/-- Whether a number times a power of ten is too large for double precision. Both factors and the
product are rounded. -/
def exceedsDouble (significand : Nat) (exponent : Int) : Bool :=
  if significand = 0 ∨ exponent < 0 then false
  else if 308 < exponent then true
  else
    let power := Nat.pow 10 exponent.toNat
    1 <<< 1024 ≤ roundToDouble (roundToDouble significand * roundToDouble power)

/-- A number with a fraction or an exponent. Too large a number is refused. -/
def scaled (significand : Nat) (exponent : Int) (rest : List Char) :
    Except Fault (Number × List Char) :=
  if exceedsDouble significand exponent then .error .malformed else .ok (.other, rest)

/-- Reads the exponent of a number after its `e`. -/
def readExponent (significand : Nat) (exponent : Int) (input : List Char) :
    Except Fault (Number × List Char) :=
  let (negative, input) := match input with
    | '+' :: rest => (false, rest)
    | '-' :: rest => (true, rest)
    | _ => (false, input)
  let digits := input.takeWhile Char.isDigit
  let rest := input.dropWhile Char.isDigit
  if digits.isEmpty then .error (if rest.isEmpty then .incomplete else .malformed)
  else
    let power : Int := digits.foldl (fun n d => n * 10 + digitValue d) 0
    scaled significand (if negative then exponent - power else exponent + power) rest

/-- Reads the digits after a decimal point. -/
def readFraction (significand : Nat) (exponent : Int) (input : List Char) :
    Except Fault (Number × List Char) :=
  let digits := input.takeWhile Char.isDigit
  let rest := input.dropWhile Char.isDigit
  if digits.isEmpty then .error (if rest.isEmpty then .incomplete else .malformed)
  else
    let (significand, taken, _) := appendDigits significand digits
    let exponent := exponent - taken
    match rest with
    | 'e' :: rest | 'E' :: rest => readExponent significand exponent rest
    | _ => scaled significand exponent rest

/-- Reads a number from its sign or its first digit on. -/
def readNumber (input : List Char) : Except Fault (Number × List Char) :=
  let (negative, input) := match input with
    | '-' :: rest => (true, rest)
    | _ => (false, input)
  let digits := input.takeWhile Char.isDigit
  let rest := input.dropWhile Char.isDigit
  match digits with
  | [] => .error (if rest.isEmpty then .incomplete else .malformed)
  | '0' :: _ :: _ => .error .malformed
  | _ =>
    let (significand, _, left) := appendDigits 0 digits
    match rest with
    | '.' :: rest => readFraction significand left rest
    | 'e' :: rest | 'E' :: rest => readExponent significand left rest
    | _ =>
      if 0 < left then scaled significand left rest
      else .ok (if negative then .other else .natural significand, rest)

/-- Passes over digits, of which there must be one. -/
def skipDigits (input : List Char) : Except Fault (List Char) :=
  if (input.takeWhile Char.isDigit).isEmpty then .error .malformed
  else .ok (input.dropWhile Char.isDigit)

/-- Passes over the exponent of a number after its `e`. -/
def skipExponent : List Char → Except Fault (List Char)
  | '+' :: rest | '-' :: rest => skipDigits rest
  | input => skipDigits input

/-- Passes over a number after its sign. How large it is does not matter here. -/
def skipNumber (input : List Char) : Except Fault (List Char) :=
  match input.takeWhile Char.isDigit with
  | [] | '0' :: _ :: _ => .error .malformed
  | _ =>
    match input.dropWhile Char.isDigit with
    | '.' :: rest => do
      match ← skipDigits rest with
      | 'e' :: rest | 'E' :: rest => skipExponent rest
      | rest => return rest
    | 'e' :: rest | 'E' :: rest => skipExponent rest
    | rest => .ok rest

/-! ## Any value -/

/-- What a bracket encloses. -/
inductive Bracket where
  | list
  | object
  deriving DecidableEq, Repr

/-- Where in a value a scan stands. -/
inductive Place where
  /-- Before a value. -/
  | value
  /-- After an opening bracket. -/
  | opened
  /-- Before the name of a member. -/
  | name
  /-- After a value. -/
  | after
  deriving DecidableEq, Repr

/-- Whether a character closes a bracket. -/
def closes : Bracket → Char → Bool
  | .list, c => c = ']'
  | .object, c => c = '\x7d'

/-- Where the next item of a bracket starts. -/
def itemPlace : Bracket → Place
  | .list => .value
  | .object => .name

/-- Passes over a value, given the brackets that are open around the place where the scan stands.
The first number bounds the steps there can be. -/
def skipFrom : (bound : Nat) → Place → List Bracket → List Char → Except Fault (List Char)
  | 0, _, _, _ => .error .incomplete
  | bound + 1, place, brackets, input =>
    match place, brackets with
    | .after, [] => .ok input
    | place, brackets =>
      match place, brackets, skipSpace input with
      | _, _, [] => .error .incomplete
      | .value, _, c :: rest =>
        if c = '[' then skipFrom bound .opened (.list :: brackets) rest
        else if c = '\x7b' then skipFrom bound .opened (.object :: brackets) rest
        else do
          let rest ←
            if c = 'n' then expectWord ['u', 'l', 'l'] rest
            else if c = 't' then expectWord ['r', 'u', 'e'] rest
            else if c = 'f' then expectWord ['a', 'l', 's', 'e'] rest
            else if c = '-' then skipNumber rest
            else if c.isDigit then skipNumber (c :: rest)
            else if c = '"' then skipString rest
            else .error .malformed
          skipFrom bound .after brackets rest
      | .name, _, c :: rest =>
        if c = '"' then do
          let rest ← skipString rest
          let rest ← expectMark ':' rest
          skipFrom bound .value brackets rest
        else .error .malformed
      | .opened, bracket :: outer, c :: rest =>
        if closes bracket c then skipFrom bound .after outer rest
        else skipFrom bound (itemPlace bracket) brackets (c :: rest)
      | .after, bracket :: outer, c :: rest =>
        if c = ',' then skipFrom bound (itemPlace bracket) brackets rest
        else if closes bracket c then skipFrom bound .after outer rest
        else .error .malformed
      | _, [], _ => .error .malformed

/-- Passes over a value of any shape. -/
def skipValue (input : List Char) : Except Fault (List Char) :=
  skipFrom (2 * input.length + 2) .value [] input

end BlobLimbo.Json
