import BlobLimbo.Bytes
import BlobLimbo.Text.Blank

/-!
# Patterns

A pattern describes texts. It is a sequence of characters, classes of characters, places and groups,
any of which may be repeated, and it may list several alternatives. Flags say how a part of a
pattern is to be taken.

A pattern with a fault is refused, and no texts are searched, so reading one only finds out whether
it is sound. No tables of characters are at hand: what needs one, such as letters of either case or
the digits of all scripts, is a fault. The texts are never cut inside a character, so what could
match a part of one is a fault too.
-/

namespace BlobLimbo.Pattern

/-- How a part of a pattern is taken. -/
structure Mode where
  /-- Whether letters stand for both cases. -/
  ignoreCase : Bool := false
  /-- Whether classes and places are about characters and not about bytes. -/
  unicode : Bool := true
  /-- Whether blanks and comments are passed over. -/
  spaced : Bool := false
  deriving DecidableEq, Repr

/-- What a character of a pattern or an escape stands for. -/
inductive Atom where
  /-- A character. With two hexadecimal digits it may also be written as a byte. -/
  | character (c : Char) (asByte : Bool)
  /-- The digits, the blanks or the characters of words, or all others. -/
  | shorthand (others : Bool)
  /-- The start or the end of the text. -/
  | edge
  /-- The start or the end of a word, or any other place. -/
  | wordEdge
  deriving DecidableEq, Repr

namespace Mode

/-- Passes over blanks and comments. A comment begins with a number sign and ends with its line. -/
def skipSpaced : (inComment : Bool) → List Char → List Char
  | _, [] => []
  | true, c :: rest => skipSpaced (c ≠ '\n') rest
  | false, c :: rest =>
    if c = '#' then skipSpaced true rest
    else if Text.isBlank c then skipSpaced false rest
    else c :: rest

/-- Passes over what does not count. -/
def skip (mode : Mode) (input : List Char) : List Char :=
  if mode.spaced then skipSpaced false input else input

/-- The next character that counts. In a comment, the first one that is no blank is taken. -/
def peek (mode : Mode) (input : List Char) : Option Char :=
  if mode.spaced then
    match input.dropWhile Text.isBlank with
    | '#' :: rest => (rest.dropWhile Text.isBlank).head?
    | rest => rest.head?
  else input.head?

/-- Whether an atom may stand in a sequence. -/
def allows (mode : Mode) : Atom → Bool
  | .character c asByte => if mode.unicode then !mode.ignoreCase else !(asByte && 0x80 ≤ c.toNat)
  | .shorthand others => !mode.unicode && !others
  | .edge | .wordEdge => true

/-- Whether an atom may stand in a class. -/
def allowsMember (mode : Mode) : Atom → Bool
  | .character c _ => if mode.unicode then !mode.ignoreCase else c.toNat < 0x80
  | .shorthand others => !mode.unicode && !others
  | .edge | .wordEdge => false

/-- Whether a class named in brackets, or all characters outside it, may stand in a class. -/
def allowsNamed (mode : Mode) (others : Bool) : Bool :=
  if mode.unicode then !mode.ignoreCase else !others

end Mode

/-! ## Escapes -/

/-- Reads the number in the next hexadecimal digits. -/
def readHex (mode : Mode) : (digits : Nat) → (value : Nat) → List Char → Option (Nat × List Char)
  | 0, value, input => some (value, input)
  | digits + 1, value, input =>
    match mode.skip input with
    | [] => none
    | c :: rest => do
      let digit ← Bytes.hexValue? c
      readHex mode digits (value * 16 + digit) rest

/-- Reads a character given by the hexadecimal digits of its number. -/
def readNumbered (mode : Mode) (digits : Nat) (input : List Char) : Option (Atom × List Char) := do
  let (value, rest) ← readHex mode digits 0 input
  if value.isValidChar then return (.character (Char.ofNat value) (digits = 2), rest) else none

/-- The control character a letter stands for. -/
def control? : Char → Option Char
  | 'a' => some '\x07'
  | 'f' => some '\x0c'
  | 't' => some '\t'
  | 'n' => some '\n'
  | 'r' => some '\r'
  | 'v' => some '\x0b'
  | _ => none

/-- What a character after a backslash stands for, unless its number follows. All characters of
ASCII but letters and digits stand for themselves or for places. -/
def escaped? (c : Char) : Option Atom :=
  if c ∈ ['d', 's', 'w'] then some (.shorthand false)
  else if c ∈ ['D', 'S', 'W'] then some (.shorthand true)
  else if c ∈ ['A', 'z'] then some .edge
  else if c ∈ ['b', 'B', '<', '>'] then some .wordEdge
  else match control? c with
    | some control => some (.character control false)
    | none => if c.toNat < 0x80 ∧ !c.isAlphanum then some (.character c false) else none

/-- Reads what follows a backslash. -/
def readEscape (mode : Mode) : List Char → Option (Atom × List Char)
  | [] => none
  | 'x' :: rest => readNumbered mode 2 rest
  | 'u' :: rest => readNumbered mode 4 rest
  | 'U' :: rest => readNumbered mode 8 rest
  | c :: rest => (escaped? c).map fun atom => (atom, rest)

/-- Reads an escape or a single character. -/
def readAtom (mode : Mode) : List Char → Option (Atom × List Char)
  | [] => none
  | '\\' :: rest => readEscape mode rest
  | c :: rest => some (.character c false, rest)

end BlobLimbo.Pattern
