/-!
# The grammar of JSON

Which texts are JSON, told without a reader: one rule for each way of writing a value. What the
readers do is measured against it. `Spells` says which characters stand between the quotes of a
string; a string that is only passed over may also hold escapes that stand for no character
(`Quotable`).
-/

namespace BlobLimbo.Json

/-- The characters that may stand between the parts of a document. -/
def blankChars : List Char :=
  [' ', '\n', '\t', '\r']

/-- A text of nothing but blanks. -/
def Blank (text : List Char) : Prop :=
  ∀ c ∈ text, c ∈ blankChars

/-! ## Strings -/

/-- The letters that may stand behind a backslash, each with the character that is meant. -/
def escapeLetters : List (Char × Char) :=
  [('"', '"'), ('\\', '\\'), ('/', '/'), ('b', '\x08'), ('f', '\x0c'), ('n', '\n'), ('r', '\r'),
    ('t', '\t')]

/-- The hexadecimal digits in lower case, from zero up. -/
def lowerDigits : List Char :=
  ['0', '1', '2', '3', '4', '5', '6', '7', '8', '9', 'a', 'b', 'c', 'd', 'e', 'f']

/-- The hexadecimal digits in upper case, from zero up. -/
def upperDigits : List Char :=
  ['0', '1', '2', '3', '4', '5', '6', '7', '8', '9', 'A', 'B', 'C', 'D', 'E', 'F']

/-- A hexadecimal digit and the number it stands for. -/
def HexDigit (c : Char) (n : Nat) : Prop :=
  lowerDigits[n]? = some c ∨ upperDigits[n]? = some c

/-- Four hexadecimal digits, and the number they stand for. -/
inductive HexQuad : List Char → Nat → Prop
  | mk {a b c d : Char} {i j k l : Nat} (ha : HexDigit a i) (hb : HexDigit b j)
      (hc : HexDigit c k) (hd : HexDigit d l) :
      HexQuad [a, b, c, d] (((i * 16 + j) * 16 + k) * 16 + l)

/-- A number that stands for no character, but is the first one of a pair that does. -/
def HighSurrogate (n : Nat) : Prop :=
  0xD800 ≤ n ∧ n < 0xDC00

/-- A number that stands for no character, but is the second one of a pair that does. -/
def LowSurrogate (n : Nat) : Prop :=
  0xDC00 ≤ n ∧ n < 0xE000

/-- What stands behind a backslash, and the character that is meant. -/
inductive Escape : List Char → Char → Prop
  /-- A letter. -/
  | letter {c d : Char} (h : (d, c) ∈ escapeLetters) : Escape [d] c
  /-- Four digits, for a number that is in no pair. -/
  | unicode {digits : List Char} {n : Nat} (hdigits : HexQuad digits n)
      (hhigh : ¬HighSurrogate n) (hlow : ¬LowSurrogate n) : Escape ('u' :: digits) (Char.ofNat n)
  /-- Twice four digits, for a character behind the first 65536. -/
  | pair {first second : List Char} {high low : Nat} (hfirst : HexQuad first high)
      (hhigh : HighSurrogate high) (hsecond : HexQuad second low) (hlow : LowSurrogate low) :
      Escape ('u' :: (first ++ '\\' :: 'u' :: second))
        (Char.ofNat (0x10000 + (high - 0xD800) * 0x400 + (low - 0xDC00)))

/-- What stands between the quotes of a string, and the characters that are meant. -/
inductive Spells : List Char → List Char → Prop
  | nil : Spells [] []
  /-- A character for itself. -/
  | plain {c : Char} {body text : List Char} (hquote : c ≠ '"') (hbackslash : c ≠ '\\')
      (hcontrol : 0x20 ≤ c.toNat) (h : Spells body text) : Spells (c :: body) (c :: text)
  | escape {c : Char} {escape body text : List Char} (hescape : Escape escape c)
      (h : Spells body text) : Spells ('\\' :: (escape ++ body)) (c :: text)

/-- What may stand between the quotes of a string, whether or not its escapes mean a character. -/
inductive Quotable : List Char → Prop
  | nil : Quotable []
  | plain {c : Char} {body : List Char} (hquote : c ≠ '"') (hbackslash : c ≠ '\\')
      (hcontrol : 0x20 ≤ c.toNat) (h : Quotable body) : Quotable (c :: body)
  | letter {c d : Char} {body : List Char} (hescape : (d, c) ∈ escapeLetters) (h : Quotable body) :
      Quotable ('\\' :: d :: body)
  | unicode {digits body : List Char} {n : Nat} (hdigits : HexQuad digits n) (h : Quotable body) :
      Quotable ('\\' :: 'u' :: (digits ++ body))

/-- What means characters may stand between quotes. -/
theorem Spells.quotable {body text : List Char} (h : Spells body text) : Quotable body := by
  induction h with
  | nil => exact .nil
  | plain hquote hbackslash hcontrol _ ih => exact .plain hquote hbackslash hcontrol ih
  | escape hescape _ ih =>
    cases hescape with
    | letter hletter => exact .letter hletter ih
    | unicode hdigits _ _ => exact .unicode hdigits ih
    | pair hfirst _ hsecond _ =>
      rw [List.cons_append, List.append_assoc]
      exact .unicode hfirst (.unicode hsecond ih)

/-! ## Numbers -/

/-- Decimal digits, at least one. -/
def Digits (text : List Char) : Prop :=
  text ≠ [] ∧ ∀ c ∈ text, c.isDigit = true

/-- The digits in front of a decimal point. A zero in front stands alone. -/
def Whole (text : List Char) : Prop :=
  Digits text ∧ ∀ digits, text = '0' :: digits → digits = []

/-- A decimal point and the digits behind it, or nothing. -/
inductive Fraction : List Char → Prop
  | none : Fraction []
  | some {digits : List Char} (h : Digits digits) : Fraction ('.' :: digits)

/-- An exponent, or nothing. -/
inductive Exponent : List Char → Prop
  | none : Exponent []
  | plain {e : Char} {digits : List Char} (he : e = 'e' ∨ e = 'E') (h : Digits digits) :
      Exponent (e :: digits)
  | signed {e sign : Char} {digits : List Char} (he : e = 'e' ∨ e = 'E')
      (hsign : sign = '+' ∨ sign = '-') (h : Digits digits) : Exponent (e :: sign :: digits)

/-- A number without its sign. -/
inductive Magnitude : List Char → Prop
  | mk {whole fraction exponent : List Char} (hwhole : Whole whole) (hfraction : Fraction fraction)
      (hexponent : Exponent exponent) : Magnitude (whole ++ (fraction ++ exponent))

/-! ## Values -/

/-- What a text is part of a document as. -/
inductive Form where
  /-- A value. -/
  | value
  /-- The items of an array, at least one. -/
  | items
  /-- The members of an object, at least one. -/
  | members

/-- The texts of each form. Blanks may stand in front of every part. -/
inductive Written : Form → List Char → Prop
  /-- Blanks in front. -/
  | blank {form : Form} {c : Char} {text : List Char} (hc : c ∈ blankChars)
      (h : Written form text) : Written form (c :: text)
  | nullWord : Written .value ['n', 'u', 'l', 'l']
  | trueWord : Written .value ['t', 'r', 'u', 'e']
  | falseWord : Written .value ['f', 'a', 'l', 's', 'e']
  | positive {text : List Char} (h : Magnitude text) : Written .value text
  | negative {text : List Char} (h : Magnitude text) : Written .value ('-' :: text)
  | string {body : List Char} (h : Quotable body) : Written .value ('"' :: (body ++ ['"']))
  /-- An array without items. -/
  | emptyArray {inner : List Char} (hinner : Blank inner) : Written .value ('[' :: (inner ++ [']']))
  | array {items inner : List Char} (h : Written .items items) (hinner : Blank inner) :
      Written .value ('[' :: (items ++ (inner ++ [']'])))
  /-- An object without members. -/
  | emptyObject {inner : List Char} (hinner : Blank inner) :
      Written .value ('\x7b' :: (inner ++ ['\x7d']))
  | object {members inner : List Char} (h : Written .members members) (hinner : Blank inner) :
      Written .value ('\x7b' :: (members ++ (inner ++ ['\x7d'])))
  /-- The last item. -/
  | item {value : List Char} (h : Written .value value) : Written .items value
  | items {value inner items : List Char} (h : Written .value value) (hinner : Blank inner)
      (hitems : Written .items items) : Written .items (value ++ (inner ++ ',' :: items))
  /-- The last member. -/
  | member {key inner value : List Char} (hkey : Quotable key) (hinner : Blank inner)
      (h : Written .value value) : Written .members ('"' :: (key ++ '"' :: (inner ++ ':' :: value)))
  | members {key inner value outer members : List Char} (hkey : Quotable key)
      (hinner : Blank inner) (h : Written .value value) (houter : Blank outer)
      (hmembers : Written .members members) :
      Written .members
        ('"' :: (key ++ '"' :: (inner ++ ':' :: (value ++ (outer ++ ',' :: members)))))

end BlobLimbo.Json
