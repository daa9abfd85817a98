import BlobLimbo.Pattern.Read

/-!
# Values of fields of spans in directives

A value is true, false, a number or a pattern. The words for truth are patterns, too, and so are
most numbers: only a number with a plus sign is not.
-/

namespace BlobLimbo

/-- The text of the fault of a pattern. -/
def Pattern.Fault.message : Pattern.Fault → String
  | .unsound => "error building NFA"
  | .wordEdge =>
    "unsupported regex feature for DFAs: cannot build DFAs for regexes with Unicode word " ++
      "boundaries; switch to ASCII word boundaries, or heuristically enable Unicode word " ++
      "boundaries or use a different regex engine"

namespace SpanValue

/-- A text without the sign in front of it. -/
def dropSign : List Char → List Char
  | '+' :: rest | '-' :: rest => rest
  | text => text

/-- Whether a text is a number without a sign: digits with or without a point and an exponent, or
one of the words for what is not finite. -/
def isUnsigned (text : List Char) : Bool :=
  let whole := text.takeWhile Char.isDigit
  let (fraction, rest) := match text.dropWhile Char.isDigit with
    | '.' :: rest => (rest.takeWhile Char.isDigit, rest.dropWhile Char.isDigit)
    | rest => ([], rest)
  let exponent := match rest with
    | [] => true
    | c :: rest =>
      let digits := dropSign rest
      c.toLower = 'e' && digits ≠ [] && digits.all Char.isDigit
  (whole ++ fraction ≠ [] && exponent) ||
    String.ofList (text.map Char.toLower) ∈ ["inf", "infinity", "nan"]

/-- Whether a text is a number. -/
def isNumber (text : List Char) : Bool :=
  isUnsigned (dropSign text)

/-- The fault of a value, if it has one. -/
def fault? (text : List Char) : Option Pattern.Fault :=
  if isNumber text then none else Pattern.fault? text

end SpanValue

end BlobLimbo
