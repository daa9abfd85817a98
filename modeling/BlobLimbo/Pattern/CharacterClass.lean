import BlobLimbo.Pattern.Basic

/-!
# Classes of characters

A class lists characters, ranges and other classes in brackets. Two classes may be joined by an
operator: what is in both, what is only in the first, what is in one of them. A caret in front makes
it the class of all other characters.
-/

namespace BlobLimbo.Pattern

/-- The depth of parts side by side. A single one is not nested. -/
def depthTogether : List Nat → Nat
  | [] => 0
  | [depth] => depth
  | depths => depths.foldl max 0 + 1

/-- The depth of the members of a class, with what is to the left of an operator, if there is
one. -/
def depthJoined (left : Option Nat) (members : List Nat) : Nat :=
  match left with
  | none => depthTogether members
  | some left => max left (depthTogether members) + 1

/-- The names of classes. -/
def classNames : List String :=
  ["alnum", "alpha", "ascii", "blank", "cntrl", "digit", "graph", "lower", "print", "punct",
    "space", "upper", "word", "xdigit"]

/-- Reads the name of a class after an opening bracket. Says whether the class of all other
characters is meant. -/
def readNamed : List Char → Option (Bool × List Char)
  | ':' :: input =>
    let (others, input) := match input with
      | '^' :: rest => (true, rest)
      | rest => (false, rest)
    match input.dropWhile (· ≠ ':') with
    | ':' :: ']' :: rest =>
      if String.ofList (input.takeWhile (· ≠ ':')) ∈ classNames then some (others, rest) else none
    | _ => none
  | _ => none

/-- Reads a character, a shorthand or a range of characters in a class. -/
def readMember (mode : Mode) (input : List Char) : Option (List Char) := do
  let (first, rest) ← readAtom mode input
  if !mode.allowsMember first then none else
  match mode.skip rest with
  | '-' :: after =>
    if mode.peek after ∈ [some ']', some '-'] then return '-' :: after
    else
      let (last, rest) ← readAtom mode (mode.skip after)
      match first, last with
      | .character c _, .character d _ =>
        if c ≤ d ∧ mode.allowsMember last then return rest else none
      | _, _ => none
  | rest => return rest

/-- Reads past the caret of a class after its opening bracket. Says whether there is one. -/
def readCaret (mode : Mode) (input : List Char) : Bool × List Char :=
  match mode.skip input with
  | '^' :: rest => (true, rest)
  | rest => (false, rest)

/-- Reads the members of a class up to its closing bracket, and gives its depth. In front, hyphens
stand for themselves, and so does a closing bracket that would leave the class without members. The
first number bounds how many members there can be. -/
def readMembers (mode : Mode) : (bound : Nat) → (others inFront : Bool) → (left : Option Nat) →
    (members : List Nat) → List Char → Option (Nat × List Char)
  | 0, _, _, _, _, _ => none
  | bound + 1, others, inFront, left, members, input =>
    match mode.skip input with
    | [] => none
    | c :: rest =>
      if inFront ∧ (c = '-' ∨ c = ']' ∧ members = []) then
        if mode.allowsMember (.character c false) then
          readMembers mode bound others (c = '-') left (0 :: members) rest
        else none
      else if c = ']' then
        if mode.unicode ∨ !others then some (depthJoined left members + 1, rest) else none
      else if c = '[' then
        match readNamed rest with
        | some (othersNamed, rest) =>
          if mode.allowsNamed othersNamed then
            readMembers mode bound others false left (0 :: members) rest
          else none
        | none => do
          let (othersInside, rest) := readCaret mode rest
          let (depth, rest) ← readMembers mode bound othersInside true none [] rest
          readMembers mode bound others false left (depth :: members) rest
      else if c ∈ ['&', '-', '~'] ∧ rest.head? = some c then
        readMembers mode bound others false (some (depthJoined left members)) [] (rest.drop 1)
      else do
        let rest ← readMember mode (c :: rest)
        readMembers mode bound others false left (0 :: members) rest

/-- Reads a class after its opening bracket, and gives its depth. -/
def readClass (mode : Mode) (input : List Char) : Option (Nat × List Char) :=
  let (others, rest) := readCaret mode input
  readMembers mode (input.length + 1) others true none [] rest

end BlobLimbo.Pattern
