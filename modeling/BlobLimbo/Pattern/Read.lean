import BlobLimbo.Pattern.CharacterClass
import BlobLimbo.Text.Alphanumeric

/-!
# Reading patterns

Finds out whether a text is a pattern. Repetitions with counts in braces are not part of these
patterns, because the place they are written in ends at the first closing brace: an opening brace
outside a class is a fault.
-/

namespace BlobLimbo.Pattern

/-- Why a pattern cannot be used. -/
inductive Fault where
  /-- It is no pattern, or it needs tables of characters, or it could match a part of a
  character. -/
  | unsound
  /-- It asks for the edge of a word of characters. -/
  | wordEdge
  deriving DecidableEq, Repr

/-- The number of parts that may be nested in each other. -/
def maxDepth : Nat := 250

/-- An item of a sequence. -/
structure Item where
  /-- How deeply parts are nested in it. -/
  depth : Nat := 0
  /-- Whether it can be repeated. -/
  repeatable : Bool := true
  deriving DecidableEq, Repr

/-- What is known about a pattern as a whole. -/
structure Notes where
  /-- The names of its groups. -/
  names : List String := []
  /-- Whether it asks for the edge of a word of characters. -/
  wordEdge : Bool := false
  deriving DecidableEq, Repr

/-! ## Groups -/

/-- The letters of flags, and the sign before those that are switched off. -/
def flagLetters : List Char := ['i', 'm', 's', 'R', 'U', 'u', 'x', '-']

/-- Reads flags up to the character after them. -/
def readFlags (input : List Char) : Option (List Char × Char × List Char) :=
  let isEnd (c : Char) : Bool := c = ':' ∨ c = ')'
  let letters := input.takeWhile fun c => !isEnd c
  match input.dropWhile fun c => !isEnd c with
  | [] => none
  | mark :: rest =>
    if letters.all flagLetters.contains ∧ letters.Nodup ∧ letters.getLast? ≠ some '-' then
      some (letters, mark, rest)
    else none

/-- Changes a mode by flags. -/
def Mode.apply (mode : Mode) (letters : List Char) : Mode :=
  let on := letters.takeWhile (· ≠ '-')
  let after (letter : Char) (before : Bool) : Bool :=
    if letter ∈ on then true else if letter ∈ letters then false else before
  { ignoreCase := after 'i' mode.ignoreCase
    unicode := after 'u' mode.unicode
    spaced := after 'x' mode.spaced }

/-- Whether a text can name a group. -/
def isGroupName : List Char → Bool
  | [] => false
  | c :: rest =>
    (c = '_' || Text.isAlphabetic c) &&
      rest.all fun c => c ∈ ['_', '.', '[', ']'] || Text.isAlphanumeric c

/-- What an opening parenthesis begins. -/
inductive Opening where
  /-- Flags for what follows. -/
  | flags (letters : List Char)
  /-- A group, with flags for what is in it. -/
  | group (letters : List Char)
  /-- A group with a name. -/
  | named (name : String)
  deriving DecidableEq, Repr

/-- Reads the name of a group. -/
def readGroupName (input : List Char) : Option (Opening × List Char) :=
  let name := input.takeWhile (· ≠ '>')
  match input.dropWhile (· ≠ '>') with
  | [] => none
  | _ :: rest => if isGroupName name then some (.named (.ofList name), rest) else none

/-- Reads what follows an opening parenthesis, up to what is in the group. -/
def readOpening (mode : Mode) (input : List Char) : Option (Opening × List Char) :=
  match mode.skip input with
  | '?' :: 'P' :: '<' :: rest => readGroupName rest
  | '?' :: '<' :: rest => readGroupName rest
  | '?' :: rest => do
    let (letters, mark, rest) ← readFlags rest
    if mark = ':' then return (.group letters, rest)
    else if letters = [] then none
    else return (.flags letters, rest)
  | rest => some (.group [], rest)

/-! ## Sequences -/

/-- The depth of a sequence. -/
def depthOfSequence (items : List Item) : Nat :=
  depthTogether (items.map Item.depth)

/-- Reads the item that begins a text, unless this is a group. -/
def readItem (mode : Mode) (notes : Notes) : List Char → Option (Item × Notes × List Char)
  | '[' :: rest => do
    let (depth, rest) ← readClass mode rest
    return ({ depth }, notes, rest)
  | '.' :: rest => if mode.unicode then some ({}, notes, rest) else none
  | '^' :: rest | '$' :: rest => some ({}, notes, rest)
  | '\x7b' :: _ => none
  | input => do
    let (atom, rest) ← readAtom mode input
    if mode.allows atom then
      let wordEdge := notes.wordEdge || (mode.unicode && atom = .wordEdge)
      return ({}, { notes with wordEdge }, rest)
    else none

/-- Reads alternatives up to the end of the group or, outside of groups, of the text, and gives
their depth. The first number bounds how many items there can be. -/
def readAlternatives : (bound : Nat) → (inGroup : Bool) → Mode → Notes → (earlier : List Nat) →
    (items : List Item) → List Char → Option (Nat × Notes × List Char)
  | 0, _, _, _, _, _, _ => none
  | bound + 1, inGroup, mode, notes, earlier, items, input =>
    let depth := depthTogether (depthOfSequence items :: earlier)
    match mode.skip input with
    | [] => if inGroup then none else some (depth, notes, [])
    | ')' :: rest => if inGroup then some (depth, notes, rest) else none
    | '|' :: rest =>
      readAlternatives bound inGroup mode notes (depthOfSequence items :: earlier) [] rest
    | '(' :: rest => do
      let (opening, rest) ← readOpening mode rest
      match opening with
      | .flags letters =>
        readAlternatives bound inGroup (mode.apply letters) notes earlier
          ({ repeatable := false } :: items) rest
      | .group letters => do
        let (depth, notes, rest) ←
          readAlternatives bound true (mode.apply letters) notes [] [] rest
        readAlternatives bound inGroup mode notes earlier ({ depth := depth + 1 } :: items) rest
      | .named name =>
        if name ∈ notes.names then none
        else do
          let notes := { notes with names := name :: notes.names }
          let (depth, notes, rest) ← readAlternatives bound true mode notes [] [] rest
          readAlternatives bound inGroup mode notes earlier ({ depth := depth + 1 } :: items) rest
    | c :: rest =>
      if c ∈ ['?', '*', '+'] then
        match items with
        | [] => none
        | item :: before =>
          if item.repeatable then
            let rest := if rest.head? = some '?' then rest.drop 1 else rest
            readAlternatives bound inGroup mode notes earlier
              ({ depth := item.depth + 1 } :: before) rest
          else none
      else do
        let (item, notes, rest) ← readItem mode notes (c :: rest)
        readAlternatives bound inGroup mode notes earlier (item :: items) rest

/-- The fault of a pattern, if it has one. -/
def fault? (pattern : List Char) : Option Fault :=
  match readAlternatives (pattern.length + 1) false {} {} [] [] pattern with
  | none => some .unsound
  | some (depth, notes, _) =>
    if maxDepth < depth then some .unsound
    else if notes.wordEdge then some .wordEdge
    else none

end BlobLimbo.Pattern
