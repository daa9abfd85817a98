import BlobLimbo.Json.Scan

/-!
# Reading values and records

A record is written as an object, whose members come in any order, or as an array of its fields.
Unknown members are passed over; a field may occur once. A value of the wrong shape is a mismatch,
unless the text breaks off or stops being JSON inside that value.
-/

namespace BlobLimbo.Json

/-- The fault of a value that has another shape than the one asked for. A text, a word or a number
is read to its end first. -/
def otherShape (input : List Char) : Fault :=
  let read : Except Fault Unit :=
    match input with
    | [] => .error .incomplete
    | c :: rest =>
      if c = 'n' then (expectWord ['u', 'l', 'l'] rest).map fun _ => ()
      else if c = 't' then (expectWord ['r', 'u', 'e'] rest).map fun _ => ()
      else if c = 'f' then (expectWord ['a', 'l', 's', 'e'] rest).map fun _ => ()
      else if c = '-' ∨ c.isDigit then (readNumber input).map fun _ => ()
      else if c = '"' then (readString rest).map fun _ => ()
      else if c = '[' ∨ c = '\x7b' then .ok ()
      else .error .malformed
  match read with
  | .error fault => fault
  | .ok () => .mismatch

/-- Reads a text. -/
def readText (input : List Char) : Except Fault (String × List Char) :=
  match skipSpace input with
  | '"' :: rest => do
    let (text, rest) ← readString rest
    return (String.ofList text, rest)
  | input => .error (otherShape input)

/-- Reads a truth value. -/
def readBool (input : List Char) : Except Fault (Bool × List Char) :=
  match skipSpace input with
  | 't' :: rest => (expectWord ['r', 'u', 'e'] rest).map fun rest => (true, rest)
  | 'f' :: rest => (expectWord ['a', 'l', 's', 'e'] rest).map fun rest => (false, rest)
  | input => .error (otherShape input)

/-- Reads a whole number of 32 bits. -/
def readUInt32 (input : List Char) : Except Fault (UInt32 × List Char) :=
  match skipSpace input with
  | [] => .error .incomplete
  | c :: rest =>
    if c = '-' ∨ c.isDigit then
      match readNumber (c :: rest) with
      | .error fault => .error fault
      | .ok (.natural n, rest) =>
        if n < UInt32.size then .ok (UInt32.ofNat n, rest) else .error .mismatch
      | .ok (.other, _) => .error .mismatch
    else .error (otherShape (c :: rest))

/-- Reads the null value. -/
def readNull (input : List Char) : Except Fault (List Char) :=
  match skipSpace input with
  | 'n' :: rest => expectWord ['u', 'l', 'l'] rest
  | input => .error (otherShape input)

/-- Reads one of a set of names: a text, or an object whose only member has that name and the value
null. -/
def readName {α : Type} (ofName? : String → Option α) (input : List Char) :
    Except Fault (α × List Char) :=
  match skipSpace input with
  | [] => .error .incomplete
  | c :: rest =>
    if c = '"' then do
      let (name, rest) ← readText (c :: rest)
      match ofName? name with
      | some value => return (value, rest)
      | none => throw .mismatch
    else if c = '\x7b' then do
      let rest ← expectMark '"' rest
      let (name, rest) ← readString rest
      match ofName? (String.ofList name) with
      | some value =>
        let rest ← expectMark ':' rest
        let rest ← readNull rest
        let rest ← expectMark '\x7d' rest
        return (value, rest)
      | none => throw .mismatch
    else .error .malformed

/-- A field of a record that is read into a draft of type `σ`. -/
structure Field (σ : Type) where
  /-- The name of the member. -/
  name : String
  /-- Whether the draft has the field already. -/
  present : σ → Bool
  /-- Reads the field's value into the draft. -/
  read : σ → List Char → Except Fault (σ × List Char)

/-- A field whose value is kept in a part of the draft that is empty at first. -/
def field {σ α : Type} (name : String) (get : σ → Option α) (set : σ → α → σ)
    (read : List Char → Except Fault (α × List Char)) : Field σ where
  name := name
  present draft := (get draft).isSome
  read draft input := do
    let (value, rest) ← read input
    return (set draft value, rest)

/-- Reads the value of a member, given the field of its name, or passes over it. -/
def readMember {σ : Type} (fields : List (Field σ)) (name : String) (draft : σ)
    (input : List Char) : Except Fault (σ × List Char) :=
  match fields.find? fun field => field.name = name with
  | some field =>
    if field.present draft then .error .mismatch
    else do
      let rest ← expectMark ':' input
      field.read draft rest
  | none => do
    let rest ← expectMark ':' input
    let rest ← skipValue rest
    return (draft, rest)

/-- Reads the members of an object up to its closing brace. The first number bounds how many there
can be. -/
def readMembers {σ : Type} (fields : List (Field σ)) :
    (bound : Nat) → (first : Bool) → σ → List Char → Except Fault (σ × List Char)
  | 0, _, _, _ => .error .incomplete
  | bound + 1, first, draft, input =>
    match skipSpace input with
    | [] => .error .incomplete
    | c :: rest =>
      if c = '\x7d' then .ok (draft, rest)
      else do
        let rest ← if first then Except.ok (c :: rest) else expectMark ',' (c :: rest)
        let rest ← expectMark '"' rest
        let (name, rest) ← readString rest
        let (draft, rest) ← readMember fields (String.ofList name) draft rest
        readMembers fields bound false draft rest

/-- Reads the items of an array into the fields of a record, in their order. Without `partly` all
fields must be there. -/
def readItems {σ : Type} (partly : Bool) :
    List (Field σ) → (first : Bool) → σ → List Char → Except Fault (σ × List Char)
  | [], _, draft, input => .ok (draft, input)
  | field :: fields, first, draft, input =>
    match skipSpace input with
    | [] => .error .incomplete
    | c :: rest =>
      if c = ']' then
        if partly then .ok (draft, c :: rest) else .error .mismatch
      else do
        let rest ← if first then Except.ok (c :: rest) else
          match expectMark ',' (c :: rest) with
          | .error fault => .error fault
          | .ok rest =>
            match skipSpace rest with
            | [] => .error .incomplete
            | ']' :: _ => .error .malformed
            | rest => .ok rest
        let (draft, rest) ← field.read draft rest
        readItems partly fields false draft rest

/-- Reads a record into a draft. With `partly`, an array may leave out fields at its end. -/
def readRecord {σ : Type} (partly : Bool) (fields : List (Field σ)) (draft : σ)
    (input : List Char) : Except Fault (σ × List Char) :=
  match skipSpace input with
  | '\x7b' :: rest => readMembers fields (rest.length + 1) true draft rest
  | '[' :: rest => do
    let (draft, rest) ← readItems partly fields true draft rest
    let rest ← expectMark ']' rest
    return (draft, rest)
  | input => .error (otherShape input)

/-- Reads a whole text. -/
def readDocument {α : Type} (read : List Char → Except Fault (α × List Char)) (text : String) :
    Except Fault α := do
  let (value, rest) ← read text.toList
  if (skipSpace rest).isEmpty then return value else throw .malformed

end BlobLimbo.Json
