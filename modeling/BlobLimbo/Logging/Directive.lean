import BlobLimbo.Logging
import BlobLimbo.Logging.SpanValue
import BlobLimbo.Text.Alphanumeric
import BlobLimbo.Text.Blank
import BlobLimbo.Text.Cut

/-!
# Log directives

A directive sets the most verbose level for the events of a target, for the events with a field, or
for all. It is a level, a target, or a target with a level, as in `blobpool::limbo=debug`. Between
target and level there may be a span or a field in brackets. No events are reported inside spans
here, so directives for spans and for values of their fields are checked and change nothing.

Blanks around a directive do not count for its form. Its parts are found in the directive without
blanks, but cut out of the directive as it stands at the same distances from its start, so after
blanks in front they are other characters than one would expect.
-/

namespace BlobLimbo

/-- The most verbose level for some events. -/
structure LogDirective where
  /-- What the target of an event starts with, if that matters. -/
  target : Option String := none
  /-- The name of a field the event has, if that matters. -/
  field : Option String := none
  /-- The most verbose level. -/
  level : LevelFilter
  deriving DecidableEq, Repr

/-- Why a directive is not understood. -/
inductive DirectiveFault where
  /-- It does not have the form of a directive. -/
  | malformed
  /-- What is in the place of its level is no level. -/
  | unknownLevel
  /-- What is in the place of the value of a field is no value. -/
  | badValue (fault : Pattern.Fault)
  /-- A part of it would begin or end inside a character. Nothing can go on after this. -/
  | brokenCharacter
  deriving DecidableEq, Repr

/-- The text of a fault. -/
def DirectiveFault.message : DirectiveFault → String
  | .malformed => "invalid filter directive"
  | .unknownLevel =>
    "error parsing level filter: expected one of \"off\", \"error\", \"warn\", \"info\", " ++
      "\"debug\", \"trace\", or a number 0-5"
  | .badValue fault => "invalid field filter: " ++ fault.message
  | .brokenCharacter => "a part of a filter directive begins or ends inside a character"

namespace LevelFilter

/-- All filters, from the one that lets nothing through. -/
def all : List LevelFilter := (List.range 6).map ofVerbosity

/-- The filter a text names: its name in any case, or its number, which may have a plus sign and
zeros in front. -/
def ofText? (text : String) : Option LevelFilter :=
  let digits := match text.toList with
    | '+' :: rest => rest
    | all => all
  if digits.all Char.isDigit ∧ digits ≠ [] then
    all[digits.foldl (fun n d => n * 10 + (d.toNat - '0'.toNat)) 0]?
  else all.find? fun filter => filter.name = text.toLower

end LevelFilter

namespace LogDirective

/-! ## Parts of a directive -/

/-- A part that was cut out, if it could be. -/
def orBroken : Option (List Char) → Except DirectiveFault (List Char)
  | some part => .ok part
  | none => .error .brokenCharacter

/-- What the brackets of a directive hold. -/
inductive Selector where
  /-- A span, or the value of a field of a span. -/
  | span
  /-- The name of a field. -/
  | field (name : String)
  deriving DecidableEq, Repr

/-- A directive taken apart. -/
structure Parts where
  /-- What stands in front. -/
  head : Option (List Char) := none
  /-- What the brackets hold, if there are any. -/
  selector : Option Selector := none
  /-- What stands in the place of the level, if there is an equals sign. -/
  level : Option (List Char) := none

/-- Whether a target may start with a character. -/
def startsTarget (c : Char) : Bool :=
  Text.isAlphanumeric c || c ∈ ['-', ':', '_']

/-! In the readers `whole` is the directive as it stands, and `place` the number of bytes before
the text that is left. -/

/-- Takes apart what follows the closing bracket. -/
def readEnd (whole : List Char) (parts : Parts) (place : Nat) :
    List Char → Except DirectiveFault Parts
  | [] => .ok parts
  | '=' :: _ => do
    let level ← orBroken (Text.cutFrom? whole (place + 1))
    return { parts with level := some level }
  | _ => .error .malformed

/-- What the text of a field selects. A field with a value is one of a span. -/
def readField (inSpan : Bool) (text : List Char) : Except DirectiveFault Selector :=
  let name := text.takeWhile (· ≠ '=')
  match text.dropWhile (· ≠ '=') with
  | [] => .ok (if inSpan then .span else .field (.ofList name))
  | _ :: rest =>
    match SpanValue.fault? (rest.takeWhile (· ≠ '=')) with
    | some fault => .error (.badValue fault)
    | none => .ok .span

/-- Takes apart what follows the opening bracket. -/
def readSelector (whole : List Char) (head : Option (List Char)) (place : Nat)
    (input : List Char) : Except DirectiveFault Parts := do
  let isMark (c : Char) : Bool := c = ']' ∨ c = '\x7b'
  let name := input.takeWhile fun c => !isMark c
  let afterName := place + Text.byteLength name
  match input.dropWhile fun c => !isMark c with
  | ']' :: rest =>
    let _ ← orBroken (Text.cut? whole place afterName)
    readEnd whole { head, selector := some .span } (afterName + 1) rest
  | '\x7b' :: rest =>
    let _ ← orBroken (Text.cut? whole place afterName)
    let field := rest.takeWhile (· ≠ '\x7d')
    let afterField := afterName + 1 + Text.byteLength field
    match rest.dropWhile (· ≠ '\x7d') with
    | [] => throw .malformed
    | _ :: rest =>
      if field = [] then throw .malformed
      let text ← orBroken (Text.cut? whole (afterName + 1) afterField)
      let selector ← readField (name ≠ []) text
      match rest with
      | ']' :: rest => readEnd whole { head, selector := some selector } (afterField + 2) rest
      | _ => throw .malformed
  | _ => throw .malformed

/-- Takes apart a directive. -/
def readParts (whole : List Char) : List Char → Except DirectiveFault Parts
  | [] => .error .malformed
  | '[' :: rest => readSelector whole none 1 rest
  | c :: rest =>
    if startsTarget c then do
      let isMark (c : Char) : Bool := c = '=' ∨ c = '['
      let size := Text.byteLength ((c :: rest).takeWhile fun c => !isMark c)
      match (c :: rest).dropWhile fun c => !isMark c with
      | [] => return { head := some whole }
      | mark :: rest =>
        let head ← orBroken (Text.cut? whole 0 size)
        if mark = '[' then readSelector whole (some head) (size + 1) rest
        else
          let level ← orBroken (Text.cutFrom? whole (size + 1))
          return { head := some head, level := some level }
    else .error .malformed

/-- The level of a directive. Without one, everything is let through. -/
def levelOf : Option (List Char) → Except DirectiveFault LevelFilter
  | none | some [] => .ok (.upTo .trace)
  | some text =>
    match LevelFilter.ofText? (.ofList text) with
    | some level => .ok level
    | none => .error .unknownLevel

/-- The directive with the given parts, or none if it changes nothing. A level alone is for all
events. -/
def ofParts (parts : Parts) : Except DirectiveFault (Option LogDirective) := do
  let level ← levelOf parts.level
  let target := parts.head.map String.ofList
  match parts.selector, parts.level, target.bind LevelFilter.ofText? with
  | none, none, some level => return some { level }
  | none, _, _ => return some { target, level }
  | some (.field name), _, _ => return some { target, field := some name, level }
  | some .span, _, _ => return none

/-- Reads a directive. -/
def ofText (text : String) : Except DirectiveFault (Option LogDirective) := do
  ofParts (← readParts text.toList (Text.trim text.toList))

/-! ## What a directive is about -/

/-- Whether a directive is about an event. -/
def concerns (directive : LogDirective) (event : Event) : Bool :=
  directive.target.all (fun start => event.target.startsWith start) &&
    directive.field.all fun name => name = "message" ∨ event.fields.any (·.1 = name)

/-- How specific a directive is about targets. -/
def targetWeight (directive : LogDirective) : Nat :=
  match directive.target with
  | none => 0
  | some start => start.utf8ByteSize + 1

/-- Whether a later directive takes precedence: its target is longer, or as long and it names a
field that does not come before the other's. -/
def yieldsTo (directive later : LogDirective) : Bool :=
  if directive.targetWeight = later.targetWeight then
    match directive.field, later.field with
    | none, _ => true
    | some _, none => false
    | some name, some other => name ≤ other
  else directive.targetWeight < later.targetWeight

end LogDirective

end BlobLimbo
