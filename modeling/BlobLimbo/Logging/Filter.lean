import BlobLimbo.Logging.Directive

/-!
# Log filters

Directives refine which events are logged. Of the directives that concern an event the most specific
one decides, and among equals the last.
-/

namespace BlobLimbo

/-- Which events are logged. -/
structure LogFilter where
  /-- The directives, in the order they were given. -/
  directives : List LogDirective := []

namespace LogFilter

/-- Adds a directive. -/
def add (filter : LogFilter) (directive : LogDirective) : LogFilter :=
  ⟨filter.directives ++ [directive]⟩

/-- Adds directives. What is not understood is left out, and reported with the reason. -/
def addTexts (filter : LogFilter) : List String → LogFilter × List (String × DirectiveFault)
  | [] => (filter, [])
  | directive :: later =>
    match LogDirective.ofText directive with
    | .ok (some read) => (filter.add read).addTexts later
    | .ok none => filter.addTexts later
    | .error .brokenCharacter => (filter, [(directive, .brokenCharacter)])
    | .error fault =>
      let (filter, faults) := filter.addTexts later
      (filter, (directive, fault) :: faults)

/-- Reads directives with commas between them. -/
def ofText (text : String) : LogFilter × List (String × DirectiveFault) :=
  LogFilter.addTexts {} ((text.splitOn ",").filter (· ≠ ""))

/-- The directive that decides about an event. -/
def deciding? (filter : LogFilter) (event : Event) : Option LogDirective :=
  (filter.directives.filter fun directive => directive.concerns event).foldl
    (fun best directive =>
      match best with
      | some other => if other.yieldsTo directive then some directive else best
      | none => some directive) none

/-- Whether an event is logged. -/
def admits (filter : LogFilter) (event : Event) : Bool :=
  match filter.deciding? event with
  | some directive => directive.level.admits event.level
  | none => false

end LogFilter

end BlobLimbo
