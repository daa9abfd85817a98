import BlobLimbo.Logging.Moment

/-!
# Log lines

How an event is written to a log. In structured logs it is an object on one line, whose fields are
in the order of their names and whose numbers stay numbers. The other forms are for reading.
-/

namespace BlobLimbo

/-- The value in a structured log. -/
def FieldValue.toJson : FieldValue → Json
  | .number n => .number n
  | .text s => .string s

namespace Event

/-- The fields by name, the message among them. -/
def namedFields (event : Event) : List (String × FieldValue) :=
  (("message", .text event.message) :: event.fields).mergeSort fun a b => a.1 ≤ b.1

/-- The event as an object of a structured log. -/
def toJson (moment : Moment) (event : Event) : Json :=
  .object [("timestamp", .string moment.stamp), ("level", .string event.level.label),
    ("fields", .object (event.namedFields.map fun (name, value) => (name, value.toJson))),
    ("target", .string event.target)]

/-- The level, at least five characters wide, and the target. -/
def heading (event : Event) : String :=
  String.ofList (event.level.label.toList.leftpad 5 ' ') ++ " " ++ event.target ++ ":"

/-- The event on one line. -/
def sentence (moment : Moment) (event : Event) : String :=
  " ".intercalate (moment.stamp :: event.heading :: event.message ::
    event.fields.map fun (name, value) => name ++ "=" ++ value.display)

/-- The event with room around it. -/
def paragraph (moment : Moment) (event : Event) : List String :=
  ["  " ++ moment.stamp ++ " " ++ event.heading ++ " " ++
    ", ".intercalate (event.message ::
      event.fields.map fun (name, value) => name ++ ": " ++ value.display), ""]

/-- The lines of a log an event takes up. -/
def lines (moment : Moment) (event : Event) : LogFormat → List String
  | .json => [String.ofList (event.toJson moment).compact]
  | .full | .compact => [event.sentence moment]
  | .pretty => event.paragraph moment

end Event

end BlobLimbo
