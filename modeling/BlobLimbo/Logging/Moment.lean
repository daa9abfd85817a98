import BlobLimbo.Logging

/-!
# Moments

The time an event is reported at, in universal time. Logs are stamped with it, and log files that
are started anew from time to time carry it in their names.
-/

namespace BlobLimbo

/-- A moment of universal time. -/
structure Moment where
  year : Nat
  month : Nat
  day : Nat
  hour : Nat
  minute : Nat
  second : Nat
  microsecond : Nat
  deriving DecidableEq, Repr

namespace Moment

/-- A number with zeros in front, at least `width` digits wide. -/
def padded (width n : Nat) : String :=
  String.ofList ((Nat.toDigits 10 n).leftpad width '0')

/-- Year, month and day with dashes between them. -/
def date (moment : Moment) : String :=
  "-".intercalate [padded 4 moment.year, padded 2 moment.month, padded 2 moment.day]

/-- Date and time as logs are stamped with them. -/
def stamp (moment : Moment) : String :=
  moment.date ++ "T" ++
    ":".intercalate [padded 2 moment.hour, padded 2 moment.minute, padded 2 moment.second] ++
    "." ++ padded 6 moment.microsecond ++ "Z"

end Moment

/-- The name of the log file that events go to at a moment. -/
def LogRotation.fileName (moment : Moment) : LogRotation → String
  | .never => "limbo.log"
  | .daily => "limbo.log." ++ moment.date
  | .hourly => "limbo.log." ++ "-".intercalate [moment.date, Moment.padded 2 moment.hour]
  | .minutely =>
    "limbo.log." ++ "-".intercalate
      [moment.date, Moment.padded 2 moment.hour, Moment.padded 2 moment.minute]

end BlobLimbo
