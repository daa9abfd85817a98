import BlobLimbo.Event
import BlobLimbo.Json.Basic
import BlobLimbo.Json.Read

/-!
# Logging

Which events are written, where to, and in which form. Events go to standard output, to files, to
both or to neither.
-/

namespace BlobLimbo

/-- The form of a log. -/
inductive LogFormat where
  | full
  | json
  | pretty
  | compact
  deriving DecidableEq, Repr

/-- How often a new log file is started. -/
inductive LogRotation where
  | minutely
  | hourly
  | daily
  | never
  deriving DecidableEq, Repr

/-- The most that is let through. -/
inductive LevelFilter where
  /-- Nothing. -/
  | off
  /-- Everything up to a level. -/
  | upTo (level : Level)
  deriving DecidableEq, Repr

namespace LogFormat

/-- All formats. -/
def all : List LogFormat := [.full, .json, .pretty, .compact]

/-- The name of a format. -/
def name : LogFormat → String
  | .full => "full"
  | .json => "json"
  | .pretty => "pretty"
  | .compact => "compact"

/-- The format of a name. -/
def ofName? (text : String) : Option LogFormat :=
  all.find? fun format => format.name = text

end LogFormat

namespace LogRotation

/-- All rotations. -/
def all : List LogRotation := [.minutely, .hourly, .daily, .never]

/-- The name of a rotation. -/
def name : LogRotation → String
  | .minutely => "minutely"
  | .hourly => "hourly"
  | .daily => "daily"
  | .never => "never"

/-- The rotation of a name. -/
def ofName? (text : String) : Option LogRotation :=
  all.find? fun rotation => rotation.name = text

end LogRotation

namespace LevelFilter

/-- The filter for a verbosity: nothing at zero, one level more for each step. -/
def ofVerbosity : Nat → LevelFilter
  | 0 => .off
  | 1 => .upTo .error
  | 2 => .upTo .warn
  | 3 => .upTo .info
  | 4 => .upTo .debug
  | _ => .upTo .trace

/-- The name of a filter. -/
def name : LevelFilter → String
  | .off => "off"
  | .upTo .error => "error"
  | .upTo .warn => "warn"
  | .upTo .info => "info"
  | .upTo .debug => "debug"
  | .upTo .trace => "trace"

/-- Whether a level is let through. -/
def admits : LevelFilter → Level → Bool
  | .off, _ => false
  | .upTo most, level => level.verbosity ≤ most.verbosity

end LevelFilter

/-- Logs in files. -/
structure FileLog where
  /-- The directory of the files. -/
  directory : String
  /-- The form of the logs. -/
  format : LogFormat
  /-- How often a new file is started. -/
  rotation : LogRotation
  deriving DecidableEq

/-- Which events are written and where. -/
structure LogConfig where
  /-- The most verbose level. -/
  level : LevelFilter := .upTo .info
  /-- The form of the log on standard output, if there is one. -/
  stdout : Option LogFormat := some .full
  /-- The log in files, if there is one. -/
  file : Option FileLog := none
  deriving DecidableEq

/-- Logging as it is asked for on the command line. -/
structure LogOptions where
  /-- How verbose the logs are. -/
  verbosity : Nat := 3
  /-- Whether standard output stays free of logs. -/
  quiet : Bool := false
  /-- The form of the log on standard output. -/
  stdoutFormat : LogFormat := .full
  /-- The directory of log files, if there are any. -/
  fileDirectory : Option String := none
  /-- The form of log files. -/
  fileFormat : LogFormat := .full
  /-- How often a new log file is started. -/
  fileRotation : LogRotation := .never
  deriving DecidableEq

/-- The logs that were asked for. -/
def LogOptions.config (options : LogOptions) : LogConfig where
  level := .ofVerbosity options.verbosity
  stdout := if options.quiet then none else some options.stdoutFormat
  file := options.fileDirectory.map fun directory =>
    ⟨directory, options.fileFormat, options.fileRotation⟩

namespace FileLog

/-- A file log that is being read. -/
structure Draft where
  /-- The directory, once it is known. -/
  directory : Option String := none
  /-- The form, once it is known. -/
  format : Option LogFormat := none
  /-- The rotation, once it is known. -/
  rotation : Option LogRotation := none
  deriving DecidableEq

/-- The fields of the written form. -/
def fields : List (Json.Field Draft) :=
  [Json.field "directory_path" Draft.directory
      (fun draft value => { draft with directory := some value }) Json.readText,
    Json.field "format" Draft.format (fun draft value => { draft with format := some value })
      (Json.readName LogFormat.ofName?),
    Json.field "rotation" Draft.rotation
      (fun draft value => { draft with rotation := some value })
      (Json.readName LogRotation.ofName?)]

/-- Every field must be there. -/
def ofDraft (draft : Draft) : Except Json.Fault FileLog :=
  match draft.directory, draft.format, draft.rotation with
  | some directory, some format, some rotation => .ok ⟨directory, format, rotation⟩
  | _, _, _ => .error .mismatch

/-- Reads a file log. -/
def read (input : List Char) : Except Json.Fault (FileLog × List Char) := do
  let (draft, rest) ← Json.readRecord false fields {} input
  let log ← ofDraft draft
  return (log, rest)

/-- Reads a file log from a whole text. -/
def ofText (text : String) : Except Json.Fault FileLog :=
  Json.readDocument read text

/-- The file log as a document. -/
def toJson (log : FileLog) : Json :=
  .object [("directory_path", .string log.directory), ("format", .string log.format.name),
    ("rotation", .string log.rotation.name)]

/-- The file log as it is written. -/
def toText (log : FileLog) : String :=
  String.ofList log.toJson.compact

end FileLog

/-- Reads a log format from a whole text. -/
def LogFormat.ofText (text : String) : Except Json.Fault LogFormat :=
  Json.readDocument (Json.readName LogFormat.ofName?) text

/-- Reads a log rotation from a whole text. -/
def LogRotation.ofText (text : String) : Except Json.Fault LogRotation :=
  Json.readDocument (Json.readName LogRotation.ofName?) text

end BlobLimbo
