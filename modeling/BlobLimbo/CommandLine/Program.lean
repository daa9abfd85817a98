import BlobLimbo.CommandLine.Run
import BlobLimbo.Logging.Filter
import BlobLimbo.Logging.Line

/-!
# The program

A run of the `limbo` program: the command line is read, the log file is opened, the command is
carried out, and its events and its text are written. The disk and the time are given, so a run is
a function of what it is started with.
-/

namespace BlobLimbo.CommandLine

/-- What a run leaves behind. -/
structure ProgramExit where
  /-- The exit code. -/
  code : Nat
  /-- The lines on standard output. -/
  output : List String := []
  /-- The text on standard error. -/
  complaint : String := ""
  /-- The disk. -/
  disk : Disk

/-- What the program says when it is asked for help. -/
def usage : List String :=
  ["Inspect and maintain a blob limbo",
    "",
    "Usage: limbo [OPTIONS] <COMMAND>",
    "",
    "Commands:",
    "  inspect   Prints the entries tracked by a limbo",
    "  finalize  Evicts every entry included at or below a block",
    "  drop      Removes a single transaction's blobs",
    "  help      Print this message"]

/-- What the program says when it is asked for its version. -/
def version : String := "limbo 0.1.0"

/-- The text of a usage error. -/
def UsageError.message : UsageError → String
  | .displayHelp | .nothingGiven => "\n".intercalate usage
  | .displayVersion => version
  | .missingSubcommand => "error: a subcommand is required"
  | .invalidSubcommand => "error: unrecognized subcommand"
  | .unknownArgument => "error: unexpected argument"
  | .invalidValue => "error: invalid value for an argument"
  | .valueValidation => "error: a value cannot be read"
  | .argumentConflict => "error: an argument cannot be used multiple times"
  | .tooManyValues => "error: unexpected value for an argument"
  | .missingRequiredArgument => "error: a required argument was not provided"

/-- What a run with a bad command line comes to. Asking for help is no failure. -/
def UsageError.exit (error : UsageError) (disk : Disk) : ProgramExit :=
  match error with
  | .displayHelp | .displayVersion => { code := 0, output := error.message.splitOn "\n", disk }
  | _ => { code := 2, complaint := error.message ++ "\n", disk }

/-- The text of a failure and its causes. Several causes are numbered. -/
def failureText : List String → String
  | [] => "Error: \n"
  | [top] => "Error: " ++ top ++ "\n"
  | [top, cause] => "Error: " ++ top ++ "\n\nCaused by:\n    " ++ cause ++ "\n"
  | top :: causes =>
    "Error: " ++ top ++ "\n\nCaused by:\n" ++
      String.join (causes.zipIdx.map fun (cause, number) =>
        "    " ++ toString number ++ ": " ++ cause ++ "\n")

/-- Opens the log file of a moment. If that fails, its directory is made first. -/
def openLog (log : FileLog) (moment : Moment) (disk : Disk) : Disk × Except IoError Handle :=
  let path := Path.joinText log.directory (log.rotation.fileName moment)
  match disk.openFile path with
  | (_, .error _) =>
    match disk.makeDirectories (Path.toText (Path.parent (Path.names path))) with
    | (disk, .ok ()) => disk.openFile path
    | (disk, .error error) => (disk, .error error)
  | opened => opened

/-- Appends lines to an open file. -/
def appendLines (disk : Disk) (handle : Handle) (lines : List String) : Disk :=
  let text := String.join (lines.map (· ++ "\n"))
  disk.write handle (disk.read handle ++ text.toUTF8.toList)

/-- The lines of a log of some events. -/
def logLines (format : LogFormat) (moment : Moment) (events : List Event) : List String :=
  events.flatMap fun event => event.lines moment format

/-- What a command comes to whose log on standard output has the given lines. -/
def Report.exit (report : Report) (logged : List String) (disk : Disk) : ProgramExit :=
  let output := logged ++ report.printed.flatMap fun text => text.splitOn "\n"
  match report.failure with
  | none => { code := 0, output, disk }
  | some chain => { code := 1, output, complaint := failureText chain, disk }

/-- Carries out a command. Its events are logged as far as the filter lets them through, to
standard output and to the open log file. -/
def execute (command : Command) (filter : LogFilter) (stdout : Option LogFormat)
    (file : Option (LogFormat × Handle)) (moment : Moment) (disk : Disk) : ProgramExit :=
  let outcome := command.run disk
  let events := outcome.events.filter filter.admits
  let logged := match stdout with
    | none => []
    | some format => logLines format moment events
  let disk := match file with
    | none => outcome.state
    | some (format, handle) => appendLines outcome.state handle (logLines format moment events)
  outcome.value.exit logged disk

/-- The environment variable that holds log directives. -/
def directivesVariable : String := "RUST_LOG"

/-- The environment variables a run looks at. -/
def variableNames : List String :=
  ["LIMBO_DATADIR", "LIMBO_MAX_BLOBS", "LIMBO_LOG_DIR", directivesVariable]

/-- The complaint about a directive that is not understood. -/
def complaintAbout (directive : String) : DirectiveFault → String
  | .brokenCharacter => DirectiveFault.brokenCharacter.message ++ "\n"
  | fault => "ignoring \x60" ++ directive ++ "\x60: " ++ fault.message ++ "\n"

/-- The filter for a verbosity, refined by the directives in the environment, and what there is to
complain about in these. The verbosity is for all events no directive is about. There is no filter
if the directives cannot be read to their end. -/
def readFilter (environment : Environment) (level : LevelFilter) : Option LogFilter × String :=
  let (filter, faults) := LogFilter.ofText ((environment directivesVariable).getD "")
  let broken := faults.any fun (_, fault) => fault = .brokenCharacter
  (if broken then none else some (filter.add { level }),
    String.join (faults.map fun (directive, fault) => complaintAbout directive fault))

/-- The directories a run works in, each with the names of the files it may open there. -/
def Invocation.reach (invocation : Invocation) (moment : Moment) : List (String × List String) :=
  let limbo := invocation.command.limbo
  let shelves := match Layout.slotSizes limbo.maxBlobsPerTx with
    | .ok sizes => sizes.map Shelf.fileName
    | .error _ => []
  let logs := invocation.log.config.file.toList.map fun log =>
    (log.directory, [log.rotation.fileName moment])
  (limbo.datadir, shelves) :: logs

/-- Runs a command with the log file it asked for, if there is one. -/
def runLogged (environment : Environment) (invocation : Invocation)
    (file : Option (LogFormat × Handle)) (moment : Moment) (disk : Disk) : ProgramExit :=
  let log := invocation.log.config
  let (filter, warning) := readFilter environment log.level
  match filter with
  | none => { code := 101, complaint := warning, disk }
  | some filter =>
    let exit := execute invocation.command filter log.stdout file moment disk
    { exit with complaint := warning ++ exit.complaint }

/-- Runs the program on words that do not include its own name. -/
def runProgram (environment : Environment) (words : List String) (moment : Moment) (disk : Disk) :
    ProgramExit :=
  match parse environment words with
  | .error error => error.exit disk
  | .ok invocation =>
    match invocation.log.config.file with
    | none => runLogged environment invocation none moment disk
    | some file =>
      match openLog file moment disk with
      | (disk, .ok handle) =>
        runLogged environment invocation (some (file.format, handle)) moment disk
      | (disk, .error error) =>
        { code := 101, complaint := "cannot open a log file: " ++ error.text ++ "\n", disk }

end BlobLimbo.CommandLine
