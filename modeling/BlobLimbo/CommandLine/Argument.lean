import BlobLimbo.Config
import BlobLimbo.Logging

/-!
# Command line arguments

The arguments the `limbo` program knows, how they are written, and which values they take.
-/

namespace BlobLimbo.CommandLine

/-- Why a command line is not carried out. -/
inductive UsageError where
  /-- The user asked for help. -/
  | displayHelp
  /-- The user asked for the version. -/
  | displayVersion
  /-- There is nothing on the command line. -/
  | nothingGiven
  /-- There is no subcommand. -/
  | missingSubcommand
  /-- There is no subcommand of that name. -/
  | invalidSubcommand
  /-- There is no such argument here. -/
  | unknownArgument
  /-- A value is missing, empty, or none of the possible ones. -/
  | invalidValue
  /-- A value cannot be read. -/
  | valueValidation
  /-- An argument occurs twice. -/
  | argumentConflict
  /-- A value is attached to an argument that takes none. -/
  | tooManyValues
  /-- A required argument is missing. -/
  | missingRequiredArgument
  deriving DecidableEq, Repr

/-- The subcommands. -/
inductive Subcommand where
  | inspect
  | finalize
  | drop
  deriving DecidableEq, Repr

namespace Subcommand

/-- The subcommand of a name or of its short form. -/
def ofName? (name : String) : Option Subcommand :=
  if name = "inspect" ∨ name = "i" then some .inspect
  else if name = "finalize" ∨ name = "f" then some .finalize
  else if name = "drop" ∨ name = "rm" then some .drop
  else none

end Subcommand

/-- The arguments. -/
inductive Argument where
  | verbosity
  | quiet
  | stdoutFormat
  | fileDirectory
  | fileFormat
  | fileRotation
  | datadir
  | maxBlobs
  | json
  | block
  | tx
  | help
  | version
  deriving DecidableEq, Repr

namespace Argument

/-- The name after two dashes. -/
def long : Argument → String
  | .verbosity => "verbosity"
  | .quiet => "quiet"
  | .stdoutFormat => "log.stdout.format"
  | .fileDirectory => "log.file.directory"
  | .fileFormat => "log.file.format"
  | .fileRotation => "log.file.rotation"
  | .datadir => "datadir"
  | .maxBlobs => "max-blobs"
  | .json => "json"
  | .block => "block"
  | .tx => "tx"
  | .help => "help"
  | .version => "version"

/-- The letter after one dash. -/
def short? : Argument → Option Char
  | .verbosity => some 'v'
  | .quiet => some 'q'
  | .help => some 'h'
  | .version => some 'V'
  | _ => none

/-- Whether the argument takes a value. -/
def takesValue : Argument → Bool
  | .verbosity | .quiet | .json | .help | .version => false
  | _ => true

/-- The arguments that may stand before and after the subcommand. -/
def global : List Argument :=
  [.verbosity, .quiet, .stdoutFormat, .fileDirectory, .fileFormat, .fileRotation, .help]

/-- The arguments that may stand before the subcommand. -/
def top : List Argument :=
  .version :: global

/-- The arguments that may stand after a subcommand. -/
def below (subcommand : Subcommand) : List Argument :=
  .datadir :: .maxBlobs ::
    (match subcommand with
    | .inspect => .json
    | .finalize => .block
    | .drop => .tx) :: global

end Argument

/-! ## Values -/

/-- A number in decimal digits, which a plus sign may precede. -/
def readNat? (text : String) : Option Nat :=
  let digits := match text.toList with
    | '+' :: rest => rest
    | all => all
  if digits.isEmpty ∨ !digits.all Char.isDigit then none
  else some (digits.foldl (fun n d => n * 10 + Json.digitValue d) 0)

/-- A path that is not empty. -/
def readPath (text : String) : Except UsageError String :=
  if text = "" then .error .invalidValue else .ok text

/-- A block number. -/
def readBlock (text : String) : Except UsageError UInt64 :=
  match readNat? text with
  | some n => if n < UInt64.size then .ok (UInt64.ofNat n) else .error .valueValidation
  | none => .error .valueValidation

/-- A number of blobs that a limbo can be laid out for. -/
def readMaxBlobs (text : String) : Except UsageError UInt32 :=
  match readNat? text with
  | some n =>
    if 1 ≤ n ∧ n ≤ Layout.maxBlobsLimit.toNat then .ok (UInt32.ofNat n)
    else .error .valueValidation
  | none => .error .valueValidation

/-- A transaction hash. -/
def readHash (text : String) : Except UsageError TxHash :=
  match FixedBytes.ofHex? 32 text with
  | some hash => .ok hash
  | none => .error .valueValidation

/-- One of a set of names. -/
def readChoice {α : Type} (ofName? : String → Option α) (text : String) : Except UsageError α :=
  match ofName? text with
  | some value => .ok value
  | none => .error .invalidValue

/-! ## What was given -/

/-- The arguments found so far, with their values. -/
structure Given where
  /-- How often more verbosity was asked for. -/
  verbosity : Option Nat := none
  /-- Whether logs on standard output were turned off. -/
  quiet : Option Unit := none
  /-- The form of the log on standard output. -/
  stdoutFormat : Option LogFormat := none
  /-- The directory of log files. -/
  fileDirectory : Option String := none
  /-- The form of log files. -/
  fileFormat : Option LogFormat := none
  /-- How often a new log file is started. -/
  fileRotation : Option LogRotation := none
  /-- The directory of the limbo. -/
  datadir : Option String := none
  /-- The most blobs a transaction may carry. -/
  maxBlobs : Option UInt32 := none
  /-- Whether a document was asked for. -/
  json : Option Unit := none
  /-- The finalized block. -/
  block : Option UInt64 := none
  /-- The transaction to drop. -/
  tx : Option TxHash := none
  deriving DecidableEq

namespace Given

/-- Sets what was not set before. -/
def once {α : Type} (old : Option α) (value : Except UsageError α) (set : α → Given) :
    Except UsageError Given :=
  if old.isSome then .error .argumentConflict else value.map set

/-- Takes note of an argument without a value. Asking for help or for the version ends the
reading. -/
def flag (given : Given) : Argument → Except UsageError Given
  | .verbosity => .ok { given with verbosity := some (min 255 (given.verbosity.getD 0 + 1)) }
  | .quiet => once given.quiet (.ok ()) fun value => { given with quiet := some value }
  | .json => once given.json (.ok ()) fun value => { given with json := some value }
  | .help => .error .displayHelp
  | .version => .error .displayVersion
  | _ => .ok given

/-- Takes note of an argument and its value. -/
def value (given : Given) (argument : Argument) (text : String) : Except UsageError Given :=
  match argument with
  | .stdoutFormat =>
    once given.stdoutFormat (readChoice LogFormat.ofName? text) fun value =>
      { given with stdoutFormat := some value }
  | .fileDirectory =>
    once given.fileDirectory (readPath text) fun value => { given with fileDirectory := some value }
  | .fileFormat =>
    once given.fileFormat (readChoice LogFormat.ofName? text) fun value =>
      { given with fileFormat := some value }
  | .fileRotation =>
    once given.fileRotation (readChoice LogRotation.ofName? text) fun value =>
      { given with fileRotation := some value }
  | .datadir => once given.datadir (readPath text) fun value => { given with datadir := some value }
  | .maxBlobs =>
    once given.maxBlobs (readMaxBlobs text) fun value => { given with maxBlobs := some value }
  | .block => once given.block (readBlock text) fun value => { given with block := some value }
  | .tx => once given.tx (readHash text) fun value => { given with tx := some value }
  | _ => .ok given

end Given

end BlobLimbo.CommandLine
