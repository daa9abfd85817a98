import BlobLimbo.CommandLine.Argument

/-!
# Reading a command line

A command line is read from left to right. The value of an argument is looked at only when the
next argument is recognised or the line ends, so an unknown argument wins over a bad value before
it. After the subcommand its own arguments are read to the end; only then is the rest of what
stood before the subcommand checked. Arguments that are not on the line may come from environment
variables.
-/

namespace BlobLimbo.CommandLine

/-- The command to carry out. -/
inductive Command where
  /-- Print what a limbo tracks. -/
  | inspect (limbo : LimboConfig) (json : Bool)
  /-- Evict everything at or below a block. -/
  | finalize (limbo : LimboConfig) (block : UInt64)
  /-- Discard the blobs of a transaction. -/
  | drop (limbo : LimboConfig) (tx : TxHash)
  deriving DecidableEq

/-- The limbo a command works on. -/
def Command.limbo : Command → LimboConfig
  | .inspect limbo _ | .finalize limbo _ | .drop limbo _ => limbo

/-- A command line that has been understood. -/
structure Invocation where
  /-- The command. -/
  command : Command
  /-- How to log. -/
  log : LogOptions
  deriving DecidableEq

/-- An argument whose value is still to be looked at, or still to come. -/
structure Pending where
  /-- The argument. -/
  argument : Argument
  /-- Its value, once it has been seen. -/
  text : Option String
  deriving DecidableEq

/-- How far a level of the command line has been read. -/
structure Progress where
  /-- What was found. -/
  given : Given := {}
  /-- The argument that is not settled yet. -/
  pending : Option Pending := none
  deriving DecidableEq

namespace Progress

/-- Whether the next word is a value. -/
def awaitsValue (progress : Progress) : Bool :=
  match progress.pending with
  | some { text := none, .. } => true
  | _ => false

/-- Looks at the value of the argument that is not settled yet. -/
def settle (progress : Progress) : Except UsageError Given :=
  match progress.pending with
  | none => .ok progress.given
  | some { text := none, .. } => .error .invalidValue
  | some { argument, text := some text } => progress.given.value argument text

/-- Takes note of an argument without a value. -/
def flag (progress : Progress) (argument : Argument) : Except UsageError Progress := do
  let given ← progress.settle
  let given ← given.flag argument
  return { given }

/-- Takes note of an argument with the value attached to it, if there is one. -/
def open? (progress : Progress) (argument : Argument) (attached : Option String) :
    Except UsageError Progress := do
  let given ← progress.settle
  match attached with
  | none => return { given, pending := some ⟨argument, none⟩ }
  | some text =>
    let given ← given.value argument text
    return { given }

/-- Takes note of the letters after one dash. -/
def letters (known : List Argument) (progress : Progress) : List Char → Except UsageError Progress
  | [] => .ok progress
  | letter :: rest =>
    match known.find? fun argument => argument.short? = some letter with
    | none => .error .unknownArgument
    | some argument => do
      let next ← progress.flag argument
      next.letters known rest

/-- Takes note of what follows two dashes: a name, and perhaps an equals sign and a value. -/
def name (known : List Argument) (progress : Progress) (text : List Char) :
    Except UsageError Progress :=
  let name := String.ofList (text.takeWhile (· ≠ '='))
  let attached := match text.dropWhile (· ≠ '=') with
    | [] => none
    | _ :: value => some (String.ofList value)
  match known.find? fun argument => argument.long = name with
  | none => .error .unknownArgument
  | some argument =>
    if argument.takesValue then progress.open? argument attached
    else if attached.isSome then .error .tooManyValues
    else progress.flag argument

end Progress

/-- What became of a word. -/
inductive Word where
  /-- It was an argument or a value. -/
  | taken (progress : Progress)
  /-- It ends the arguments. -/
  | endOfArguments
  /-- It is neither. -/
  | plain
  deriving DecidableEq

/-- Looks at a word that may be an argument. -/
def readWord (known : List Argument) (progress : Progress) (word : String) :
    Except UsageError Word :=
  match word.toList with
  | ['-', '-'] => .ok .endOfArguments
  | '-' :: '-' :: text => (progress.name known text).map .taken
  | '-' :: c :: rest => (progress.letters known (c :: rest)).map .taken
  | _ =>
    match progress.pending with
    | some { argument, text := none } =>
      .ok (.taken { progress with pending := some ⟨argument, some word⟩ })
    | _ => .ok .plain

/-- Reads the words after a subcommand. No word may stand there on its own. -/
def readBelow (known : List Argument) (progress : Progress) :
    List String → Except UsageError Progress
  | [] => .ok progress
  | word :: rest => do
    match ← readWord known progress word with
    | .taken next => readBelow known next rest
    | .endOfArguments => if rest.isEmpty then return progress else throw .unknownArgument
    | .plain => throw .unknownArgument

/-- What asking for help about some words leads to: a word that is no subcommand is refused. -/
def helpAbout : List String → UsageError
  | [] => .displayHelp
  | [word] =>
    if word = "help" ∨ (Subcommand.ofName? word).isSome then .displayHelp else .invalidSubcommand
  | _ => .invalidSubcommand

/-- Reads the words up to a subcommand. Returns the subcommand and the words after it. -/
def readTop (progress : Progress) :
    List String → Except UsageError (Progress × Option (Subcommand × List String))
  | [] => .ok (progress, none)
  | word :: rest => do
    match if progress.awaitsValue then none else Subcommand.ofName? word with
    | some subcommand => return (progress, some (subcommand, rest))
    | none =>
      if word = "help" ∧ !progress.awaitsValue then throw (helpAbout rest)
      match ← readWord Argument.top progress word with
      | .taken next => readTop next rest
      | .plain => throw .invalidSubcommand
      | .endOfArguments =>
        match rest with
        | [] => return (progress, none)
        | next :: _ =>
          throw (if next = "help" ∨ (Subcommand.ofName? next).isSome then .unknownArgument
            else .invalidSubcommand)

/-- Environment variables by name. -/
abbrev Environment := String → Option String

/-- Takes the value of an argument from a variable, unless the line has it. -/
def fromVariable {α : Type} (environment : Environment) (given : Given) (old : Option α)
    (argument : Argument) (name : String) : Except UsageError Given :=
  if old.isSome then .ok given
  else
    match environment name with
    | some text => given.value argument text
    | none => .ok given

/-- Looks up the directory of log files. -/
def lookupLog (environment : Environment) (given : Given) : Except UsageError Given :=
  fromVariable environment given given.fileDirectory .fileDirectory "LIMBO_LOG_DIR"

/-- Looks up everything that a subcommand may take from the environment. -/
def lookup (environment : Environment) (given : Given) : Except UsageError Given := do
  let given ← fromVariable environment given given.datadir .datadir "LIMBO_DATADIR"
  let given ← fromVariable environment given given.maxBlobs .maxBlobs "LIMBO_MAX_BLOBS"
  lookupLog environment given

/-- The value of a required argument. -/
def required {α : Type} : Option α → Except UsageError α
  | some value => .ok value
  | none => .error .missingRequiredArgument

/-- The limbo a subcommand works on. -/
def Given.limbo (given : Given) : Except UsageError LimboConfig := do
  let datadir ← required given.datadir
  let config : LimboConfig := { datadir }
  return { config with maxBlobsPerTx := given.maxBlobs.getD config.maxBlobsPerTx }

/-- The command of a subcommand and its arguments. -/
def Given.command (given : Given) : Subcommand → Except UsageError Command
  | .inspect => do return .inspect (← given.limbo) given.json.isSome
  | .finalize => do return .finalize (← given.limbo) (← required given.block)
  | .drop => do return .drop (← given.limbo) (← required given.tx)

/-- The logging asked for after the subcommand, before it, and in the environment. What stands
closest to the end of the line wins. -/
def logOptions (below above : Given) (fromEnvironment : Option String) : LogOptions :=
  let default : LogOptions := {}
  { verbosity := (below.verbosity <|> above.verbosity).getD default.verbosity
    quiet := (below.quiet <|> above.quiet).isSome
    stdoutFormat := (below.stdoutFormat <|> above.stdoutFormat).getD default.stdoutFormat
    fileDirectory := below.fileDirectory <|> above.fileDirectory <|> fromEnvironment
    fileFormat := (below.fileFormat <|> above.fileFormat).getD default.fileFormat
    fileRotation := (below.fileRotation <|> above.fileRotation).getD default.fileRotation }

/-- Reads a command line without the name of the program. -/
def parse (environment : Environment) (words : List String) : Except UsageError Invocation := do
  let (above, subcommand?) ← readTop {} words
  match subcommand? with
  | none =>
    let given ← above.settle
    let given ← lookupLog environment given
    throw (if given = {} then .nothingGiven else .missingSubcommand)
  | some (subcommand, rest) =>
    let progress ← readBelow (Argument.below subcommand) {} rest
    let below ← progress.settle
    let complete ← lookup environment below
    let command ← complete.command subcommand
    let above ← above.settle
    let lookedUp ← lookupLog environment above
    return { command, log := logOptions below above lookedUp.fileDirectory }

end BlobLimbo.CommandLine
