import BlobLimbo.CommandLine.Parse
import BlobLimbo.Limbo.Open

/-!
# Operator commands

Each command opens a limbo, does one thing, closes the limbo and prints what it did. Opening a
limbo recovers it, so every command repairs the store it works on. Everything a command prints
comes after the last event it reports.
-/

namespace BlobLimbo.CommandLine

/-- What a command did. -/
structure Report where
  /-- What it printed, one text for each call. -/
  printed : List String
  /-- Why it failed, if it did: the failure and its causes, outermost first. -/
  failure : Option (List String) := none
  deriving DecidableEq

/-- How many entries a limbo tracks, in all and in each block. -/
structure Summary where
  /-- The number of entries. -/
  entries : Nat
  /-- The number of entries of each block, lowest block first. -/
  blocks : List (UInt64 × Nat)
  deriving DecidableEq

namespace Summary

/-- What a limbo tracks. -/
def ofLimbo {S : Type} (limbo : Limbo S) : Summary :=
  ⟨limbo.size, limbo.groupSizes⟩

/-- The summary as a document. -/
def toJson (summary : Summary) : Json :=
  .object [("entries", .number summary.entries),
    ("blocks", .array (summary.blocks.map fun (block, entries) =>
      .object [("block", .number block.toNat), ("entries", .number entries)]))]

/-- The line above and below a printed summary. -/
def rule : String := "--------------------------"

/-- A number with blanks in front, at least twelve characters wide. -/
def padded (n : Nat) : String :=
  String.ofList ((Nat.toDigits 10 n).leftpad 12 ' ')

/-- The summary as lines of text. -/
def lines (datadir : String) (summary : Summary) : List String :=
  [rule, "Path: " ++ datadir, "Tracked entries: " ++ toString summary.entries] ++
    summary.blocks.map (fun (block, entries) =>
      "  block " ++ padded block.toNat ++ ": " ++ toString entries) ++ [rule]

end Summary

/-- A command that failed and printed nothing. -/
def failed (chain : List String) : Report :=
  { printed := [], failure := some chain }

/-- Opens a limbo, does something with it and closes it. -/
def withLimbo {α : Type} (config : LimboConfig) (disk : Disk)
    (work : Limbo ShelfStore → Outcome (Limbo ShelfStore) α)
    (finish : α → Disk → Outcome Disk Report) : Outcome Disk Report :=
  let opened := Limbo.openOnDisk config .empty disk
  match opened.value with
  | .error error =>
    { value := failed (("failed to open limbo at " ++ config.datadir) :: error.chain)
      state := opened.state
      events := opened.events }
  | .ok limbo =>
    let worked := work limbo
    let closed := Limbo.close worked.state
    let events := opened.events ++ worked.events ++ closed.events
    match closed.value with
    | .error error => { value := failed error.chain, state := closed.state.disk, events }
    | .ok () => (finish worked.value closed.state.disk).after events

/-- Prints what a limbo tracks, as text or as a document. -/
def inspectLimbo (config : LimboConfig) (json : Bool) (disk : Disk) : Outcome Disk Report :=
  withLimbo config disk (fun limbo => { value := Summary.ofLimbo limbo, state := limbo })
    fun summary disk =>
      { value := {
          printed :=
            if json then [String.ofList (summary.toJson.pretty 0)]
            else summary.lines config.datadir }
        state := disk
        events := [.command (.inspected summary.entries)] }

/-- Evicts every entry at or below a block. -/
def finalizeLimbo (config : LimboConfig) (block : UInt64) (disk : Disk) : Outcome Disk Report :=
  withLimbo config disk (Limbo.finalize (some block)) fun outcome disk =>
    match outcome with
    | .noFinalizedBlock => { value := failed ["no finalized block to sweep"], state := disk }
    | .swept evicted failures =>
      { value := {
          printed :=
            ["Evicted " ++ toString evicted ++ " entries at or below block " ++ toString block]
          failure :=
            if failures.isEmpty then none
            else some ["failed to delete " ++ toString failures.length ++ " of " ++
              toString evicted ++ " finalized entries"] }
        state := disk
        events :=
          failures.map (fun failure =>
            .command (.leftOnDisk failure.tx failure.block failure.cause)) ++
          [.command (.swept block evicted)] }

/-- Discards the blobs of a transaction. -/
def dropBlobs (config : LimboConfig) (tx : TxHash) (disk : Disk) : Outcome Disk Report :=
  withLimbo config disk (Limbo.pull tx) fun pulled disk =>
    match pulled with
    | .error error =>
      { value := failed (("failed to drop " ++ tx.toHex) :: error.chain), state := disk }
    | .ok sidecar =>
      let blobs := sidecar.blobs.length
      { value := { printed := ["Dropped " ++ toString blobs ++ " blobs of " ++ tx.toHex] }
        state := disk
        events := [.command (.dropped tx blobs)] }

/-- Carries out a command. -/
def Command.run : Command → Disk → Outcome Disk Report
  | .inspect config json => inspectLimbo config json
  | .finalize config block => finalizeLimbo config block
  | .drop config tx => dropBlobs config tx

end BlobLimbo.CommandLine
