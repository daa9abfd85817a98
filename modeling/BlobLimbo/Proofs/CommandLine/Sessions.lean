import BlobLimbo.CommandLine.Run
import BlobLimbo.Proofs.Limbo.FirstEntries
import BlobLimbo.Proofs.Limbo.GroupSizes
import BlobLimbo.Proofs.Limbo.Observation
import BlobLimbo.Proofs.Limbo.Rehoming
import BlobLimbo.Proofs.Wording

/-!
# Operator commands in a row

Every command opens the limbo anew, so all that one command hands to the next is the disk. A disk on
which a limbo can be opened stands for the map of what the limbo holds (`FoundOn`). A command
reports what the map says and leaves a disk that stands for what the map becomes (`FoundOn.step`),
and so do commands in a row (`FoundOn.session`). What the operator reads off one report, text by
text (`Report.inspected`), is therefore what the next commands go by (`commands_agree`).
-/

namespace BlobLimbo.CommandLine

open Std Limbo ShelfStore LawfulStore

/-- Carries out commands one after the other, and lists what they report. -/
def session (disk : Disk) : List Command → List Report × Disk
  | [] => ([], disk)
  | command :: commands =>
    let outcome := command.run disk
    let (reports, last) := session outcome.state commands
    (outcome.value :: reports, last)

namespace Summary

/-- The number of entries at or below a block. -/
def upTo (summary : Summary) (block : UInt64) : Nat :=
  ((summary.blocks.filter fun group => group.1 ≤ block).map Prod.snd).sum

/-- The summary of what is above a block. -/
def above (summary : Summary) (block : UInt64) : Summary :=
  let blocks := summary.blocks.filter fun group => block < group.1
  ⟨(blocks.map Prod.snd).sum, blocks⟩

/-- The summary of what is left without one of the entries of a block. -/
def without (summary : Summary) (block : UInt64) : Summary :=
  ⟨summary.entries - 1, leaveBlock block summary.blocks⟩

/-- The summary of what a map holds. -/
def ofHoldings (held : Holdings) : Summary :=
  ⟨held.size, held.groupSizes⟩

/-- What a limbo tracks is what it holds. -/
theorem ofLimbo_eq {limbo : Limbo ShelfStore} {held : Holdings}
    (h : Holds held limbo.store limbo.index) : ofLimbo limbo = ofHoldings held := by
  rw [ofLimbo, ofHoldings, h.agrees.size, h.agrees.groupSizes]

end Summary

namespace Report

/-- A summary is printed, as lines of text or as a document. -/
def inspected (config : LimboConfig) (json : Bool) (summary : Summary) : Report where
  printed := if json then [summary.document] else summary.table config.datadir
  failure := none

/-- Some entries at or below a block were evicted, and every record was deleted. -/
def evicted (entries : Nat) (block : UInt64) : Report where
  printed := ["Evicted " ++ toString entries ++ " entries at or below block " ++ toString block]
  failure := none

/-- The blobs of a transaction were discarded. -/
def dropped (blobs : Nat) (tx : TxHash) : Report where
  printed := ["Dropped " ++ toString blobs ++ " blobs of " ++ tx.wording]
  failure := none

/-- A transaction could not be dropped because it is not tracked. -/
def notTracked (tx : TxHash) : Report where
  printed := []
  failure := some ["failed to drop " ++ tx.wording,
    "blob transaction " ++ tx.wording ++ " is not tracked"]

/-- The writers of tables and documents, of hashes and of failures write what is to be read. -/
theorem inspected_eq (config : LimboConfig) (json : Bool) (summary : Summary) :
    inspected config json summary =
      { printed :=
          if json then [String.ofList (summary.toJson.pretty 0)]
          else summary.lines config.datadir } := by
  rw [Summary.ofList_pretty_toJson, Summary.lines_eq_table, inspected]

theorem dropped_eq (blobs : Nat) (tx : TxHash) :
    dropped blobs tx =
      { printed := ["Dropped " ++ toString blobs ++ " blobs of " ++ tx.toHex] } := by
  rw [tx.toHex_eq_wording, dropped]

theorem notTracked_eq (tx : TxHash) : notTracked tx =
    failed (("failed to drop " ++ tx.toHex) :: (LimboError.notTracked tx).chain) := by
  have hchain : (LimboError.notTracked tx).chain =
      ["blob transaction " ++ tx.toHex ++ " is not tracked"] := rfl
  rw [hchain, tx.toHex_eq_wording, notTracked, failed]

end Report

/-- What a command reports of a map, and what is held after it. -/
def answer (held : Holdings) : Command → Report × Holdings
  | .inspect config json => (.inspected config json (.ofHoldings held), held)
  | .finalize _ block => (.evicted (held.final block).size block, held.pending block)
  | .drop _ tx =>
    match held[tx]? with
    | none => (.notTracked tx, held)
    | some (_, sidecar) => (.dropped sidecar.blobs.length tx, held.erase tx)

/-- What some commands report of a map, and what is held after them. -/
def answers (held : Holdings) : List Command → List Report × Holdings
  | [] => ([], held)
  | command :: commands =>
    let (report, next) := answer held command
    let (reports, last) := answers next commands
    (report :: reports, last)

variable {config : LimboConfig} {disk : Disk} {limbo : Limbo ShelfStore} {held held' : Holdings}

/-- A limbo holds what a map says, and its store is open as a configuration says. -/
structure OpenWith (config : LimboConfig) (held : Holdings) (limbo : Limbo ShelfStore) : Prop where
  holds : Holds held limbo.store limbo.index
  openAt : ∃ sizes, Layout.slotSizes config.maxBlobsPerTx = .ok sizes ∧
    OpenAt config.datadir sizes limbo.store

/-- The limbo that is opened on a disk holds what a map says. -/
def FoundOn (config : LimboConfig) (held : Holdings) (disk : Disk) : Prop :=
  ∃ limbo, (openOnDisk config .empty disk).value = .ok limbo ∧ OpenWith config held limbo

/-- What is held after a call is held by a store that is still open. -/
theorem OpenWith.perform (h : OpenWith config held limbo) (call : Call)
    (hholds : Holds held' (limbo.perform call).state.store (limbo.perform call).state.index) :
    OpenWith config held' (limbo.perform call).state := by
  obtain ⟨sizes, hsizes, hopenAt⟩ := h.openAt
  have hkept := (upkeep_openAt config.datadir sizes).perform
    ⟨hopenAt, hopenAt.intact.slotsWithin⟩ call
  exact ⟨hholds, sizes, hsizes, hkept.1⟩

/-- Pulling a transaction. -/
theorem OpenWith.pull (h : OpenWith config held limbo) (tx : TxHash) :
    (limbo.perform (.pull tx)).value = (held.perform (.pull tx)).1 ∧
      OpenWith config (held.perform (.pull tx)).2 (limbo.perform (.pull tx)).state :=
  ⟨h.holds.pull.1, h.perform (.pull tx) h.holds.pull.2⟩

/-- Evicting what is final. -/
theorem OpenWith.finalize (h : OpenWith config held limbo) (block : UInt64) :
    (Limbo.finalize (some block) limbo).value = .swept (held.final block).size [] ∧
      OpenWith config (held.pending block) (Limbo.finalize (some block) limbo).state := by
  obtain ⟨hvalue, hholds⟩ := h.holds.finalize block
  exact ⟨hvalue, h.perform (.finalize (some block)) hholds⟩

/-- What a limbo holds is found on its disk, and finding it changes nothing there. -/
theorem OpenWith.openOnDisk (h : OpenWith config held limbo) :
    ∃ after, (openOnDisk config .empty limbo.disk).value = .ok after ∧
      OpenWith config held after ∧ after.disk = limbo.disk := by
  obtain ⟨sizes, hsizes, hopenAt⟩ := h.openAt
  obtain ⟨after, count, hopen, hstore, hindex⟩ :=
    openOnDisk_of_accounted hsizes hopenAt h.holds.accounted .empty
  have hholds : Holds held after.store after.index := by
    rw [hstore, hindex]
    exact h.holds
  exact ⟨after, by rw [hopen], ⟨hholds, sizes, hsizes, hstore ▸ hopenAt⟩,
    congrArg ShelfStore.disk hstore⟩

theorem OpenWith.foundOn (h : OpenWith config held limbo) : FoundOn config held limbo.disk := by
  obtain ⟨after, hopen, hafter, -⟩ := h.openOnDisk
  exact ⟨after, hopen, hafter⟩

/-- A command works on the limbo that is opened, and leaves its disk. -/
theorem withLimbo_of_ok {α : Type} {work : Limbo ShelfStore → Outcome (Limbo ShelfStore) α}
    {finish : α → Disk → Outcome Disk Report}
    (hopen : (openOnDisk config .empty disk).value = .ok limbo) :
    (withLimbo config disk work finish).value =
        (finish (work limbo).value (work limbo).state.disk).value ∧
      (withLimbo config disk work finish).state =
        (finish (work limbo).value (work limbo).state.disk).state := by
  simp only [withLimbo, hopen]
  exact ⟨rfl, rfl⟩

/-- Dropping a transaction pulls it, and reports how that ended. -/
theorem dropBlobs_of_ok (hopen : (openOnDisk config .empty disk).value = .ok limbo) (tx : TxHash) :
    (dropBlobs config tx disk).value =
        (match (pull tx limbo).value with
        | .error error => failed (("failed to drop " ++ tx.toHex) :: error.chain)
        | .ok sidecar => .dropped sidecar.blobs.length tx) ∧
      (dropBlobs config tx disk).state = (pull tx limbo).state.disk := by
  constructor
  · refine (withLimbo_of_ok hopen).1.trans ?_
    cases (pull tx limbo).value with
    | error error => rfl
    | ok sidecar => exact (Report.dropped_eq _ _).symm
  · refine (withLimbo_of_ok hopen).2.trans ?_
    cases (pull tx limbo).value <;> rfl

namespace FoundOn

/-- What is tracked is shown, and stays. -/
theorem inspect (h : FoundOn config held disk) (json : Bool) :
    (inspectLimbo config json disk).value = .inspected config json (.ofHoldings held) ∧
      FoundOn config held (inspectLimbo config json disk).state := by
  obtain ⟨limbo, hopen, hwith⟩ := h
  rw [inspectLimbo, (withLimbo_of_ok hopen).1, (withLimbo_of_ok hopen).2,
    Summary.ofLimbo_eq hwith.holds, Report.inspected_eq]
  exact ⟨rfl, hwith.foundOn⟩

/-- What is at or below the block is evicted. No record is left behind. -/
theorem finalize (h : FoundOn config held disk) (block : UInt64) :
    (finalizeLimbo config block disk).value = .evicted (held.final block).size block ∧
      FoundOn config (held.pending block) (finalizeLimbo config block disk).state := by
  obtain ⟨limbo, hopen, hwith⟩ := h
  obtain ⟨hvalue, hafter⟩ := hwith.finalize block
  rw [finalizeLimbo, (withLimbo_of_ok hopen).1, (withLimbo_of_ok hopen).2, hvalue]
  exact ⟨rfl, hafter.foundOn⟩

/-- A transaction that is held is dropped. -/
theorem drop {tx : TxHash} {block : UInt64} {sidecar : Sidecar} (h : FoundOn config held disk)
    (hheld : held[tx]? = some (block, sidecar)) :
    (dropBlobs config tx disk).value = .dropped sidecar.blobs.length tx ∧
      FoundOn config (held.erase tx) (dropBlobs config tx disk).state := by
  obtain ⟨limbo, hopen, hwith⟩ := h
  obtain ⟨hreply, hafter⟩ := hwith.pull tx
  simp only [Holdings.perform, hheld] at hreply hafter
  have hvalue : (pull tx limbo).value = .ok sidecar := Reply.pulled.inj hreply
  rw [(dropBlobs_of_ok hopen tx).1, (dropBlobs_of_ok hopen tx).2, hvalue]
  exact ⟨rfl, hafter.foundOn⟩

/-- A transaction that is not held cannot be dropped, and nothing changes. -/
theorem drop_of_none {tx : TxHash} (h : FoundOn config held disk) (hheld : held[tx]? = none) :
    (dropBlobs config tx disk).value = .notTracked tx ∧
      FoundOn config held (dropBlobs config tx disk).state := by
  obtain ⟨limbo, hopen, hwith⟩ := h
  obtain ⟨hreply, hafter⟩ := hwith.pull tx
  simp only [Holdings.perform, hheld] at hreply hafter
  have hvalue : (pull tx limbo).value = .error (.notTracked tx) := Reply.pulled.inj hreply
  rw [(dropBlobs_of_ok hopen tx).1, (dropBlobs_of_ok hopen tx).2, hvalue, Report.notTracked_eq]
  exact ⟨rfl, hafter.foundOn⟩

/-- A command reports what the map says and leaves a disk that stands for what the map becomes. -/
theorem step (h : FoundOn config held disk) {command : Command} (hlimbo : command.limbo = config) :
    (command.run disk).value = (answer held command).1 ∧
      FoundOn config (answer held command).2 (command.run disk).state := by
  cases command with
  | inspect config' json =>
    obtain rfl : config' = config := hlimbo
    exact h.inspect json
  | finalize config' block =>
    obtain rfl : config' = config := hlimbo
    exact h.finalize block
  | drop config' tx =>
    obtain rfl : config' = config := hlimbo
    cases hheld : held[tx]? with
    | none =>
      simp only [answer, hheld]
      exact h.drop_of_none hheld
    | some entry =>
      simp only [answer, hheld]
      exact h.drop hheld

/-- Commands in a row report what the map says and leave a disk that stands for what the map
becomes. -/
theorem session (h : FoundOn config held disk) {commands : List Command}
    (hlimbo : ∀ command ∈ commands, command.limbo = config) :
    (session disk commands).1 = (answers held commands).1 ∧
      FoundOn config (answers held commands).2 (CommandLine.session disk commands).2 := by
  induction commands generalizing held disk with
  | nil => exact ⟨rfl, h⟩
  | cons command commands ih =>
    rw [List.forall_mem_cons] at hlimbo
    -- what one command leaves is where the next one opens the limbo
    obtain ⟨hvalue, hnext⟩ := h.step hlimbo.1
    obtain ⟨hvalues, hlast⟩ := ih hnext hlimbo.2
    exact ⟨congrArg₂ List.cons hvalue hvalues, hlast⟩

end FoundOn

end BlobLimbo.CommandLine
