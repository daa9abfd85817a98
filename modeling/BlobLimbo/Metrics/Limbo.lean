import BlobLimbo.Metrics.Calls

/-!
# The metrics of a limbo
-/

namespace BlobLimbo.Metrics

/-- The methods of a limbo whose calls are counted. -/
inductive Method where
  | push
  | pull
  | update
  deriving DecidableEq, Repr

/-- The label of a method. -/
def Method.label : Method → String
  | .push => "push"
  | .pull => "pull"
  | .update => "update"

/-- The series of a limbo's calls. -/
def limboCalls : CallSeries where
  success := "blobpool_limbo_success_total"
  failure := "blobpool_limbo_error_total"
  duration := "blobpool_limbo_duration_seconds"

/-- Counts the entries evicted by finality. -/
def evictedTotal : Series := ⟨"blobpool_limbo_evicted_total", none⟩

/-- Counts the evicted entries whose record could not be deleted. -/
def evictionFailuresTotal : Series := ⟨"blobpool_limbo_eviction_failures_total", none⟩

/-- The number of tracked transactions. -/
def trackedEntries : Series := ⟨"blobpool_limbo_tracked_entries", none⟩

/-- The number of blocks with tracked transactions. -/
def trackedBlocks : Series := ⟨"blobpool_limbo_tracked_blocks", none⟩

namespace Ledger

/-- Describes every series of a limbo. -/
def describeLimbo (ledger : Ledger) : Ledger :=
  (((((limboCalls.describe "blob limbo" ledger).describe evictedTotal.name
    ⟨.counter, .count, "Total number of limbo entries evicted by finality"⟩).describe
    evictionFailuresTotal.name ⟨.counter, .count,
      "Total number of finalized limbo entries whose slot could not be deleted"⟩).describe
    trackedEntries.name ⟨.gauge, .count, "Number of blob transactions held by the limbo"⟩).describe
    trackedBlocks.name ⟨.gauge, .count, "Number of distinct inclusion blocks held by the limbo"⟩)

/-- Makes the counters of a limbo appear. -/
def zeroLimbo (ledger : Ledger) : Ledger :=
  let calls := [Method.push, .pull, .update].foldl
    (fun ledger method => limboCalls.zero method.label ledger) ledger
  (calls.increment evictedTotal 0).increment evictionFailuresTotal 0

/-- Records a call of one of a limbo's methods. -/
def observeCall (ledger : Ledger) (method : Method) (succeeded : Bool) : Ledger :=
  limboCalls.observe method.label succeeded ledger

/-- Records a sweep. -/
def countSweep (ledger : Ledger) (evicted failed : Nat) : Ledger :=
  (ledger.increment evictedTotal evicted).increment evictionFailuresTotal failed

/-- Publishes what a limbo tracks. -/
def gaugeLimbo (ledger : Ledger) (entries blocks : Nat) : Ledger :=
  (ledger.setGauge trackedEntries entries).setGauge trackedBlocks blocks

end Ledger

end BlobLimbo.Metrics
