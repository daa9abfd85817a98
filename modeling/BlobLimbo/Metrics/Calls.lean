import BlobLimbo.Metrics.Ledger

/-!
# Metrics of calls

Three series tell how the calls of a component went: how many succeeded, how many failed, and how
long they took, each by method.
-/

namespace BlobLimbo.Metrics

/-- The names of the three series of a component. -/
structure CallSeries where
  /-- The counter of successful calls. -/
  success : String
  /-- The counter of failed calls. -/
  failure : String
  /-- The histogram of durations. -/
  duration : String
  deriving DecidableEq

namespace CallSeries

/-- Describes the three series, for the component named in the text. -/
def describe (calls : CallSeries) (component : String) (ledger : Ledger) : Ledger :=
  ((ledger.describe calls.success
      ⟨.counter, .count, "Total number of successful " ++ component ++ " requests"⟩).describe
    calls.failure
      ⟨.counter, .count, "Total number of failed " ++ component ++ " requests"⟩).describe
    calls.duration ⟨.histogram, .seconds, "Duration of " ++ component ++ " requests"⟩

/-- Makes the series of a method appear before its first call. The histogram records a zero. -/
def zero (calls : CallSeries) (method : String) (ledger : Ledger) : Ledger :=
  ((ledger.increment ⟨calls.success, some method⟩ 0).increment
    ⟨calls.failure, some method⟩ 0).record ⟨calls.duration, some method⟩

/-- Records a call of a method that succeeded or failed. -/
def observe (calls : CallSeries) (method : String) (succeeded : Bool) (ledger : Ledger) : Ledger :=
  (ledger.increment ⟨if succeeded then calls.success else calls.failure, some method⟩ 1).record
    ⟨calls.duration, some method⟩

end CallSeries

end BlobLimbo.Metrics
