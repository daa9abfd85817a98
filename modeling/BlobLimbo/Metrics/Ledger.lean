import Std.Data.ExtTreeMap

/-!
# The metrics ledger

What a metrics recorder holds: counters, gauges and histograms, each under the name of its series
and an optional method label, and a description for each name. A histogram is known by the number
of its recordings.
-/

namespace BlobLimbo.Metrics

/-- A metric series: a name and, for series of calls, the method that was called. -/
structure Series where
  /-- The name of the series. -/
  name : String
  /-- The method label. -/
  method : Option String := none
  deriving DecidableEq

namespace Series

/-- The name and the label as a list, by which series are ordered. -/
def parts (series : Series) : List String :=
  series.name :: series.method.toList

theorem parts_injective {a b : Series} (h : a.parts = b.parts) : a = b := by
  obtain ⟨name, method⟩ := a
  obtain ⟨name', method'⟩ := b
  cases method <;> cases method' <;> simp_all [parts]

instance : Ord Series := ⟨compareOn parts⟩

instance : Std.TransOrd Series :=
  inferInstanceAs (Std.TransCmp (compareOn parts))

instance : Std.LawfulEqOrd Series where
  eq_of_compare h := parts_injective (Std.LawfulEqOrd.eq_of_compare (α := List String) h)

/-- The key of a series: its name, then its label between braces. -/
def key (series : Series) : String :=
  match series.method with
  | none => series.name
  | some method => series.name ++ "\x7bmethod=" ++ method ++ "\x7d"

end Series

/-- What a series measures. -/
inductive Kind where
  | counter
  | gauge
  | histogram
  deriving DecidableEq, Repr

/-- The name of a kind. -/
def Kind.label : Kind → String
  | .counter => "counter"
  | .gauge => "gauge"
  | .histogram => "histogram"

/-- The unit a series is measured in. -/
inductive Measure where
  | count
  | seconds
  deriving DecidableEq, Repr

/-- The name of a unit. -/
def Measure.label : Measure → String
  | .count => "count"
  | .seconds => "seconds"

/-- What is said about a series. -/
structure Description where
  /-- What the series measures. -/
  kind : Kind
  /-- In which unit. -/
  measure : Measure
  /-- In words. -/
  text : String
  deriving DecidableEq

/-- Everything recorded so far. -/
structure Ledger where
  /-- The counters. -/
  counters : Std.ExtTreeMap Series Nat := ∅
  /-- The gauges, as they were last set. -/
  gauges : Std.ExtTreeMap Series Nat := ∅
  /-- How often each histogram was recorded. -/
  histograms : Std.ExtTreeMap Series Nat := ∅
  /-- The descriptions by name of series. -/
  descriptions : Std.ExtTreeMap String Description := ∅

namespace Ledger

/-- Nothing recorded yet. -/
def empty : Ledger := {}

/-- Adds to a counter, which appears when it is first touched, even by zero. -/
def increment (ledger : Ledger) (series : Series) (n : Nat) : Ledger :=
  { ledger with counters := ledger.counters.insert series (ledger.counters.getD series 0 + n) }

/-- Sets a gauge. -/
def setGauge (ledger : Ledger) (series : Series) (n : Nat) : Ledger :=
  { ledger with gauges := ledger.gauges.insert series n }

/-- Records one value in a histogram. -/
def record (ledger : Ledger) (series : Series) : Ledger :=
  { ledger with
    histograms := ledger.histograms.insert series (ledger.histograms.getD series 0 + 1) }

/-- Describes a series. A later description of the same name replaces an earlier one. -/
def describe (ledger : Ledger) (name : String) (description : Description) : Ledger :=
  { ledger with descriptions := ledger.descriptions.insert name description }

end Ledger

end BlobLimbo.Metrics
