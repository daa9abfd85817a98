import BlobLimbo.Metrics.Limbo
import Mathlib.Logic.Function.Basic

/-!
# What a ledger says of a limbo

The counters of a limbo and its histograms have series of their own, so writing one of them leaves
the others alone. What a ledger says of all of them is a function of the counters and one of the
methods, and each way of writing changes these functions at one place (`Reads`).
-/

namespace BlobLimbo.Metrics

open Std

/-- The counters of a limbo. -/
inductive Counter where
  /-- The calls of a method that succeeded, or those that failed. -/
  | calls (method : Method) (succeeded : Bool)
  /-- The entries evicted by finality. -/
  | evicted
  /-- The evicted entries whose record could not be deleted. -/
  | evictionFailures
  deriving DecidableEq

/-- The series of a counter. -/
def Counter.series : Counter → Series
  | .calls method succeeded =>
    ⟨if succeeded then limboCalls.success else limboCalls.failure, some method.label⟩
  | .evicted => evictedTotal
  | .evictionFailures => evictionFailuresTotal

/-- The histogram of the durations of a method. -/
def Method.durations (method : Method) : Series :=
  ⟨limboCalls.duration, some method.label⟩

/-- Methods have different labels. -/
theorem Method.label_injective : Function.Injective Method.label := by
  intro method method' h
  cases method <;> cases method' <;> simp_all [label]

/-- Methods have different histograms. -/
theorem Method.durations_injective : Function.Injective Method.durations := by
  intro method method' h
  simp only [durations, Series.mk.injEq, true_and, Option.some.injEq] at h
  exact label_injective h

/-- Counters have different series. -/
theorem Counter.series_injective : Function.Injective Counter.series := by
  intro counter counter' h
  cases counter with
  | calls method succeeded =>
    cases counter' with
    | calls method' succeeded' =>
      simp only [series, Series.mk.injEq, Option.some.injEq] at h
      obtain ⟨hname, hlabel⟩ := h
      rw [Method.label_injective hlabel]
      cases succeeded <;> cases succeeded' <;> simp_all [limboCalls]
    | evicted => simp [series, evictedTotal] at h
    | evictionFailures => simp [series, evictionFailuresTotal] at h
  | evicted => cases counter' <;> simp_all [series, evictedTotal, evictionFailuresTotal]
  | evictionFailures => cases counter' <;> simp_all [series, evictedTotal, evictionFailuresTotal]

namespace Ledger

/-- What a ledger says of each counter and how often it says each histogram was recorded. It has
no other counters and histograms. -/
structure Reads (ledger : Ledger) (counts : Counter → Option Nat)
    (recordings : Method → Option Nat) : Prop where
  counters : ∀ counter : Counter, ledger.counters[counter.series]? = counts counter
  histograms : ∀ method : Method, ledger.histograms[method.durations]? = recordings method
  counters_only : ∀ series ∈ ledger.counters, ∃ counter : Counter, counter.series = series
  histograms_only : ∀ series ∈ ledger.histograms, ∃ method : Method, method.durations = series

/-- Nothing is said in the beginning. -/
theorem reads_empty : Reads .empty (fun _ => none) (fun _ => none) where
  counters counter := by simp [empty]
  histograms method := by simp [empty]
  counters_only series h := by simp [empty] at h
  histograms_only series h := by simp [empty] at h

namespace Reads

variable {ledger : Ledger} {counts : Counter → Option Nat} {recordings : Method → Option Nat}
  (h : Reads ledger counts recordings)

include h

/-- What a ledger says can be told in other words. -/
theorem congr {counts' : Counter → Option Nat} {recordings' : Method → Option Nat}
    (hcounts : ∀ counter, counts counter = counts' counter)
    (hrecordings : ∀ method, recordings method = recordings' method) :
    Reads ledger counts' recordings' := by
  rwa [← funext hcounts, ← funext hrecordings]

/-- A counter counts up. -/
theorem increment (counter : Counter) (n : Nat) :
    Reads (ledger.increment counter.series n)
      (Function.update counts counter (some ((counts counter).getD 0 + n))) recordings where
  counters other := by
    simp only [Ledger.increment, ExtTreeMap.getElem?_insert, LawfulEqCmp.compare_eq_iff_eq,
      Counter.series_injective.eq_iff, ExtTreeMap.getD_eq_getD_getElem?, h.counters]
    by_cases hother : counter = other
    · subst hother
      simp
    · rw [if_neg hother, Function.update_of_ne (Ne.symm hother)]
  histograms := h.histograms
  counters_only series hseries := by
    simp only [Ledger.increment, ExtTreeMap.mem_insert, LawfulEqCmp.compare_eq_iff_eq] at hseries
    rcases hseries with rfl | hseries
    · exact ⟨counter, rfl⟩
    · exact h.counters_only series hseries
  histograms_only := h.histograms_only

/-- A histogram gets a recording. -/
theorem record (method : Method) :
    Reads (ledger.record method.durations) counts
      (Function.update recordings method (some ((recordings method).getD 0 + 1))) where
  counters := h.counters
  histograms other := by
    simp only [Ledger.record, ExtTreeMap.getElem?_insert, LawfulEqCmp.compare_eq_iff_eq,
      Method.durations_injective.eq_iff, ExtTreeMap.getD_eq_getD_getElem?, h.histograms]
    by_cases hother : method = other
    · subst hother
      simp
    · rw [if_neg hother, Function.update_of_ne (Ne.symm hother)]
  counters_only := h.counters_only
  histograms_only series hseries := by
    simp only [Ledger.record, ExtTreeMap.mem_insert, LawfulEqCmp.compare_eq_iff_eq] at hseries
    rcases hseries with rfl | hseries
    · exact ⟨method, rfl⟩
    · exact h.histograms_only series hseries

/-- Only the counters and the histograms matter. -/
theorem of_eq {ledger' : Ledger} (hcounters : ledger'.counters = ledger.counters)
    (hhistograms : ledger'.histograms = ledger.histograms) :
    Reads ledger' counts recordings where
  counters := by simpa only [hcounters] using h.counters
  histograms := by simpa only [hhistograms] using h.histograms
  counters_only := by simpa only [hcounters] using h.counters_only
  histograms_only := by simpa only [hhistograms] using h.histograms_only

/-- A counter appears. -/
theorem appear (counter : Counter) (hnew : counts counter = none) :
    Reads (ledger.increment counter.series 0) (Function.update counts counter (some 0))
      recordings := by
  have hincremented := h.increment counter 0
  rwa [hnew] at hincremented

/-- The counters and the histogram of a method appear. -/
theorem zero (method : Method) (hnew : ∀ succeeded, counts (.calls method succeeded) = none)
    (hunrecorded : recordings method = none) :
    Reads (limboCalls.zero method.label ledger)
      (Function.update (Function.update counts (.calls method true) (some 0))
        (.calls method false) (some 0))
      (Function.update recordings method (some 1)) := by
  have hfailed := (h.appear _ (hnew true)).appear (.calls method false)
    (by rw [Function.update_of_ne (by simp), hnew])
  have hrecorded := hfailed.record method
  rwa [hunrecorded] at hrecorded

/-- A call is recorded. -/
theorem observeCall (method : Method) (succeeded : Bool) :
    Reads (ledger.observeCall method succeeded)
      (Function.update counts (.calls method succeeded)
        (some ((counts (.calls method succeeded)).getD 0 + 1)))
      (Function.update recordings method (some ((recordings method).getD 0 + 1))) :=
  (h.increment (.calls method succeeded) 1).record method

/-- A sweep is recorded. -/
theorem countSweep (evicted failed : Nat) :
    Reads (ledger.countSweep evicted failed)
      (Function.update
        (Function.update counts .evicted (some ((counts .evicted).getD 0 + evicted)))
        .evictionFailures (some ((counts .evictionFailures).getD 0 + failed)))
      recordings := by
  have hboth := (h.increment .evicted evicted).increment .evictionFailures failed
  rwa [Function.update_of_ne (by simp)] at hboth

end Reads

/-- When metrics are enabled every counter is zero and every histogram has one recording. -/
theorem reads_zeroLimbo :
    Reads Ledger.empty.describeLimbo.zeroLimbo (fun _ => some 0) (fun _ => some 1) := by
  have hdescribed : Reads empty.describeLimbo (fun _ => none) (fun _ => none) :=
    reads_empty.of_eq rfl rfl
  have hpush := hdescribed.zero .push (fun _ => rfl) rfl
  have hpull := hpush.zero .pull (fun _ => rfl) rfl
  have hupdate := hpull.zero .update (fun _ => rfl) rfl
  have hall := (hupdate.appear .evicted rfl).appear .evictionFailures rfl
  refine hall.congr (fun counter => ?_) fun method => ?_
  · rcases counter with ⟨method, succeeded⟩ | _ | _
    · cases method <;> cases succeeded <;> rfl
    · rfl
    · rfl
  · cases method <;> rfl

end Ledger

end BlobLimbo.Metrics
