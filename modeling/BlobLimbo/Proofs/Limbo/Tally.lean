import BlobLimbo.Proofs.Limbo.Activity
import BlobLimbo.Proofs.Limbo.Upkeep
import BlobLimbo.Proofs.Metrics.Counters

/-!
# The ledger of a limbo

A call writes its reply into the ledger of its limbo, and nothing else writes counters or
histograms. So the ledger says of each of them what the replies of a run add up to
(`tells_acts`).
-/

namespace BlobLimbo.Limbo

open Metrics

/-- The method a reply answers, and whether the call succeeded. Sweeps are not counted as calls. -/
def Reply.answer : Reply → Option (Method × Bool)
  | .pushed result => some (.push, result.isOk)
  | .pulled result => some (.pull, result.isOk)
  | .updated result => some (.update, result.isOk)
  | .finalized _ => none

/-- How many entries a reply says were evicted. -/
def Reply.evicted : Reply → Nat
  | .finalized (.swept evicted _) => evicted
  | _ => 0

/-- How many evicted entries a reply says could not be deleted. -/
def Reply.evictionFailures : Reply → Nat
  | .finalized (.swept _ failures) => failures.length
  | _ => 0

/-- What some replies say of a counter. -/
def tally (replies : List Reply) : Counter → Nat
  | .calls method succeeded =>
    replies.countP fun reply => reply.answer = some (method, succeeded)
  | .evicted => (replies.map Reply.evicted).sum
  | .evictionFailures => (replies.map Reply.evictionFailures).sum

/-- How many replies answer a method. -/
def answers (replies : List Reply) (method : Method) : Nat :=
  replies.countP fun reply => reply.answer.map Prod.fst = some method

/-- The counters say what some replies say, and each histogram has a recording for every reply to
its method and one for being enabled. -/
def Tells (ledger : Ledger) (replies : List Reply) : Prop :=
  ledger.Reads (fun counter => some (tally replies counter))
    (fun method => some (answers replies method + 1))

/-- Writes a reply into a ledger. -/
def enter (reply : Reply) (ledger : Ledger) : Ledger :=
  match reply with
  | .pushed result => ledger.observeCall .push result.isOk
  | .pulled result => ledger.observeCall .pull result.isOk
  | .updated result => ledger.observeCall .update result.isOk
  | .finalized .noFinalizedBlock => ledger
  | .finalized (.swept evicted failures) => ledger.countSweep evicted failures.length

@[simp] theorem tally_append (replies replies' : List Reply) (counter : Counter) :
    tally (replies ++ replies') counter = tally replies counter + tally replies' counter := by
  cases counter <;> simp [tally, List.countP_append]

@[simp] theorem answers_append (replies replies' : List Reply) (method : Method) :
    answers (replies ++ replies') method = answers replies method + answers replies' method := by
  simp [answers, List.countP_append]

section Entering

variable {ledger : Ledger} {replies : List Reply} (h : Tells ledger replies)

include h

/-- A call is entered under its method and its outcome. -/
theorem Tells.observeCall {reply : Reply} {method : Method} {succeeded : Bool}
    (hanswer : reply.answer = some (method, succeeded)) (hevicted : reply.evicted = 0)
    (hfailures : reply.evictionFailures = 0) :
    Tells (ledger.observeCall method succeeded) (replies ++ [reply]) := by
  refine (Ledger.Reads.observeCall h method succeeded).congr (fun counter => ?_) fun method' => ?_
  · rcases counter with ⟨method', succeeded'⟩ | _ | _
    · by_cases hsame : (method', succeeded') = (method, succeeded)
      · obtain ⟨rfl, rfl⟩ := Prod.mk.inj hsame
        simp [tally, hanswer]
      · have hother : Counter.calls method' succeeded' ≠ .calls method succeeded := by
          rintro ⟨⟩
          exact hsame rfl
        rw [Function.update_of_ne hother]
        simp [tally, hanswer, Ne.symm hsame]
    · simp [tally, hevicted]
    · simp [tally, hfailures]
  · by_cases hsame : method' = method
    · subst hsame
      simp [answers, hanswer]
    · rw [Function.update_of_ne hsame]
      simp [answers, hanswer, Ne.symm hsame]

/-- A ledger that says what some replies say, says what they and another one say after that one is
entered. -/
theorem Tells.enter (reply : Reply) : Tells (enter reply ledger) (replies ++ [reply]) := by
  cases reply with
  | pushed result => exact h.observeCall rfl rfl rfl
  | pulled result => exact h.observeCall rfl rfl rfl
  | updated result => exact h.observeCall rfl rfl rfl
  | finalized result =>
    cases result with
    | noFinalizedBlock =>
      refine Ledger.Reads.congr h (fun counter => ?_) fun method => ?_
      · cases counter <;> simp [tally, Reply.answer, Reply.evicted, Reply.evictionFailures]
      · simp [answers, Reply.answer]
    | swept evicted failures =>
      refine (Ledger.Reads.countSweep h evicted failures.length).congr (fun counter => ?_)
        fun method => ?_
      · cases counter <;>
          simp [tally, Reply.answer, Reply.evicted, Reply.evictionFailures, Function.update]
      · simp [answers, Reply.answer]

end Entering

section Ledger

variable {S : Type} {recorded : Option Ledger}

/-- The ledger of a limbo is a given one. -/
abbrev Records (recorded : Option Ledger) (limbo : Limbo S) : Prop := limbo.ledger = recorded

/-- An observed action that records nothing itself is recorded once. -/
theorem ledger_observed {α : Type} (method : Method) {action : Action LimboError (Limbo S) α}
    (limbo : Limbo S) (h : Leads (Records limbo.ledger) (Records limbo.ledger) action) :
    (observed method action limbo).state.ledger =
      limbo.ledger.map fun ledger =>
        ledger.observeCall method (observed method action limbo).value.isOk := by
  rw [← h limbo rfl]
  rfl

variable [SlotStore S]

/-- Taking an entry records nothing. -/
theorem leads_take (id : SlotId) :
    Leads (Records recorded) (Records recorded)
      (take id : Action LimboError (Limbo S) Entry) := by
  refine Leads.keep (fun _ hrecorded => hrecorded) fun data => ?_
  refine (Leads.ofExcept _).keep fun entry => ?_
  refine Leads.keep (fun _ hrecorded => hrecorded) fun _ => ?_
  exact Leads.keep (fun _ hrecorded => hrecorded) fun _ => Leads.pure entry

/-- Storing an entry records nothing. -/
theorem leads_insert (entry : Entry) :
    Leads (Records recorded) (Records recorded)
      (insert entry : Action LimboError (Limbo S) Unit) := by
  refine Leads.keep (fun _ hrecorded => hrecorded) fun id => ?_
  refine Leads.current fun limbo => ?_
  split
  · exact fun _ hrecorded => hrecorded
  · exact Leads.keep (fun _ hrecorded => hrecorded) fun _ => Leads.fail _

/-- A call writes its reply into the ledger, and nothing else. -/
theorem ledger_perform (limbo : Limbo S) (call : Call) :
    (limbo.perform call).state.ledger = limbo.ledger.map (enter (limbo.perform call).value) := by
  cases call with
  | push tx block sidecar =>
    refine ledger_observed .push limbo (Leads.current fun limbo => ?_)
    split
    · exact (Leads.report _).keep fun _ => Leads.fail _
    · exact (leads_insert _).reportFailure _
  | pull tx =>
    refine ledger_observed .pull limbo (Leads.current fun limbo => ?_)
    split
    · exact (Leads.report _).keep fun _ => Leads.fail _
    · exact ((leads_take _).reportFailure _).keep fun entry => Leads.pure entry.sidecar
  | update tx block =>
    refine ledger_observed .update limbo (Leads.current fun limbo => ?_)
    split
    · exact (Leads.report _).keep fun _ => Leads.pure _
    · split
      · exact (Leads.report _).keep fun _ => Leads.pure _
      · refine ((leads_take _).reportFailure _).keep fun entry => ?_
        refine ((leads_insert _).reportFailure _).keep fun _ => ?_
        exact (Leads.report _).keep fun _ => Leads.pure _
  | finalize finalized =>
    cases finalized with
    | none =>
      change limbo.ledger = limbo.ledger.map fun ledger => ledger
      rw [Option.map_id']
    | some finalized => rfl

end Ledger

section Run

variable {S : Type} [FallibleStore S] {limbo : Limbo S} {ledger : Ledger} {replies : List Reply}

/-- The ledger says what the replies say after an activity as well. -/
theorem tells_act (hledger : limbo.ledger = some ledger) (h : Tells ledger replies)
    (activity : Activity) : ∃ next, (limbo.act activity).state.ledger = some next ∧
      Tells next (replies ++ (limbo.act activity).value) := by
  cases activity with
  | meet incident =>
    cases incident with
    | call call =>
      refine ⟨_, ?_, h.enter (limbo.perform call).value⟩
      change (limbo.perform call).state.ledger = _
      rw [ledger_perform, hledger]
      rfl
    | failNext operation times =>
      refine ⟨ledger, hledger, ?_⟩
      rwa [act, List.append_nil]
  | report =>
    refine ⟨ledger.gaugeLimbo limbo.size limbo.groupSizes.length, ?_, ?_⟩
    · rw [act, reportMetrics, hledger]
      rfl
    · rw [act, List.append_nil]
      exact Ledger.Reads.of_eq h rfl rfl

/-- The ledger says what the replies say, throughout a run. -/
theorem tells_acts (hledger : limbo.ledger = some ledger) (h : Tells ledger replies)
    (activities : List Activity) : ∃ last, (limbo.acts activities).state.ledger = some last ∧
      Tells last (replies ++ (limbo.acts activities).value) := by
  induction activities generalizing limbo ledger replies with
  | nil => exact ⟨ledger, hledger, by rwa [acts, List.append_nil]⟩
  | cons activity activities ih =>
    obtain ⟨next, hnext, htells⟩ := tells_act hledger h activity
    rw [state_acts_cons, value_acts_cons, ← List.append_assoc]
    exact ih hnext htells

end Run

end BlobLimbo.Limbo
