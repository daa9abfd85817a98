import BlobLimbo.Proofs.Limbo.Faults

/-!
# The life of a limbo

A limbo over a store in memory is recovered from the replay of the store. From then on it is called,
operations of its store are made to fail, its metrics are enabled and published. All this keeps it
in order (`Reachable.accounted`), and none of it looks different when the ledger is left out or the
store is watched (`View.acts`).
-/

namespace BlobLimbo

namespace Limbo

/-- What a limbo goes through. -/
inductive Activity where
  /-- It is called, or the next calls of an operation of its store are to fail. -/
  | meet (incident : Incident)
  /-- Its metrics are published. -/
  | report

/-- Every sidecar that is pushed is of the given kind. -/
def Activity.Fits (fits : Sidecar → Prop) : Activity → Prop
  | .meet incident => incident.Fits fits
  | .report => True

section Acts

variable {S : Type} [FallibleStore S]

/-- What an activity makes of a limbo, and the reply to it if it is a call. -/
def act (limbo : Limbo S) : Activity → Outcome (Limbo S) (List Reply)
  | .meet (.call call) => (limbo.perform call).map fun reply => [reply]
  | .meet (.failNext operation times) =>
    { value := [], state := limbo.meet (.failNext operation times) }
  | .report => { value := [], state := limbo.reportMetrics }

/-- What some activities make of a limbo one after the other, and the replies to the calls. -/
def acts (limbo : Limbo S) : List Activity → Outcome (Limbo S) (List Reply)
  | [] => { value := [], state := limbo }
  | activity :: activities =>
    let first := limbo.act activity
    ((acts first.state activities).map (first.value ++ ·)).after first.events

@[simp] theorem state_acts_cons (limbo : Limbo S) (activity : Activity)
    (activities : List Activity) :
    (limbo.acts (activity :: activities)).state =
      ((limbo.act activity).state.acts activities).state := rfl

@[simp] theorem value_acts_cons (limbo : Limbo S) (activity : Activity)
    (activities : List Activity) :
    (limbo.acts (activity :: activities)).value =
      (limbo.act activity).value ++ ((limbo.act activity).state.acts activities).value := rfl

end Acts

end Limbo

namespace View

variable {S T : Type} [FallibleStore S] [FallibleStore T] {view : View S T}
  (hfail : ∀ store operation times, view.store (FallibleStore.failNext store operation times) =
    FallibleStore.failNext (view.store store) operation times)

include hfail

/-- Every activity looks the same. -/
theorem act (limbo : Limbo S) (activity : Limbo.Activity) :
    (limbo.act activity).mapState view.limbo = (view.limbo limbo).act activity := by
  cases activity with
  | meet incident =>
    cases incident with
    | call call =>
      simp only [Limbo.act]
      rw [← view.perform]
      rfl
    | failNext operation times =>
      simp only [Limbo.act, Limbo.meet, Outcome.mapState, View.limbo, Limbo.withStore, hfail]
  | report =>
    simp only [Limbo.act, Limbo.reportMetrics, Outcome.mapState, View.limbo, view.ledger_map]
    rfl

/-- All activities look the same. -/
theorem acts (limbo : Limbo S) (activities : List Limbo.Activity) :
    (limbo.acts activities).mapState view.limbo = (view.limbo limbo).acts activities := by
  induction activities generalizing limbo with
  | nil => rfl
  | cons activity activities ih =>
    rw [Limbo.acts, Limbo.acts, ← view.act hfail, Outcome.state_mapState, ← ih]
    rfl

end View

namespace Limbo

/-- A limbo over a store in memory that was recovered from the replay of the store, and what it may
become. -/
inductive Reachable : Limbo MemoryStore → Prop where
  /-- Recovery succeeded. No record is too long for memory. -/
  | recovered {store : MemoryStore} (hids : store.IdsBelowNext)
      (hlengths : ∀ (id : SlotId) (data : Bytes), store.records[id]? = some data →
        data.length < 2 ^ 63)
      (hok : (recover store store.replay).value = .ok ()) :
      Reachable (recover store store.replay).state
  /-- Metrics are enabled. -/
  | metered {limbo : Limbo MemoryStore} (h : Reachable limbo) (ledger : Metrics.Ledger) :
      Reachable (limbo.withMetrics ledger)
  /-- Something happens. -/
  | act {limbo : Limbo MemoryStore} {activity : Activity} (h : Reachable limbo)
      (hfits : activity.Fits Sidecar.Encodable) : Reachable (limbo.act activity).state

/-- Some refused deletions account for the records a limbo over a store in memory does not track. -/
def Tended (limbo : Limbo MemoryStore) : Prop :=
  ∃ watched : Limbo (Watched MemoryStore), watched.erase = limbo ∧
    InOrder Sidecar.Encodable watched.store watched.index

/-- Whatever happens to a limbo over a watched store keeps it in order. -/
theorem InOrder.act {limbo : Limbo (Watched MemoryStore)}
    (h : InOrder Sidecar.Encodable limbo.store limbo.index) {activity : Activity}
    (hfits : activity.Fits Sidecar.Encodable) :
    InOrder Sidecar.Encodable (limbo.act activity).state.store
      (limbo.act activity).state.index := by
  cases activity with
  | meet incident =>
    have hmet := h.meet hfits
    cases incident with
    | call call => exact hmet
    | failNext operation times => exact hmet
  | report => exact h

/-- A reachable limbo is tended. -/
theorem Reachable.tended {limbo : Limbo MemoryStore} (h : Reachable limbo) : limbo.Tended := by
  induction h with
  | recovered hids hlengths hok => exact ⟨_, rfl, inOrder_watch_recover hids hlengths hok⟩
  | metered h ledger ih =>
    obtain ⟨watched, rfl, horder⟩ := ih
    exact ⟨watched.withMetrics ledger, rfl, horder⟩
  | @act _ activity h hfits ih =>
    obtain ⟨watched, rfl, horder⟩ := ih
    have herase := (Watched.view MemoryStore).act (fun _ _ _ => rfl) watched activity
    exact ⟨(watched.act activity).state, congrArg Outcome.state herase, horder.act hfits⟩

/-- What a reachable limbo becomes is reachable. -/
theorem Reachable.acts {limbo : Limbo MemoryStore} (h : Reachable limbo)
    {activities : List Activity}
    (hfits : ∀ activity ∈ activities, activity.Fits Sidecar.Encodable) :
    Reachable (limbo.acts activities).state := by
  induction activities generalizing limbo with
  | nil => exact h
  | cons activity activities ih =>
    rw [List.forall_mem_cons] at hfits
    exact ih (h.act hfits.1) hfits.2

/-- The index of a reachable limbo accounts for the records of its store. -/
theorem Reachable.accounted {limbo : Limbo MemoryStore} (h : Reachable limbo) :
    LawfulStore.Sound limbo.store ∧
      ∃ stranded, Accounted limbo.index (LawfulStore.live limbo.store) stranded := by
  obtain ⟨watched, rfl, horder⟩ := h.tended
  exact ⟨horder.sound, _, horder.accounted⟩

end Limbo

end BlobLimbo
