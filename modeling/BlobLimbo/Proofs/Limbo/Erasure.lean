import BlobLimbo.Proofs.Limbo.Run
import BlobLimbo.Proofs.Store.Watched

/-!
# Views of a limbo

No operation looks at the ledger, and none looks at what is noted beside a store. So a limbo does
the same when these are left out: a call over a watched store is the call over the store itself
(`erase_perform`), and a call with metrics is the call without them (`View.silent`).
-/

namespace BlobLimbo

/-- Two actions do the same, once part of the state of the first is left out. -/
def Erases {ε σ τ α : Type} (erase : σ → τ) (action : Action ε σ α) (plain : Action ε τ α) : Prop :=
  ∀ state : σ, (action state).mapState erase = plain (erase state)

namespace Erases

variable {ε σ τ α β : Type} {erase : σ → τ}

theorem fail (error : ε) :
    Erases erase (Action.fail error : Action ε σ α) (Action.fail error) := fun _ => rfl

theorem pure (value : α) :
    Erases erase (pure value : Action ε σ α) (Pure.pure value) := fun _ => rfl

theorem report (event : Event) :
    Erases erase (Action.report event : Action ε σ Unit) (Action.report event) := fun _ => rfl

theorem ofExcept (result : Except ε α) :
    Erases erase (Action.ofExcept result : Action ε σ α) (Action.ofExcept result) := fun _ => rfl

theorem modify {f : σ → σ} {f' : τ → τ} (h : ∀ state, erase (f state) = f' (erase state)) :
    Erases erase (Action.modify f : Action ε σ Unit) (Action.modify f') := by
  intro state
  simp [Outcome.mapState, h]

/-- Chains of actions are erased step by step. -/
theorem bind {first : Action ε σ α} {first' : Action ε τ α} {second : α → Action ε σ β}
    {second' : α → Action ε τ β} (hfirst : Erases erase first first')
    (hsecond : ∀ value, Erases erase (second value) (second' value)) :
    Erases erase (first >>= second) (first' >>= second') := by
  intro state
  have hvalue : (first' (erase state)).value = (first state).value := by
    rw [← hfirst state, Outcome.value_mapState]
  have hstate : (first' (erase state)).state = erase (first state).state := by
    rw [← hfirst state, Outcome.state_mapState]
  have hevents : (first' (erase state)).events = (first state).events := by
    rw [← hfirst state, Outcome.events_mapState]
  cases hresult : (first state).value with
  | error error =>
    rw [Action.bind_of_error hresult, Action.bind_of_error (hvalue.trans hresult), hstate, hevents]
    rfl
  | ok value =>
    rw [Action.bind_of_ok hresult, Action.bind_of_ok (hvalue.trans hresult), hstate, hevents,
      ← hsecond value]
    rfl

/-- A chain that looks at the state first is erased at that state. -/
theorem current {next : σ → Action ε σ α} {next' : τ → Action ε τ α}
    (h : ∀ state, (next state state).mapState erase = next' (erase state) (erase state)) :
    Erases erase (Action.current >>= next) (Action.current >>= next') := by
  intro state
  rw [Action.bind_of_ok rfl, Action.bind_of_ok rfl]
  simp only [Action.current_apply, ← h state]
  rfl

theorem reportFailure (describe : ε → Event) {action : Action ε σ α} {plain : Action ε τ α}
    (h : Erases erase action plain) :
    Erases erase (action.reportFailure describe) (plain.reportFailure describe) := by
  intro state
  unfold Action.reportFailure
  rw [← h state]
  cases action state with
  | mk result left events => cases result <;> rfl

end Erases

/-- A view of a store, and of a ledger, under which everything a limbo does looks the same. -/
structure View (S T : Type) [SlotStore S] [SlotStore T] where
  /-- What is seen of the store. -/
  store : S → T
  /-- What is seen of the ledger. -/
  ledger : Option Metrics.Ledger → Option Metrics.Ledger
  /-- Records are kept in the same way. -/
  put : ∀ data, Erases store (SlotStore.put data : Action StoreError S SlotId) (SlotStore.put data)
  /-- Records are read in the same way. -/
  get : ∀ id, Erases store (SlotStore.get id : Action StoreError S Bytes) (SlotStore.get id)
  /-- Records are given up in the same way. -/
  delete : ∀ id, Erases store (SlotStore.delete id : Action StoreError S Unit) (SlotStore.delete id)
  /-- What is written into the ledger is written into what is seen of it. -/
  ledger_map : ∀ write recorded, ledger (recorded.map write) = (ledger recorded).map write

namespace View

open Limbo

variable {S T : Type} [SlotStore S] [SlotStore T] (view : View S T)

/-- What is seen of a limbo. -/
def limbo (limbo : Limbo S) : Limbo T :=
  { store := view.store limbo.store, index := limbo.index, ledger := view.ledger limbo.ledger }

/-- An operation on the store looks the same when the store is all it changes. -/
theorem onStore {α : Type} {action : Action StoreError S α} {plain : Action StoreError T α}
    (h : Erases view.store action plain) :
    Erases view.limbo (onStore action) (onStore plain) := by
  intro limbo
  unfold Limbo.onStore Action.within Action.mapError
  change _ = Outcome.mapState _ (Outcome.map _ (plain (view.store limbo.store)))
  rw [← h limbo.store]
  rfl

/-- Recording a call looks the same if the call does. -/
theorem observed {α : Type} (method : Metrics.Method) {action : Action LimboError (Limbo S) α}
    {plain : Action LimboError (Limbo T) α} (h : Erases view.limbo action plain) :
    Erases view.limbo (observed method action) (observed method plain) := by
  intro limbo
  unfold Limbo.observed
  dsimp only
  rw [← h limbo]
  simp only [Outcome.mapState, View.limbo, view.ledger_map]

theorem take (id : SlotId) : Erases view.limbo (take id) (take id) := by
  refine (view.onStore (view.get id)).bind fun data => ?_
  refine (Erases.ofExcept _).bind fun entry => ?_
  refine Erases.bind (Erases.modify fun limbo => ?_) fun _ => ?_
  · rfl
  exact (view.onStore (view.delete id)).bind fun _ => Erases.pure entry

theorem insert (entry : Entry) : Erases view.limbo (insert entry) (insert entry) := by
  refine (view.onStore (view.put _)).bind fun id => ?_
  refine Erases.current fun limbo => ?_
  have hindex : (view.limbo limbo).index = limbo.index := rfl
  rw [hindex]
  cases limbo.index.insert? entry.owner entry.block id with
  | some next => rfl
  | none => exact ((view.onStore (view.delete id)).bind fun _ => Erases.fail _) limbo

theorem push (tx : TxHash) (block : UInt64) (sidecar : Sidecar) :
    Erases view.limbo (push tx block sidecar) (push tx block sidecar) := by
  refine view.observed _ (Erases.current fun limbo => ?_)
  have hcontains : (view.limbo limbo).contains tx = limbo.contains tx := rfl
  rw [hcontains]
  cases limbo.contains tx with
  | true => rfl
  | false => exact (view.insert _).reportFailure _ limbo

theorem pull (tx : TxHash) : Erases view.limbo (pull tx) (pull tx) := by
  refine view.observed _ (Erases.current fun limbo => ?_)
  have hindex : (view.limbo limbo).index = limbo.index := rfl
  rw [hindex]
  cases limbo.index.slotOf tx with
  | none => rfl
  | some id =>
    exact (((view.take id).reportFailure _).bind fun entry => Erases.pure entry.sidecar) limbo

theorem update (tx : TxHash) (block : UInt64) :
    Erases view.limbo (update tx block) (update tx block) := by
  refine view.observed _ (Erases.current fun limbo => ?_)
  have hindex : (view.limbo limbo).index = limbo.index := rfl
  rw [hindex]
  cases limbo.index.slotOf tx with
  | none => rfl
  | some id =>
    dsimp only
    split
    · rfl
    · refine (((view.take id).reportFailure _).bind fun entry => ?_) limbo
      refine ((view.insert _).reportFailure _).bind fun _ => ?_
      exact (Erases.report _).bind fun _ => Erases.pure _

theorem deleteEvicted (store : S) (evicted : List Evicted) :
    (deleteEvicted store evicted).mapState view.store =
      Limbo.deleteEvicted (view.store store) evicted := by
  induction evicted generalizing store with
  | nil => rfl
  | cons slot evicted ih =>
    have hdelete := view.delete slot.id store
    cases hresult : (SlotStore.delete slot.id store).value with
    | ok value =>
      have hplain : (SlotStore.delete slot.id (view.store store)).value = .ok () := by
        rw [← hdelete, Outcome.value_mapState, hresult]
      rw [deleteEvicted_cons_of_ok hresult, deleteEvicted_cons_of_ok hplain, ← hdelete,
        Outcome.state_mapState, ← ih]
      rfl
    | error cause =>
      have hplain : (SlotStore.delete slot.id (view.store store)).value = .error cause := by
        rw [← hdelete, Outcome.value_mapState, hresult]
      rw [deleteEvicted_cons_of_error hresult, deleteEvicted_cons_of_error hplain, ← hdelete,
        Outcome.state_mapState, ← ih]
      rfl

theorem finalize (finalized : Option UInt64) (limbo : Limbo S) :
    (finalize finalized limbo).mapState view.limbo =
      Limbo.finalize finalized (view.limbo limbo) := by
  cases finalized with
  | none => rfl
  | some finalized =>
    have hswept : Limbo.deleteEvicted (view.limbo limbo).store
          ((view.limbo limbo).index.splitFinalized finalized).1 =
        (Limbo.deleteEvicted limbo.store (limbo.index.splitFinalized finalized).1).mapState
          view.store := (view.deleteEvicted _ _).symm
    unfold Limbo.finalize
    dsimp only
    rw [hswept]
    simp only [Outcome.mapState, View.limbo, view.ledger_map]

/-- Every call looks the same. -/
theorem perform (limbo : Limbo S) (call : Call) :
    (limbo.perform call).mapState view.limbo = (view.limbo limbo).perform call := by
  cases call with
  | push tx block sidecar => rw [Limbo.perform, Limbo.perform, ← view.push]; rfl
  | pull tx => rw [Limbo.perform, Limbo.perform, ← view.pull]; rfl
  | update tx block => rw [Limbo.perform, Limbo.perform, ← view.update]; rfl
  | finalize finalized => rw [Limbo.perform, Limbo.perform, ← view.finalize]; rfl

end View

/-- A view of a store that leaves the ledger as it is. -/
def View.ofStore {S T : Type} [SlotStore S] [SlotStore T] (store : S → T)
    (put : ∀ data, Erases store (SlotStore.put data : Action StoreError S SlotId)
      (SlotStore.put data))
    (get : ∀ id, Erases store (SlotStore.get id : Action StoreError S Bytes) (SlotStore.get id))
    (delete : ∀ id, Erases store (SlotStore.delete id : Action StoreError S Unit)
      (SlotStore.delete id)) : View S T where
  store := store
  ledger := id
  put := put
  get := get
  delete := delete
  ledger_map _ _ := rfl

/-- A watched store seen as the store itself. -/
def Watched.view (S : Type) [SlotStore S] : View (Watched S) S :=
  .ofStore Watched.store (fun _ _ => rfl) (fun _ _ => rfl) fun _ _ => rfl

/-- A limbo seen without its ledger. -/
def View.silent (S : Type) [SlotStore S] : View S S where
  store := id
  ledger _ := none
  put _ _ := rfl
  get _ _ := rfl
  delete _ _ := rfl
  ledger_map _ _ := rfl

namespace Limbo

variable {S : Type}

/-- The limbo over the store itself. -/
def erase (limbo : Limbo (Watched S)) : Limbo S :=
  { store := limbo.store.store, index := limbo.index, ledger := limbo.ledger }

/-- Every call does the same over the store itself. -/
theorem erase_perform [SlotStore S] (limbo : Limbo (Watched S)) (call : Call) :
    (limbo.perform call).mapState erase = limbo.erase.perform call :=
  (Watched.view S).perform limbo call

end Limbo

end BlobLimbo
