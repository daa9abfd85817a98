import BlobLimbo.Proofs.Limbo.Erasure
import BlobLimbo.Proofs.Limbo.Recovery
import BlobLimbo.Proofs.Store.Memory

/-!
# A limbo under failures

A limbo over a store in memory, recovered from whatever the store held, goes through calls and
through orders to let operations of the store fail. However these alternate, the index stays
consistent, all it names is stored as it says, and the records it does not know are exactly those
whose deletion failed on the way (`undergo_invariants`).
-/

namespace BlobLimbo

open Std

/-- What holds of an index, the records of its store, and the ids whose deletion was refused. -/
structure Invariants (index : Index) (records : ExtTreeMap SlotId Bytes) (refused : List SlotId) :
    Prop where
  /-- The three maps of the index agree, and no group is empty. -/
  consistent : index.Consistent
  /-- No slot is in two groups. -/
  one_group : ∀ (id : SlotId) (block block' : UInt64), Index.InGroup index.groups block id →
    Index.InGroup index.groups block' id → block = block'
  /-- Whatever the index names is a record of the owner and block the index has for it. -/
  stored : ∀ id : SlotId, index.Names id → ∃ tracked sidecar data,
    index.slots[id]? = some tracked ∧ records[id]? = some data ∧
      Entry.decode data = .ok ⟨tracked.owner, tracked.block, sidecar⟩
  /-- No two slots have the same owner. -/
  one_slot : ∀ (id id' : SlotId) (tracked tracked' : Tracked), index.slots[id]? = some tracked →
    index.slots[id']? = some tracked' → tracked.owner = tracked'.owner → id = id'
  /-- The records the index does not name are those whose deletion was refused. -/
  untracked_iff : ∀ id : SlotId, records[id]? ≠ none → (¬index.Names id ↔ id ∈ refused)

/-- An index that accounts for the records but the refused ones has these properties. -/
theorem Accounted.invariants {index : Index} {records : ExtTreeMap SlotId Bytes}
    {refused : List SlotId} (h : Accounted index (fun id => records[id]?) refused) :
    Invariants index records refused where
  consistent := h.consistent
  one_group id block block' hgroup hgroup' := by
    obtain ⟨owner, hslot⟩ := (h.consistent.group_iff block id).mp hgroup
    obtain ⟨owner', hslot'⟩ := (h.consistent.group_iff block' id).mp hgroup'
    rw [hslot] at hslot'
    simp only [Option.some.injEq, Tracked.mk.injEq] at hslot'
    exact hslot'.2
  stored id hnames := by
    obtain ⟨tracked, hslot⟩ :=
      Option.ne_none_iff_exists'.mp (h.consistent.grounded.names_iff.mp hnames)
    obtain ⟨sidecar, data, hdata, hdecode⟩ := h.stored id tracked hslot
    exact ⟨tracked, sidecar, data, hslot, hdata, hdecode⟩
  one_slot id id' tracked tracked' hslot hslot' howner := by
    obtain ⟨owner, block⟩ := tracked
    obtain ⟨owner', block'⟩ := tracked'
    dsimp only at howner
    subst howner
    exact (h.consistent.slot_unique hslot hslot').symm
  untracked_iff id hrecord := by
    rw [h.consistent.grounded.names_iff, ne_eq, not_not, h.stranded_iff, and_iff_right hrecord]

/-- A store whose operations can be told to fail. -/
class FallibleStore (S : Type) extends SlotStore S where
  /-- Lets the next further calls of an operation fail. -/
  failNext : S → StoreOperation → UInt64 → S

instance : FallibleStore MemoryStore where
  failNext := MemoryStore.failNext

instance {S : Type} [FallibleStore S] : FallibleStore (Watched S) where
  failNext watched operation times :=
    watched.withStore (FallibleStore.failNext watched.store operation times)

namespace Limbo

/-- What happens to a limbo. -/
inductive Incident where
  /-- It is called. -/
  | call (call : Call)
  /-- The next calls of an operation of its store are to fail. -/
  | failNext (operation : StoreOperation) (times : UInt64)

/-- Every sidecar that is pushed is of the given kind. -/
def Incident.Fits (fits : Sidecar → Prop) : Incident → Prop
  | .call made => made.Fits fits
  | .failNext _ _ => True

section Undergo

variable {S : Type} [FallibleStore S]

/-- What an incident makes of a limbo. -/
def meet (limbo : Limbo S) : Incident → Limbo S
  | .call call => (limbo.perform call).state
  | .failNext operation times =>
    limbo.withStore (FallibleStore.failNext limbo.store operation times)

/-- What some incidents make of a limbo, one after the other. -/
def undergo (limbo : Limbo S) (incidents : List Incident) : Limbo S :=
  incidents.foldl meet limbo

/-- The limbo with its store watched from now on. -/
def watch (limbo : Limbo S) : Limbo (Watched S) :=
  { store := { store := limbo.store }, index := limbo.index, ledger := limbo.ledger }

/-- The ids whose deletion failed while a limbo underwent some incidents. -/
def refusedDeletions (limbo : Limbo S) (incidents : List Incident) : List SlotId :=
  (limbo.watch.undergo incidents).store.refused

/-- Watching does not change what incidents do. -/
theorem erase_undergo (limbo : Limbo (Watched S)) (incidents : List Incident) :
    (limbo.undergo incidents).erase = limbo.erase.undergo incidents := by
  induction incidents generalizing limbo with
  | nil => rfl
  | cons incident incidents ih =>
    have hstep : (limbo.meet incident).erase = limbo.erase.meet incident := by
      cases incident with
      | call call => exact congrArg Outcome.state (erase_perform limbo call)
      | failNext operation times => rfl
    rw [undergo, undergo, List.foldl_cons, List.foldl_cons, ← hstep]
    exact ih (limbo.meet incident)

end Undergo

/-- A store in memory reads back every entry it accepts whose sidecar is short enough. -/
theorem readable_watched : Readable (Watched MemoryStore) Sidecar.Encodable :=
  fun _ hsidecar _ => hsidecar _ _

/-- Every incident keeps a limbo over a store in memory in order. -/
theorem InOrder.meet {limbo : Limbo (Watched MemoryStore)}
    (h : InOrder Sidecar.Encodable limbo.store limbo.index) {incident : Incident}
    (hincident : incident.Fits Sidecar.Encodable) :
    InOrder Sidecar.Encodable (limbo.meet incident).store (limbo.meet incident).index := by
  cases incident with
  | call call => exact h.perform readable_watched hincident
  | failNext operation times => exact ⟨h.sound, h.accounted, h.fitting⟩

/-- All incidents keep a limbo over a store in memory in order. -/
theorem InOrder.undergo {limbo : Limbo (Watched MemoryStore)}
    (h : InOrder Sidecar.Encodable limbo.store limbo.index) {incidents : List Incident}
    (hincidents : ∀ incident ∈ incidents, incident.Fits Sidecar.Encodable) :
    InOrder Sidecar.Encodable (limbo.undergo incidents).store (limbo.undergo incidents).index := by
  induction incidents generalizing limbo with
  | nil => exact h
  | cons incident incidents ih =>
    rw [List.forall_mem_cons] at hincidents
    exact ih (h.meet hincidents.1) hincidents.2

/-- The replay of a store in memory lists its records. -/
theorem lists_replay (store : MemoryStore) : Lists store store.replay where
  nodup := by
    rw [MemoryStore.replay, List.Nodup, List.pairwise_map]
    exact ExtTreeMap.distinct_keys_toList.imp fun hne heq => hne (by rw [heq]; exact compare_self)
  mem_iff id data := ExtTreeMap.mem_toList_iff_getElem?_eq_some

/-- A limbo recovered from a store in memory is in order. -/
theorem inOrder_watch_recover {store : MemoryStore} (hids : store.IdsBelowNext)
    (hlengths : ∀ (id : SlotId) (data : Bytes), store.records[id]? = some data →
      data.length < 2 ^ 63)
    (hok : (recover store store.replay).value = .ok ()) :
    InOrder Sidecar.Encodable (recover store store.replay).state.watch.store
      (recover store store.replay).state.watch.index := by
  obtain ⟨hsound, haccounted, hold⟩ := recover_accounted hids (lists_replay store) hok
  refine ⟨hsound, haccounted, ?_⟩
  rintro id entry ⟨data, hdata, hdecode⟩
  exact Entry.encodable_of_decode (hlengths id data (hold id data hdata)) hdecode

/-- After any incidents the index of a recovered limbo accounts for every record but those whose
deletion failed on the way. -/
theorem accounted_undergo {store : MemoryStore} (hids : store.IdsBelowNext)
    (hlengths : ∀ (id : SlotId) (data : Bytes), store.records[id]? = some data →
      data.length < 2 ^ 63)
    (hok : (recover store store.replay).value = .ok ()) {incidents : List Incident}
    (hincidents : ∀ incident ∈ incidents, incident.Fits Sidecar.Encodable) :
    let recovered := (recover store store.replay).state
    LawfulStore.Sound (recovered.undergo incidents).store ∧
      Accounted (recovered.undergo incidents).index
        (LawfulStore.live (recovered.undergo incidents).store)
        (recovered.refusedDeletions incidents) := by
  intro recovered
  have horder := (inOrder_watch_recover hids hlengths hok).undergo hincidents
  have herase : (recovered.watch.undergo incidents).erase = recovered.undergo incidents :=
    erase_undergo recovered.watch incidents
  rw [← herase]
  exact ⟨horder.sound, horder.accounted⟩

/-- **Consistency under failures.** Take any store in memory whose records are of a length that
memory can hold, recover a limbo from its replay, and let the limbo undergo any calls with any
failures between them. Then the index is consistent, what it names is stored as it says, no owner
has two slots, and the records it does not name are those whose deletion failed. The failed
deletions are read off the same run over the watched store. -/
theorem undergo_invariants (store : MemoryStore) (hids : store.IdsBelowNext)
    (hlengths : ∀ (id : SlotId) (data : Bytes), store.records[id]? = some data →
      data.length < 2 ^ 63)
    (hok : (recover store store.replay).value = .ok ()) (incidents : List Incident)
    (hincidents : ∀ incident ∈ incidents, incident.Fits Sidecar.Encodable) :
    let recovered := (recover store store.replay).state
    (recovered.watch.undergo incidents).erase = recovered.undergo incidents ∧
      Invariants (recovered.undergo incidents).index (recovered.undergo incidents).store.records
        (recovered.refusedDeletions incidents) := by
  intro recovered
  have herase : (recovered.watch.undergo incidents).erase = recovered.undergo incidents :=
    erase_undergo recovered.watch incidents
  refine ⟨herase, ?_⟩
  rw [← herase]
  exact ((inOrder_watch_recover hids hlengths hok).undergo hincidents).accounted.invariants

/-- A pull whose deletion fails leaves one refused record behind. -/
theorem undergo_invariants_refused_pull :
    let store := MemoryStore.ofRecords [[0x80]]
    let tx : TxHash := .replicate 32 7
    let incidents : List Incident :=
      [.call (.push tx 5 ⟨[], [], []⟩), .failNext .delete 1, .call (.pull tx)]
    let recovered := (recover store store.replay).state
    (recovered.undergo incidents).index.size = 0 ∧
      recovered.refusedDeletions incidents = [1] ∧
      Invariants (recovered.undergo incidents).index (recovered.undergo incidents).store.records
        (recovered.refusedDeletions incidents) := by
  have hlengths : ∀ (id : SlotId) (data : Bytes),
      (MemoryStore.ofRecords [[0x80]]).records[id]? = some data → data.length < 2 ^ 63 := by
    intro id data hdata
    have hmem := ExtTreeMap.mem_toList_iff_getElem?_eq_some.mpr hdata
    have hlist : (MemoryStore.ofRecords [[0x80]]).records.toList = [(0, [0x80])] := by
      decide +kernel
    rw [hlist, List.mem_singleton, Prod.mk.injEq] at hmem
    rw [hmem.2]
    decide
  have hempty : (⟨[], [], []⟩ : Sidecar).OfAtMost 0 := ⟨Nat.le_refl 0, rfl, rfl⟩
  have hsidecar := hempty.encodable (Nat.zero_le _)
  have hincidents : ∀ incident ∈ [Incident.call (.push (.replicate 32 7) 5 ⟨[], [], []⟩),
      .failNext .delete 1, .call (.pull (.replicate 32 7))], incident.Fits Sidecar.Encodable := by
    simp [Incident.Fits, Call.Fits, hsidecar]
  have h := undergo_invariants (MemoryStore.ofRecords [[0x80]])
    (MemoryStore.idsBelowNext_ofRecords _) hlengths rfl _ hincidents
  exact ⟨by decide +kernel, by decide +kernel, h.2⟩

end Limbo

end BlobLimbo
