import BlobLimbo.Proofs.Limbo.Faults
import BlobLimbo.Proofs.Limbo.FirstEntries
import BlobLimbo.Proofs.Limbo.Refinement

/-!
# Restarts after refused deletions

A deletion that fails leaves a record behind which the index has forgotten. When its transaction is
pushed again, the store has two entries of it, and a restart keeps the one with the lower id: the
stale one (`restart_replaces_stale`). A transaction without such a record is tracked after a restart
as it was before (`restart_resumes`).
-/

namespace BlobLimbo

open Std LawfulStore

/-- The store when no failure is pending any more. -/
def MemoryStore.calmed (store : MemoryStore) : MemoryStore :=
  { store with pending := {} }

/-- A store in memory replays its records in the order of their ids. -/
theorem MemoryStore.sorted_replay (store : MemoryStore) :
    store.replay.Pairwise fun a b => a.1 < b.1 :=
  ExtTreeMap.ordered_keys_toList.imp fun hlt => Nat.compare_eq_lt.mp hlt

namespace Limbo

variable {limbo before after : Limbo MemoryStore} {tx : TxHash}

/-- Below the slot a transaction is tracked in there is an entry of it that could not be deleted. -/
def Shadowed (limbo : Limbo MemoryStore) (refused : List SlotId) (tx : TxHash) : Prop :=
  ∃ id, limbo.index.slotOf tx = some id ∧ ∃ stale ∈ refused, stale < id ∧
    ∃ entry, EntryAt (live limbo.store) stale entry ∧ entry.owner = tx

/-- The limbo when no failure of its store is pending any more. -/
def calmed (limbo : Limbo MemoryStore) : Limbo MemoryStore :=
  limbo.withStore limbo.store.calmed

/-- A restart of a limbo over a store in memory: it is recovered from what the store replays, and
nothing fails any more. -/
def restart (limbo : Limbo MemoryStore) : Outcome (Limbo MemoryStore) (Except LimboError Unit) :=
  recover limbo.store.calmed limbo.store.calmed.replay

/-- A transaction is tracked under the same block as before, and a pull gives the same result. -/
def Keeps (before after : Limbo MemoryStore) (tx : TxHash) : Prop :=
  after.trackedBlock tx = before.trackedBlock tx ∧
    (pull tx after).value = (pull tx before.calmed).value

/-- What a restart makes of a transaction that was tracked: it is kept, unless an entry that could
not be deleted comes before its own. Then such an entry takes its place. -/
structure Resumes (before after : Limbo MemoryStore) (refused : List SlotId) (tx : TxHash) :
    Prop where
  tracked : after.contains tx = true
  kept : ¬Shadowed before refused tx → Keeps before after tx
  replaced : Shadowed before refused tx → ∃ stale ∈ refused, ∃ block sidecar,
    EntryAt (live before.store) stale ⟨tx, block, sidecar⟩ ∧
      after.trackedBlock tx = some block ∧ (pull tx after).value = .ok sidecar

/-- A restart succeeds, and the first entry of each owner is tracked again. -/
theorem restart_spec (hids : limbo.store.IdsBelowNext) :
    (restart limbo).value = .ok () ∧
      ∀ (id : SlotId) (tx : TxHash) (block : UInt64) (sidecar : Sidecar),
        FirstAt (live limbo.store) id ⟨tx, block, sidecar⟩ →
          HeldIn (restart limbo).state id tx block sidecar ∧
            (pull tx (restart limbo).state).value = .ok sidecar := by
  have hsound : Sound limbo.store.calmed := hids
  obtain ⟨hok, hsound', hcalm, haccounted, hkeeps⟩ :=
    recover_of_calm hsound rfl (lists_replay limbo.store.calmed) (MemoryStore.sorted_replay _)
  refine ⟨hok, fun id tx block sidecar hfirst => ?_⟩
  have hheld := heldIn_of_entryAt haccounted (hfirst.entryAt.congr (hkeeps.kept id _ hfirst))
    List.not_mem_nil
  exact ⟨hheld, pull_of_calm hsound' hcalm hheld.slot hheld.entryAt⟩

/-- A restart resumes every transaction that is tracked. -/
theorem resumes_restart {refused : List SlotId} (hids : limbo.store.IdsBelowNext)
    (haccounted : Accounted limbo.index (live limbo.store) refused)
    (htracked : limbo.contains tx = true) : Resumes limbo (restart limbo).state refused tx := by
  obtain ⟨id, block, sidecar, hheld⟩ := exists_heldIn haccounted htracked
  obtain ⟨first, ⟨_, block', sidecar'⟩, hfirst, rfl, hle⟩ :=
    FirstAt.exists_of_entryAt hheld.entryAt
  obtain ⟨hheld', hpull⟩ := (restart_spec hids).2 _ _ _ _ hfirst
  refine ⟨hheld'.contains, fun hshadow => ?_, fun hshadow => ?_⟩
  · have hsame : first = id := by
      by_contra hne
      have hlt : first < id := Nat.lt_of_le_of_ne hle hne
      exact hshadow ⟨id, hheld.slot, first, hheld.stranded_of_lt haccounted hlt hfirst.entryAt rfl,
        hlt, _, hfirst.entryAt, rfl⟩
    subst hsame
    obtain ⟨rfl, rfl⟩ : block = block' ∧ sidecar = sidecar' := by
      simpa using hfirst.entryAt.unique hheld.entryAt
    have hcalmed : Sound limbo.calmed.store := hids
    exact ⟨hheld'.tracked.trans hheld.tracked.symm,
      hpull.trans (pull_of_calm hcalmed rfl hheld.slot hheld.entryAt).symm⟩
  · obtain ⟨id', hslot, stale, -, hlt, entry, hentry, howner⟩ := hshadow
    obtain rfl : id = id' := Option.some.inj (hheld.slot.symm.trans hslot)
    have hne : first ≠ id := by
      rintro rfl
      exact hfirst.first stale entry hlt hentry howner
    exact ⟨first, hheld.stranded_of_lt haccounted (Nat.lt_of_le_of_ne hle hne) hfirst.entryAt rfl,
      block', sidecar', hfirst.entryAt, hheld'.tracked, hpull⟩

/-- **Restarting after failures.** Take any store in memory whose records are of a length that
memory can hold, recover a limbo from its replay, and let the limbo undergo any calls with any
failures between them. A restart in which nothing fails succeeds, and resumes every transaction
that was tracked: under the same block and with the same sidecar, unless a deletion that failed on
the way left an entry of it behind below its slot. -/
theorem restart_resumes (store : MemoryStore) (hids : store.IdsBelowNext)
    (hlengths : ∀ (id : SlotId) (data : Bytes), store.records[id]? = some data →
      data.length < 2 ^ 63)
    (hok : (recover store store.replay).value = .ok ()) (incidents : List Incident)
    (hincidents : ∀ incident ∈ incidents, incident.Fits Sidecar.Encodable) :
    let recovered := (recover store store.replay).state
    let before := recovered.undergo incidents
    (restart before).value = .ok () ∧ ∀ tx, before.contains tx = true →
      Resumes before (restart before).state (recovered.refusedDeletions incidents) tx := by
  intro recovered before
  have horder := (inOrder_watch_recover hids hlengths hok).undergo hincidents
  have herase : (recovered.watch.undergo incidents).erase = before :=
    erase_undergo recovered.watch incidents
  have hsound : before.store.IdsBelowNext := by
    rw [← herase]
    exact horder.sound
  have haccounted : Accounted before.index (live before.store)
      (recovered.refusedDeletions incidents) := by
    rw [← herase]
    exact horder.accounted
  exact ⟨(restart_spec hsound).1, fun tx htracked => resumes_restart hsound haccounted htracked⟩

/-- A transaction that is pushed under block `5`, pulled while deletions fail, and pushed again
under block `9`: a restart brings back what was pushed first, with its sidecar. -/
theorem restart_replaces_stale :
    let tx : TxHash := .replicate 32 7
    let incidents : List Incident :=
      [.call (.push tx 5 ⟨[], [], []⟩), .failNext .delete 1, .call (.pull tx),
        .call (.push tx 9 ⟨[], [.replicate _ 1], []⟩)]
    let before := (recover MemoryStore.empty MemoryStore.empty.replay).state.undergo incidents
    (restart before).value = .ok () ∧ before.trackedBlock tx = some 9 ∧
      (restart before).state.trackedBlock tx = some 5 ∧
      (pull tx before.calmed).value = .ok ⟨[], [.replicate _ 1], []⟩ ∧
      (pull tx (restart before).state).value = .ok ⟨[], [], []⟩ ∧
      ¬Keeps before (restart before).state tx := by
  intro tx incidents before
  have htracked : before.trackedBlock tx = some 9 := by decide +kernel
  have hstale : (restart before).state.trackedBlock tx = some 5 := by decide +kernel
  refine ⟨by decide +kernel, htracked, hstale, by decide +kernel, by decide +kernel, ?_⟩
  intro hkeeps
  rw [Keeps, htracked, hstale] at hkeeps
  exact absurd hkeeps.1 (by decide)

/-- A transaction is kept although a deletion left an entry of another one behind. -/
theorem restart_resumes_unshadowed :
    let tx : TxHash := .replicate 32 7
    let other : TxHash := .replicate 32 8
    let incidents : List Incident :=
      [.call (.push other 5 ⟨[], [], []⟩), .failNext .delete 1, .call (.pull other),
        .call (.push tx 6 ⟨[], [], []⟩)]
    let recovered := (recover MemoryStore.empty MemoryStore.empty.replay).state
    let before := recovered.undergo incidents
    recovered.refusedDeletions incidents = [0] ∧ (restart before).value = .ok () ∧
      Keeps before (restart before).state tx := by
  intro tx other incidents recovered before
  have hsidecar : (⟨[], [], []⟩ : Sidecar).Encodable :=
    (⟨Nat.le_refl 0, rfl, rfl⟩ : (⟨[], [], []⟩ : Sidecar).OfAtMost 0).encodable (Nat.zero_le _)
  have hincidents : ∀ incident ∈ incidents, incident.Fits Sidecar.Encodable := by
    simp [incidents, Incident.Fits, Call.Fits, hsidecar]
  obtain ⟨hok, hresumes⟩ := restart_resumes MemoryStore.empty
    (MemoryStore.idsBelowNext_ofRecords []) (by simp [MemoryStore.empty]) rfl incidents hincidents
  have hrefused : recovered.refusedDeletions incidents = [0] := by decide +kernel
  have hrecord : before.store.records[0]? = some (Entry.encode ⟨other, 5, ⟨[], [], []⟩⟩) := by
    decide +kernel
  have hleft : EntryAt (live before.store) 0 ⟨other, 5, ⟨[], [], []⟩⟩ :=
    ⟨_, hrecord, Entry.decode_encode hsidecar⟩
  have hshadow : ¬Shadowed before (recovered.refusedDeletions incidents) tx := by
    rintro ⟨id, -, stale, hstale, -, entry, hentry, howner⟩
    rw [hrefused, List.mem_singleton] at hstale
    subst hstale
    rw [hleft.unique hentry] at howner
    exact absurd howner (by decide)
  exact ⟨hrefused, hok, (hresumes tx (by decide +kernel)).kept hshadow⟩

end Limbo

end BlobLimbo
