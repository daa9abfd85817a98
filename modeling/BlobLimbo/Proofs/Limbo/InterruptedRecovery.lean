import BlobLimbo.Proofs.Limbo.StaleRecords
import BlobLimbo.Proofs.Store.Faltering

/-!
# Recovery that is interrupted

Recovery deletes the records that are left over one after the other, and stops at the first
deletion that fails. What it has deleted by then is part of what it would have deleted anyway, and
no such record is the first entry of an owner. So the first entries are the same in what remains
(`Thinned.firstAt_iff`), and however often recovery is interrupted and tried again, it ends with the
limbo that would have come of it at once (`recovery_converges`).
-/

namespace BlobLimbo

open Std LawfulStore

/-- A store in memory replays its records. -/
instance : ReplayableStore MemoryStore where
  replay := MemoryStore.replay
  mem_replay_iff _ := ExtTreeMap.mem_toList_iff_getElem?_eq_some
  sorted_replay _ := MemoryStore.sorted_replay _
  sound_close hsound := hsound
  live_close _ := rfl

/-- Some records are gone, but no first entry of an owner is, and no record is new. -/
structure Thinned (records left : SlotId → Option Bytes) : Prop where
  /-- First entries are kept. -/
  kept : ∀ (id : SlotId) (entry : Entry), FirstAt records id entry → left id = records id
  /-- What is there was there before. -/
  old : ∀ id : SlotId, left id = none ∨ left id = records id

namespace Thinned

variable {records left last : SlotId → Option Bytes} {id : SlotId} {entry : Entry}

/-- No record need be gone. -/
theorem refl (records : SlotId → Option Bytes) : Thinned records records :=
  ⟨fun _ _ _ => rfl, fun _ => Or.inr rfl⟩

/-- An entry that is there was there before. -/
theorem entryAt (h : Thinned records left) (hentry : EntryAt left id entry) :
    EntryAt records id entry := by
  obtain ⟨data, hdata, hdecode⟩ := hentry
  have hsame := (h.old id).resolve_left (by simp [hdata])
  exact ⟨data, hsame ▸ hdata, hdecode⟩

/-- **The first entries stay the same.** An entry that comes to be the first of its owner would have
lost the one before it, and that is the first or comes after the first. -/
theorem firstAt_iff (h : Thinned records left) :
    FirstAt left id entry ↔ FirstAt records id entry := by
  constructor
  · intro hfirst
    refine ⟨h.entryAt hfirst.entryAt, fun earlier other hlt hother howner => ?_⟩
    obtain ⟨lowest, another, hlowest, hanother, hle⟩ := FirstAt.exists_of_entryAt hother
    exact hfirst.first lowest another (Nat.lt_of_le_of_lt hle hlt)
      (hlowest.entryAt.congr (h.kept lowest another hlowest)) (hanother.trans howner)
  · intro hfirst
    exact ⟨hfirst.entryAt.congr (h.kept id entry hfirst),
      fun earlier other hlt hother => hfirst.first earlier other hlt (h.entryAt hother)⟩

/-- What is thinned twice is thinned. -/
theorem trans (h : Thinned records left) (h' : Thinned left last) : Thinned records last where
  kept id entry hfirst :=
    (h'.kept id entry (h.firstAt_iff.mpr hfirst)).trans (h.kept id entry hfirst)
  old id := by
    rcases h'.old id with hgone | hsame
    · exact Or.inl hgone
    · rw [hsame]
      exact h.old id

end Thinned

/-- The records that are left over, lowest id first: those that are not the first entry of their
owner. -/
structure LeftOver (records : SlotId → Option Bytes) (ids : List SlotId) : Prop where
  sorted : ids.Pairwise (· < ·)
  mem_iff : ∀ id : SlotId, id ∈ ids ↔ records id ≠ none ∧ ¬∃ entry, FirstAt records id entry

/-- The records that are left over are told by the records. -/
theorem LeftOver.unique {records : SlotId → Option Bytes} {ids ids' : List SlotId}
    (h : LeftOver records ids) (h' : LeftOver records ids') : ids = ids' := by
  have hnodup : ∀ {ids : List SlotId}, ids.Pairwise (· < ·) → ids.Nodup :=
    fun hsorted => hsorted.imp Nat.ne_of_lt
  have hperm : ids.Perm ids' := (List.perm_ext_iff_of_nodup (hnodup h.sorted)
    (hnodup h'.sorted)).mpr fun id => by rw [h.mem_iff, h'.mem_iff]
  exact hperm.eq_of_pairwise (fun _ _ _ _ hlt hgt => absurd hgt (Nat.lt_asymm hlt)) h.sorted
    h'.sorted

/-- Giving up records that are left over thins the records out. -/
theorem LeftOver.thinned {records : SlotId → Option Bytes} {ids gone : List SlotId}
    (h : LeftOver records ids) (hgone : ∀ id ∈ gone, id ∈ ids) :
    Thinned records fun id => if id ∈ gone then none else records id where
  kept id entry hfirst := if_neg fun hid => ((h.mem_iff id).mp (hgone id hid)).2 ⟨entry, hfirst⟩
  old id := by
    by_cases hid : id ∈ gone
    · exact Or.inl (if_pos hid)
    · exact Or.inr (if_neg hid)

namespace Limbo

variable {S : Type}

section Drop

variable [SlotStore S] {store : S} {gone rest : List SlotId} {id : SlotId} {cause : StoreError}

/-- A deletion fails after some others were made. -/
structure FailsAfter (store : S) (gone : List SlotId) (id : SlotId) (cause : StoreError) :
    Prop where
  /-- The others were made. -/
  deleted : (deleteAll gone store).value = .ok ()
  /-- It fails. -/
  refused : (SlotStore.delete id (deleteAll gone store).state).value = .error cause

/-- After a deletion is made the others follow. -/
theorem deleteAll_cons_of_ok (hdelete : (SlotStore.delete id store).value = .ok ())
    (rest : List SlotId) : deleteAll (id :: rest) store =
      (deleteAll rest (SlotStore.delete id store).state).after
        (SlotStore.delete id store).events :=
  Action.bind_of_ok hdelete

/-- Deletions are made until one fails. -/
theorem FailsAfter.deleteAll_eq (h : FailsAfter store gone id cause) (rest : List SlotId) :
    (deleteAll (gone ++ id :: rest) store).value = .error cause ∧
      (deleteAll (gone ++ id :: rest) store).state =
        (SlotStore.delete id (deleteAll gone store).state).state := by
  obtain ⟨hdeleted, hrefused⟩ := h
  induction gone generalizing store with
  | nil =>
    have hstops : deleteAll (id :: rest) store = _ := Action.bind_of_error hrefused
    rw [List.nil_append, hstops]
    exact ⟨rfl, rfl⟩
  | cons slot gone ih =>
    obtain ⟨⟨⟩, hdelete, hothers, -⟩ := Action.of_bind_eq_ok hdeleted
    rw [deleteAll_cons_of_ok hdelete] at hrefused
    rw [List.cons_append, deleteAll_cons_of_ok hdelete, deleteAll_cons_of_ok hdelete]
    exact ih hothers hrefused

/-- Some deletions are all made, or one of them fails. -/
theorem deleteAll_cases (store : S) (ids : List SlotId) :
    (deleteAll ids store).value = .ok () ∨
      ∃ gone id rest cause, ids = gone ++ id :: rest ∧ FailsAfter store gone id cause := by
  induction ids generalizing store with
  | nil => exact Or.inl rfl
  | cons slot ids ih =>
    cases hdelete : (SlotStore.delete slot store).value with
    | error cause => exact Or.inr ⟨[], slot, ids, cause, rfl, rfl, hdelete⟩
    | ok value =>
      rcases ih (SlotStore.delete slot store).state with hok | ⟨gone, id, rest, cause, rfl, hfails⟩
      · left
        rw [deleteAll_cons_of_ok hdelete]
        exact hok
      · refine Or.inr ⟨slot :: gone, id, rest, cause, rfl, ?_, ?_⟩
        · rw [deleteAll_cons_of_ok hdelete]
          exact hfails.deleted
        · rw [deleteAll_cons_of_ok hdelete]
          exact hfails.refused

/-- An action that fails leaves the store to be closed. -/
theorem state_closingOnFailure_of_error {action : Action StoreError S Unit}
    (herror : (action store).value = .error cause) :
    (closingOnFailure action store).state = (SlotStore.close (action store).state).state := by
  unfold closingOnFailure
  cases haction : action store with
  | mk result left events =>
    rw [haction] at herror
    cases herror
    exact Action.state_reportFailure _ _ left

/-- When a deletion fails the store is closed, and the failure is passed on. -/
theorem dropInvalid_of_error {ids : List SlotId}
    (herror : (deleteAll ids store).value = .error cause) :
    (dropInvalid ids store).value = .error cause ∧
      (dropInvalid ids store).state = (SlotStore.close (deleteAll ids store).state).state := by
  have hids : ids ≠ [] := by
    rintro rfl
    cases herror
  have hreport := Action.value_reportFailure (.limbo ∘ .dropFailed) (deleteAll ids) store
  rw [herror] at hreport
  unfold dropInvalid
  rw [if_pos hids, Action.bind_of_ok rfl]
  simp only [Outcome.value_after, Outcome.state_after, Action.report_apply]
  rw [value_closingOnFailure, state_closingOnFailure_of_error hreport,
    Action.state_reportFailure]
  exact ⟨hreport, rfl⟩

/-- Recovery fails when a record that is left over cannot be deleted. -/
theorem recover_of_error {records : List Record}
    (herror : (deleteAll (indexRecords {} records).value store).value = .error cause) :
    (recover store records).value = .error (.store cause) ∧
      (recover store records).state.store =
        (SlotStore.close (deleteAll (indexRecords {} records).value store).state).state := by
  obtain ⟨hvalue, hstate⟩ := dropInvalid_of_error herror
  unfold recover
  dsimp only
  rw [Action.bind_of_error (value_onStore_of_error hvalue)]
  refine ⟨rfl, ?_⟩
  rw [Outcome.state_after, state_onStore]
  exact hstate

end Drop

section Replay

variable [ReplayableStore S] {store left whole : S}

/-- A limbo is recovered from what its store replays. -/
def reopen (store : S) : Outcome (Limbo S) (Except LimboError Unit) :=
  recover store (ReplayableStore.replay store)

/-- A store replays its live records. -/
theorem lists_of_replay (hsound : Sound store) : Lists store (ReplayableStore.replay store) where
  nodup := List.pairwise_map.mpr
    ((ReplayableStore.sorted_replay hsound).imp fun hlt => Nat.ne_of_lt hlt)
  mem_iff _ _ := ReplayableStore.mem_replay_iff hsound

/-- Replaying finds the records that are left over. -/
theorem leftOver_indexRecords (hsound : Sound store) :
    LeftOver (live store) (indexRecords {} (ReplayableStore.replay store)).value where
  sorted := (List.pairwise_map.mpr (ReplayableStore.sorted_replay hsound)).sublist
    (sublist_indexRecords {} _)
  mem_iff id := by
    have hlists := lists_of_replay hsound
    have hsorted := ReplayableStore.sorted_replay hsound
    constructor
    · intro hleft
      obtain ⟨⟨id, data⟩, hmem, rfl⟩ := List.mem_map.mp ((sublist_indexRecords {} _).subset hleft)
      have hlive : live store id ≠ none := by simp [(hlists.mem_iff id data).mp hmem]
      refine ⟨hlive, fun hfirst => ?_⟩
      exact (not_mem_indexRecords_iff_firstAt hlists hsorted hlive).mpr hfirst hleft
    · rintro ⟨hlive, hnone⟩
      by_contra hkept
      exact hnone ((not_mem_indexRecords_iff_firstAt hlists hsorted hlive).mp hkept)

/-- Recovery was stopped by a failing deletion when some records were deleted. -/
structure Stopped (store : S) (gone : List SlotId) (cause : StoreError) : Prop where
  /-- The failure is returned. -/
  value : (reopen store).value = .error (.store cause)
  sound : Sound (reopen store).state.store
  /-- These records are gone, and no others. -/
  live : ∀ id : SlotId,
    live (reopen store).state.store id = if id ∈ gone then none else live store id
  /-- None of them is the first entry of its owner. -/
  spared : ∀ (id : SlotId) (entry : Entry), FirstAt (LawfulStore.live store) id entry → id ∉ gone

/-- Every owner is tracked at the first entry it has among some records, and these are the records
that are left. -/
structure TracksFirst (records : SlotId → Option Bytes) (limbo : Limbo S) : Prop where
  /-- An owner has the slot of its first entry. -/
  slotOf_iff : ∀ (tx : TxHash) (id : SlotId), limbo.index.slotOf tx = some id ↔
    ∃ block sidecar, FirstAt records id ⟨tx, block, sidecar⟩
  /-- The slot is known under the owner and the block of that entry. -/
  slot_iff : ∀ (id : SlotId) (tracked : Tracked), limbo.index.slot id = some tracked ↔
    ∃ sidecar, FirstAt records id ⟨tracked.owner, tracked.block, sidecar⟩
  /-- The three maps agree, and no group is empty. -/
  consistent : limbo.index.Consistent
  /-- A record is kept if and only if it is tracked. -/
  live_iff : ∀ (id : SlotId) (data : Bytes), live limbo.store id = some data ↔
    records id = some data ∧ limbo.index.slot id ≠ none

/-- What is tracked and what is left is told by the records. -/
theorem TracksFirst.unique {records : SlotId → Option Bytes} {limbo other : Limbo S}
    (h : TracksFirst records limbo) (hother : TracksFirst records other) :
    other.index = limbo.index ∧ live other.store = live limbo.store := by
  have hindex : other.index = limbo.index := by
    refine h.consistent.ext hother.consistent (ExtTreeMap.ext_getElem? fun id => ?_)
    refine Option.ext fun tracked => ?_
    exact (hother.slot_iff id tracked).trans (h.slot_iff id tracked).symm
  refine ⟨hindex, funext fun id => Option.ext fun data => ?_⟩
  rw [h.live_iff, hother.live_iff, hindex]

/-- The first entries of what remains are those of all records. -/
theorem TracksFirst.of_thinned {records left : SlotId → Option Bytes} {limbo : Limbo S}
    (h : TracksFirst left limbo) (hthinned : Thinned records left) : TracksFirst records limbo where
  slotOf_iff tx id := by simp only [h.slotOf_iff, hthinned.firstAt_iff]
  slot_iff id tracked := by simp only [h.slot_iff, hthinned.firstAt_iff]
  consistent := h.consistent
  live_iff id data := by
    rw [h.live_iff]
    refine and_congr_left fun hknown => ?_
    obtain ⟨tracked, hknown⟩ := Option.ne_none_iff_exists'.mp hknown
    obtain ⟨sidecar, hfirst⟩ := (h.slot_iff id tracked).mp hknown
    rw [hthinned.kept id _ (hthinned.firstAt_iff.mp hfirst)]

/-- A limbo that accounts for the first entries tracks these. -/
theorem tracksFirst_of_accounted {records : SlotId → Option Bytes} {limbo : Limbo S}
    (haccounted : Accounted limbo.index (live limbo.store) [])
    (hkeeps : KeepsFirst records (live limbo.store)) : TracksFirst records limbo := by
  have hslot : ∀ (id : SlotId) (tracked : Tracked), limbo.index.slot id = some tracked ↔
      ∃ sidecar, FirstAt records id ⟨tracked.owner, tracked.block, sidecar⟩ := by
    intro id tracked
    rw [Index.slot, haccounted.slot_iff]
    constructor
    · rintro ⟨sidecar, hentry⟩
      obtain ⟨data, hdata, hdecode⟩ := hentry
      obtain ⟨hrecord, entry, hfirst⟩ := hkeeps.eq_some_iff.mp hdata
      obtain rfl := hfirst.entryAt.unique ⟨data, hrecord, hdecode⟩
      exact ⟨sidecar, hfirst⟩
    · rintro ⟨sidecar, hfirst⟩
      exact ⟨sidecar, hfirst.entryAt.congr (hkeeps.kept id _ hfirst)⟩
  refine ⟨fun tx id => ?_, hslot, haccounted.consistent, fun id data => ?_⟩
  · rw [Index.slotOf, haccounted.consistent.owner_iff]
    exact exists_congr fun block => hslot id ⟨tx, block⟩
  · rw [hkeeps.eq_some_iff]
    refine and_congr_right fun _ => ?_
    rw [Option.ne_none_iff_exists']
    constructor
    · rintro ⟨entry, hfirst⟩
      exact ⟨⟨entry.owner, entry.block⟩, (hslot id _).mpr ⟨entry.sidecar, hfirst⟩⟩
    · rintro ⟨tracked, hknown⟩
      obtain ⟨sidecar, hfirst⟩ := (hslot id tracked).mp hknown
      exact ⟨_, hfirst⟩

/-- What is left over is deleted up to the first failure. -/
theorem stopped_of_failsAfter (hsound : Sound store) {gone rest : List SlotId} {id : SlotId}
    {cause : StoreError}
    (hdropped : (indexRecords {} (ReplayableStore.replay store)).value = gone ++ id :: rest)
    (hfails : FailsAfter store gone id cause) : Stopped store gone cause := by
  obtain ⟨hvalue, hstate⟩ := hfails.deleteAll_eq rest
  rw [← hdropped] at hvalue hstate
  obtain ⟨herror, hclosed⟩ := recover_of_error hvalue
  obtain ⟨hsound', hlive⟩ := deleteAll_spec hsound hfails.deleted
  have hrefused := sound_delete id hsound'
  refine ⟨herror, ?_, fun other => ?_, fun other entry hfirst hgone => ?_⟩
  · rw [reopen, hclosed, hstate]
    exact ReplayableStore.sound_close hrefused
  · rw [reopen, hclosed, hstate, ReplayableStore.live_close hrefused,
      delete_error hsound' hfails.refused, hlive]
  · have hleft : other ∈ (indexRecords {} (ReplayableStore.replay store)).value := by
      rw [hdropped]
      exact List.mem_append_left _ hgone
    exact (((leftOver_indexRecords hsound).mem_iff other).mp hleft).2 ⟨entry, hfirst⟩

/-- Recovery succeeds, or a deletion fails. -/
theorem reopen_cases (store : S) : (reopen store).value = .ok () ∨
    ∃ gone id rest cause, (indexRecords {} (ReplayableStore.replay store)).value =
      gone ++ id :: rest ∧ FailsAfter store gone id cause :=
  (deleteAll_cases store _).imp_left value_recover

/-- When recovery is stopped, only records that are left over are gone. -/
theorem thinned_of_error (hsound : Sound store) {error : LimboError}
    (herror : (reopen store).value = .error error) :
    Thinned (live store) (live (reopen store).state.store) := by
  rcases reopen_cases store with hok | ⟨gone, id, rest, cause, hdropped, hfails⟩
  · rw [hok] at herror
    cases herror
  · have hlive : live (reopen store).state.store = fun id =>
        if id ∈ gone then none else live store id :=
      funext (stopped_of_failsAfter hsound hdropped hfails).live
    rw [hlive]
    refine (leftOver_indexRecords hsound).thinned fun id hid => ?_
    rw [hdropped]
    exact List.mem_append_left _ hid

/-- When it succeeds, the first entries are tracked. -/
theorem tracksFirst_reopen (hsound : Sound store) (hok : (reopen store).value = .ok ()) :
    TracksFirst (live store) (reopen store).state := by
  have hlists := lists_of_replay hsound
  obtain ⟨-, haccounted, -⟩ := recover_accounted hsound hlists hok
  exact tracksFirst_of_accounted haccounted
    (keepsFirst_of_recover hsound hlists (ReplayableStore.sorted_replay hsound) hok)

/-- A store holds what some failed attempts at recovery have left in another one. It may be that
store itself, or any other with the same records. -/
inductive Retried : S → S → Prop where
  /-- No attempt was made. -/
  | start {store left : S} (hsound : Sound left) (hlive : live left = live store) :
      Retried store left
  /-- An attempt failed, and others were made at what it left. -/
  | next {store later left : S} {error : LimboError} (herror : (reopen store).value = .error error)
      (hsound : Sound later) (hlive : live later = live (reopen store).state.store)
      (hrest : Retried later left) : Retried store left

/-- Recovery can be tried again with the store it was stopped with. -/
theorem Stopped.retried {gone : List SlotId} {cause : StoreError} (h : Stopped store gone cause) :
    Retried store (reopen store).state.store :=
  .next h.value h.sound rfl (.start h.sound rfl)

/-- No first entry of an owner is lost on the way. -/
theorem Retried.thinned (h : Retried store left) (hsound : Sound store) :
    Sound left ∧ Thinned (live store) (live left) := by
  induction h with
  | start hleft hlive => exact ⟨hleft, hlive ▸ .refl _⟩
  | next herror hlater hlive hrest ih =>
    obtain ⟨hleft, hthinned⟩ := ih hlater
    rw [hlive] at hthinned
    exact ⟨hleft, (thinned_of_error hsound herror).trans hthinned⟩

/-- What recovery from a store comes to, given the ids of the records that are left over. -/
structure Converges (store : S) (dropped : List SlotId) : Prop where
  /-- These are the ids in the order in which they are replayed. -/
  leftOver : LeftOver (live store) dropped
  /-- When the deletion of one of them fails, recovery stops there. -/
  stopped : ∀ (gone : List SlotId) (id : SlotId) (rest : List SlotId) (cause : StoreError),
    dropped = gone ++ id :: rest → FailsAfter store gone id cause → Stopped store gone cause
  /-- However often it failed before, it succeeds unless it fails to delete a record that is left
  over. -/
  completes : ∀ left : S, Retried store left → (reopen left).value = .ok () ∨
    ∃ gone id rest cause, LeftOver (live left) (gone ++ id :: rest) ∧
      FailsAfter left gone id cause
  /-- Once it succeeds, the first entries are tracked. -/
  tracksFirst : ∀ left : S, Retried store left → (reopen left).value = .ok () →
    TracksFirst (live store) (reopen left).state
  /-- That is what would have come of it without a failure. -/
  same : ∀ left whole : S, Retried store left → (reopen left).value = .ok () → Sound whole →
    live whole = live store → (reopen whole).value = .ok () →
      (reopen left).state.index = (reopen whole).state.index ∧
        live (reopen left).state.store = live (reopen whole).state.store

/-- **Interrupted recovery converges.** Take any store that replays its records in the order of
their ids, whatever these are, and whose deletions give up a record or fail and leave it. When a
deletion fails during recovery, its failure is returned; the records left over that come before are
gone, and none of them is the first entry of an owner. However often recovery is interrupted and
tried again, with what the store then holds, an attempt without a failure ends as one from the
original records would have ended: with every owner tracked at its first entry, and no record left
that is not tracked. -/
theorem recovery_converges (store : S) (hsound : Sound store) :
    ∃ dropped, Converges store dropped := by
  have htracks : ∀ left : S, Retried store left → (reopen left).value = .ok () →
      TracksFirst (live store) (reopen left).state := by
    intro left hretried hok
    obtain ⟨hleft, hthinned⟩ := hretried.thinned hsound
    exact (tracksFirst_reopen hleft hok).of_thinned hthinned
  refine ⟨_, leftOver_indexRecords hsound,
    fun gone id rest cause => stopped_of_failsAfter hsound, fun left hretried => ?_, htracks, ?_⟩
  · obtain ⟨hleft, -⟩ := hretried.thinned hsound
    refine (reopen_cases left).imp_right ?_
    rintro ⟨gone, id, rest, cause, hdropped, hfails⟩
    exact ⟨gone, id, rest, cause, hdropped ▸ leftOver_indexRecords hleft, hfails⟩
  · intro left whole hretried hok hwhole hlive hokWhole
    exact (hlive ▸ tracksFirst_reopen hwhole hokWhole).unique (htracks left hretried hok)

end Replay

section Schedule

variable [SlotStore S] {faltering : Faltering S} {gone : List SlotId}
  (hnone : ∀ n < gone.length, faltering.failures n = none)
  (hok : (deleteAll gone faltering.store).value = .ok ())

include hnone hok

/-- Deletions that are not to fail are those of the store. -/
theorem deleteAll_faltering : deleteAll gone faltering =
    (deleteAll gone faltering.store).mapState fun store =>
      { store, failures := fun n => faltering.failures (n + gone.length) } := by
  induction gone generalizing faltering with
  | nil => rfl
  | cons slot gone ih =>
    obtain ⟨⟨⟩, hdelete, hothers, -⟩ := Action.of_bind_eq_ok hok
    have hfirst := Faltering.delete_of_none (hnone 0 (Nat.zero_lt_succ _)) slot
    have hdelete' : (SlotStore.delete slot faltering).value = .ok () := by
      rw [hfirst]
      exact hdelete
    rw [deleteAll_cons_of_ok hdelete, deleteAll_cons_of_ok hdelete', hfirst]
    simp only [Outcome.state_mapState]
    rw [ih (fun n hn => hnone (n + 1) (Nat.succ_lt_succ hn)) hothers]
    rfl

/-- So any deletion can be the one that fails. -/
theorem failsAfter_of_schedule {cause : StoreError}
    (hfails : faltering.failures gone.length = some cause) (id : SlotId) :
    FailsAfter faltering gone id cause := by
  have hdeleted := deleteAll_faltering hnone hok
  constructor
  · rw [hdeleted]
    exact hok
  · rw [hdeleted, Outcome.state_mapState, Faltering.delete_of_some (by simpa using hfails)]

end Schedule

/-- A store holds two entries of one owner between two records that are no entries, and the second
deletion fails. What is left then is recovered at the next attempt. -/
theorem recovery_converges_second_attempt :
    let tx : TxHash := .replicate 32 7
    let entry (block : UInt64) : Entry := ⟨tx, block, ⟨[], [], []⟩⟩
    let cause : StoreError := .io (.injected "Delete")
    let store : Faltering MemoryStore := {
      store := .ofRecords [[0x80], (entry 5).encode, (entry 9).encode, [0x01]]
      failures := fun n => if n = 1 then some cause else none }
    let left := (reopen store).state.store
    Sound store ∧ (∃ dropped, Converges store dropped ∧ dropped = [0, 2, 3]) ∧
      Stopped store [0] cause ∧ left.store.records.keys = [1, 2, 3] ∧ Retried store left ∧
      (reopen left).value = .ok () ∧ TracksFirst (live store) (reopen left).state ∧
      (reopen left).state.store.store.records.keys = [1] ∧
      (reopen left).state.trackedBlock tx = some 5 := by
  intro tx entry cause store left
  have hsound : Sound store := MemoryStore.idsBelowNext_ofRecords _
  obtain ⟨dropped, hconverges⟩ := recovery_converges store hsound
  have hdropped : dropped = [0, 2, 3] := by
    have hreplayed : (indexRecords {} (ReplayableStore.replay store)).value = [0, 2, 3] := by
      decide +kernel
    exact hconverges.leftOver.unique (hreplayed ▸ leftOver_indexRecords hsound)
  have hfails : FailsAfter store [0] 2 cause :=
    failsAfter_of_schedule (by simp [store]) (by decide +kernel) rfl 2
  have hstopped : Stopped store [0] cause := hconverges.stopped [0] 2 [3] cause hdropped hfails
  have hretried : Retried store left := hstopped.retried
  have hok : (reopen left).value = .ok () := by decide +kernel
  exact ⟨hsound, ⟨dropped, hconverges, hdropped⟩, hstopped, by decide +kernel, hretried, hok,
    hconverges.tracksFirst left hretried hok, by decide +kernel, by decide +kernel⟩

end Limbo

end BlobLimbo
