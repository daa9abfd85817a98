import BlobLimbo.Proofs.Limbo.Recovery
import Mathlib.Data.Nat.Find

/-!
# Which records recovery keeps

Records are replayed in the order of their ids. So of all live records that are entries of one
owner recovery keeps the one with the lowest id (`FirstAt`), and it deletes every other record. Over
a calm store none of these deletions fails (`recover_of_calm`), and every owner of an entry is then
tracked at its first one (`heldIn_of_entryAt`).
-/

namespace BlobLimbo

open Std

/-- The entry under an id is the first one of its owner. -/
structure FirstAt (live : SlotId → Option Bytes) (id : SlotId) (entry : Entry) : Prop where
  entryAt : EntryAt live id entry
  first : ∀ (earlier : SlotId) (other : Entry), earlier < id → EntryAt live earlier other →
    other.owner ≠ entry.owner

namespace FirstAt

variable {live live' : SlotId → Option Bytes} {id id' : SlotId} {entry entry' : Entry}

/-- An owner that has an entry has a first one. -/
theorem exists_of_entryAt (hentry : EntryAt live id entry) :
    ∃ first other, FirstAt live first other ∧ other.owner = entry.owner ∧ first ≤ id := by
  classical
  have hexists : ∃ first, ∃ other, EntryAt live first other ∧ other.owner = entry.owner :=
    ⟨id, entry, hentry, rfl⟩
  obtain ⟨other, hother, howner⟩ := Nat.find_spec hexists
  refine ⟨Nat.find hexists, other, ⟨hother, fun earlier another hlt hanother hsame => ?_⟩, howner,
    Nat.find_min' hexists ⟨entry, hentry, rfl⟩⟩
  exact Nat.find_min hexists hlt ⟨another, hanother, hsame.trans howner⟩

end FirstAt

/-- Of some live records the first entry of each owner is kept, and no other record. -/
structure KeepsFirst (live live' : SlotId → Option Bytes) : Prop where
  kept : ∀ (id : SlotId) (entry : Entry), FirstAt live id entry → live' id = live id
  first : ∀ id : SlotId, live' id ≠ none → ∃ entry, FirstAt live id entry

/-- What is kept are the first entries. -/
theorem KeepsFirst.eq_some_iff {live live' : SlotId → Option Bytes} (h : KeepsFirst live live')
    {id : SlotId} {data : Bytes} :
    live' id = some data ↔ live id = some data ∧ ∃ entry, FirstAt live id entry := by
  constructor
  · intro hdata
    obtain ⟨entry, hfirst⟩ := h.first id (by simp [hdata])
    exact ⟨(h.kept id entry hfirst).symm.trans hdata, entry, hfirst⟩
  · rintro ⟨hdata, entry, hfirst⟩
    exact (h.kept id entry hfirst).trans hdata

/-- Of records that are all accounted for, all are first entries, and all are kept. -/
theorem KeepsFirst.eq_of_accounted {index : Index} {live live' : SlotId → Option Bytes}
    (h : KeepsFirst live live') (haccounted : Accounted index live []) : live' = live := by
  funext id
  refine Option.ext fun data => ?_
  rw [h.eq_some_iff, and_iff_left_iff_imp]
  intro hdata
  have hlive : live id ≠ none := by simp [hdata]
  obtain ⟨tracked, hslot⟩ := Option.ne_none_iff_exists'.mp (haccounted.slot_ne_none hlive)
  obtain ⟨sidecar, hentry⟩ := haccounted.stored id tracked hslot
  refine ⟨_, hentry, fun earlier other hlt hother howner => ?_⟩
  have hslot' : index.slots[earlier]? = some ⟨other.owner, other.block⟩ :=
    haccounted.slot_iff.mpr ⟨other.sidecar, hother⟩
  rw [howner] at hslot'
  have hid := haccounted.consistent.slot_unique hslot hslot'
  exact Nat.lt_irrefl _ (hid ▸ hlt)

namespace Limbo

open LawfulStore ReliableStore

variable {index : Index} {id : SlotId} {data : Bytes} {records : List Record}

/-- A record that finds its place belongs to an owner that had no slot. -/
theorem slotOf_of_indexRecord {record : Record} {next : Index} {entry : Entry}
    (hrecord : indexRecord index record = .ok next)
    (hdecode : Entry.decode record.2 = .ok entry) : index.slotOf entry.owner = none := by
  simp only [indexRecord, hdecode] at hrecord
  split at hrecord
  · rename_i next' hinsert
    unfold Index.insert? at hinsert
    split at hinsert
    · simp at hinsert
    · rename_i habsent
      rw [ExtTreeMap.contains_iff_mem] at habsent
      exact ExtTreeMap.getElem?_eq_none habsent
  · simp at hrecord

/-- A record finds its place exactly when it is an entry of an owner that has no slot. -/
theorem exists_indexRecord_iff {record : Record} (h : index.Consistent)
    (hfresh : index.slots[record.1]? = none) :
    (∃ next, indexRecord index record = .ok next) ↔
      ∃ entry, Entry.decode record.2 = .ok entry ∧ index.slotOf entry.owner = none := by
  constructor
  · rintro ⟨next, hnext⟩
    obtain ⟨entry, hdecode, -⟩ := indexRecord_eq_ok h hfresh hnext
    exact ⟨entry, hdecode, slotOf_of_indexRecord hnext hdecode⟩
  · rintro ⟨entry, hdecode, hslot⟩
    obtain ⟨next, hnext, -⟩ := indexRecord_of_untracked h hdecode hfresh hslot
    exact ⟨next, hnext⟩

/-- The first of some records is kept exactly when it finds its place. -/
theorem not_mem_indexRecords_cons_self {record : Record}
    (hnotLater : record.1 ∉ records.map Prod.fst) :
    record.1 ∉ (indexRecords index (record :: records)).value ↔
      ∃ next, indexRecord index record = .ok next := by
  cases hrecord : indexRecord index record with
  | ok next =>
    rw [indexRecords_cons_of_ok hrecord]
    have hkept : record.1 ∉ (indexRecords next records).value :=
      fun hleft => hnotLater ((sublist_indexRecords next records).subset hleft)
    exact iff_of_true hkept ⟨next, rfl⟩
  | error event =>
    rw [indexRecords_cons_of_error hrecord]
    exact iff_of_false (fun hkept => hkept List.mem_cons_self) (by simp)

/-- The owner of a new slot has a slot, the others have one if they had. -/
theorem slotOf_eq_none_iff_of_insert {next : Index} {owner other : TxHash} {block : UInt64}
    (h : index.Consistent) (hnext : next.Consistent) (hfresh : index.slots[id]? = none)
    (hslots : next.slots = index.slots.insert id ⟨owner, block⟩) :
    next.slotOf other = none ↔ index.slotOf other = none ∧ owner ≠ other := by
  constructor
  · intro hnone
    rw [Index.slotOf, Option.eq_none_iff_forall_ne_some] at hnone
    constructor
    · rw [Index.slotOf, Option.eq_none_iff_forall_ne_some]
      intro slot hslotOf
      obtain ⟨block', hslot⟩ := (h.owner_iff other slot).mp hslotOf
      have hne : id ≠ slot := by
        rintro rfl
        simp [hfresh] at hslot
      refine hnone slot ((hnext.owner_iff other slot).mpr ⟨block', ?_⟩)
      simpa [hslots, ExtTreeMap.getElem?_insert, hne] using hslot
    · rintro rfl
      refine hnone id ((hnext.owner_iff owner id).mpr ⟨block, ?_⟩)
      rw [hslots, ExtTreeMap.getElem?_insert_self]
  · rintro ⟨huntracked, hne⟩
    exact slotOf_eq_none_of_insert h hnext hslots hne huntracked

/-- Records are kept whose owner has no slot in the index and no entry among the records before
them. -/
theorem not_mem_indexRecords_iff (h : index.Consistent)
    (hsorted : records.Pairwise fun a b => a.1 < b.1)
    (hfresh : ∀ record ∈ records, index.slots[record.1]? = none) (hmem : (id, data) ∈ records) :
    id ∉ (indexRecords index records).value ↔
      ∃ entry, Entry.decode data = .ok entry ∧ index.slotOf entry.owner = none ∧
        ∀ earlier ∈ records, earlier.1 < id → ∀ other, Entry.decode earlier.2 = .ok other →
          other.owner ≠ entry.owner := by
  induction records generalizing index with
  | nil => simp at hmem
  | cons record records ih =>
    obtain ⟨hlater, hsorted⟩ := List.pairwise_cons.mp hsorted
    obtain ⟨hrecordFresh, hfresh⟩ := List.forall_mem_cons.mp hfresh
    have hnotLater : record.1 ∉ records.map Prod.fst := by
      intro hid
      obtain ⟨later, hmemLater, hsame⟩ := List.mem_map.mp hid
      exact Nat.lt_irrefl _ (hsame ▸ hlater later hmemLater)
    rcases List.mem_cons.mp hmem with rfl | hmem
    · -- No record comes before the head, so all that matters is whether it finds its place.
      have hnone : ∀ earlier ∈ (id, data) :: records, ¬earlier.1 < id := by
        rw [List.forall_mem_cons]
        exact ⟨Nat.lt_irrefl _, fun later hmemLater => Nat.lt_asymm (hlater later hmemLater)⟩
      rw [not_mem_indexRecords_cons_self hnotLater, exists_indexRecord_iff h hrecordFresh]
      constructor
      · rintro ⟨entry, hdecode, hslot⟩
        refine ⟨entry, hdecode, hslot, fun earlier hearlier hlt => ?_⟩
        exact absurd hlt (hnone earlier hearlier)
      · rintro ⟨entry, hdecode, hslot, -⟩
        exact ⟨entry, hdecode, hslot⟩
    · have hlt : record.1 < id := hlater _ hmem
      cases hrecord : indexRecord index record with
      | ok next =>
        obtain ⟨entry', hdecode', hconsistent, hslots⟩ := indexRecord_eq_ok h hrecordFresh hrecord
        have hnextFresh : ∀ other ∈ records, next.slots[other.1]? = none := by
          intro other hother
          have hne : record.1 ≠ other.1 := Nat.ne_of_lt (hlater other hother)
          rw [hslots]
          simpa [ExtTreeMap.getElem?_insert, hne] using hfresh other hother
        rw [indexRecords_cons_of_ok hrecord, ih hconsistent hsorted hnextFresh hmem]
        simp only [slotOf_eq_none_iff_of_insert h hconsistent hrecordFresh hslots,
          List.forall_mem_cons, hlt, true_imp_iff, hdecode', Except.ok.injEq, forall_eq', and_assoc]
      | error event =>
        have htracked : ∀ other, Entry.decode record.2 = .ok other →
            index.slotOf other.owner ≠ none := by
          intro other hother hslot
          have hplaced := (exists_indexRecord_iff h hrecordFresh).mpr ⟨other, hother, hslot⟩
          simp [hrecord] at hplaced
        rw [indexRecords_cons_of_error hrecord, Outcome.value_after, Outcome.value_map,
          List.mem_cons, not_or, ih h hsorted hfresh hmem]
        simp only [List.forall_mem_cons, hlt, true_imp_iff]
        constructor
        · rintro ⟨-, entry, hdecode, hslot, hbefore⟩
          refine ⟨entry, hdecode, hslot, fun other hother howner => ?_, hbefore⟩
          exact htracked other hother (howner ▸ hslot)
        · rintro ⟨entry, hdecode, hslot, -, hbefore⟩
          exact ⟨(Nat.ne_of_lt hlt).symm, entry, hdecode, hslot, hbefore⟩

section Lawful

variable {S : Type} [LawfulStore S] {store : S}

/-- Of the records a store lists, replaying keeps the first entries. -/
theorem not_mem_indexRecords_iff_firstAt (hlists : Lists store records)
    (hsorted : records.Pairwise fun a b => a.1 < b.1) (hlive : live store id ≠ none) :
    id ∉ (indexRecords {} records).value ↔ ∃ entry, FirstAt (live store) id entry := by
  obtain ⟨data, hdata⟩ := Option.ne_none_iff_exists'.mp hlive
  have hbefore : ∀ entry : Entry, (∀ earlier ∈ records, earlier.1 < id → ∀ other,
      Entry.decode earlier.2 = .ok other → other.owner ≠ entry.owner) ↔
      ∀ (earlier : SlotId) (other : Entry), earlier < id → EntryAt (live store) earlier other →
        other.owner ≠ entry.owner := by
    intro entry
    constructor
    · rintro hrecords earlier other hlt ⟨data', hdata', hdecode⟩
      exact hrecords _ ((hlists.mem_iff earlier data').mpr hdata') hlt other hdecode
    · intro hentries earlier hmem hlt other hdecode
      exact hentries earlier.1 other hlt ⟨earlier.2, (hlists.mem_iff _ _).mp hmem, hdecode⟩
  rw [not_mem_indexRecords_iff Index.consistent_empty hsorted (by simp)
    ((hlists.mem_iff id data).mpr hdata)]
  constructor
  · rintro ⟨entry, hdecode, -, hfirst⟩
    exact ⟨entry, ⟨data, hdata, hdecode⟩, (hbefore entry).mp hfirst⟩
  · rintro ⟨entry, ⟨data', hdata', hdecode⟩, hfirst⟩
    rw [hdata, Option.some.injEq] at hdata'
    subst hdata'
    exact ⟨entry, hdecode, by simp [Index.slotOf], (hbefore entry).mpr hfirst⟩

/-- Of the records a store lists, recovery keeps the first entries if it succeeds. -/
theorem keepsFirst_of_recover (hsound : Sound store) (hlists : Lists store records)
    (hsorted : records.Pairwise fun a b => a.1 < b.1)
    (hok : (recover store records).value = .ok ()) :
    KeepsFirst (live store) (live (recover store records).state.store) := by
  obtain ⟨hdeleted, hstate⟩ := recover_of_ok hok
  obtain ⟨-, hlive⟩ := deleteAll_spec hsound hdeleted
  constructor
  · intro id entry hfirst
    obtain ⟨data, hdata, -⟩ := hfirst.entryAt
    have hkept := (not_mem_indexRecords_iff_firstAt hlists hsorted (by simp [hdata])).mpr
      ⟨entry, hfirst⟩
    rw [hstate, hlive, if_neg hkept]
  · intro id hid
    rw [hstate, hlive] at hid
    split at hid
    · simp at hid
    · rename_i hkept
      exact (not_mem_indexRecords_iff_firstAt hlists hsorted hid).mp hkept

end Lawful

section Drop

variable {S : Type} [SlotStore S] {store : S} {ids : List SlotId}

/-- What is left over is dropped when all of it can be deleted. -/
theorem value_dropInvalid (hdeleted : (deleteAll ids store).value = .ok ()) :
    (dropInvalid ids store).value = .ok () := by
  by_cases hids : ids = []
  · subst hids
    rfl
  · unfold dropInvalid
    rw [if_pos hids, Action.bind_of_ok rfl, Outcome.value_after, Action.report_apply,
      value_closingOnFailure, Action.value_reportFailure]
    exact hdeleted

/-- Recovery succeeds when what is left over can be deleted. -/
theorem value_recover
    (hdeleted : (deleteAll (indexRecords {} records).value store).value = .ok ()) :
    (recover store records).value = .ok () := by
  unfold recover
  dsimp only
  rw [Outcome.value_after, Action.bind_of_ok (value_onStore_of_ok (value_dropInvalid hdeleted))]
  rfl

end Drop

section Held

variable {S : Type} [LawfulStore S] {limbo : Limbo S} {stranded : List SlotId} {id : SlotId}
  {tx : TxHash} {block : UInt64} {sidecar : Sidecar}

/-- A transaction is tracked in a slot under a block, and the entry in the slot has its sidecar. -/
structure HeldIn (limbo : Limbo S) (id : SlotId) (tx : TxHash) (block : UInt64)
    (sidecar : Sidecar) : Prop where
  slot : limbo.index.slotOf tx = some id
  tracked : limbo.trackedBlock tx = some block
  entryAt : EntryAt (live limbo.store) id ⟨tx, block, sidecar⟩

/-- The index says in which slot and under which block a transaction is tracked. -/
theorem HeldIn.of_slot (hslot : limbo.index.slotOf tx = some id)
    (hknown : limbo.index.slots[id]? = some ⟨tx, block⟩)
    (hentry : EntryAt (live limbo.store) id ⟨tx, block, sidecar⟩) :
    HeldIn limbo id tx block sidecar := by
  refine ⟨hslot, ?_, hentry⟩
  rw [trackedBlock, hslot, Option.bind_some, Index.slot, hknown]
  rfl

/-- A transaction that is held is tracked. -/
theorem HeldIn.contains (h : HeldIn limbo id tx block sidecar) : limbo.contains tx = true := by
  rw [Limbo.contains, Index.contains, ExtTreeMap.contains_iff_mem,
    ExtTreeMap.mem_iff_isSome_getElem?]
  exact Option.isSome_of_eq_some h.slot

/-- An entry in a slot that is not stranded is held there. -/
theorem heldIn_of_entryAt (haccounted : Accounted limbo.index (live limbo.store) stranded)
    (hentry : EntryAt (live limbo.store) id ⟨tx, block, sidecar⟩) (hid : id ∉ stranded) :
    HeldIn limbo id tx block sidecar := by
  have hknown : limbo.index.slots[id]? ≠ none := by
    intro hnone
    obtain ⟨data, hdata, -⟩ := hentry
    exact hid ((haccounted.stranded_iff id).mpr ⟨by simp [hdata], hnone⟩)
  obtain ⟨⟨owner, block'⟩, hslot⟩ := Option.ne_none_iff_exists'.mp hknown
  obtain ⟨sidecar', hentry'⟩ := haccounted.stored id _ hslot
  obtain ⟨rfl, rfl, rfl⟩ : owner = tx ∧ block' = block ∧ sidecar' = sidecar := by
    simpa using hentry.unique hentry'
  exact .of_slot ((haccounted.consistent.owner_iff owner id).mpr ⟨block', hslot⟩) hslot hentry

/-- A tracked transaction is held in some slot. -/
theorem exists_heldIn (haccounted : Accounted limbo.index (live limbo.store) stranded)
    (htracked : limbo.contains tx = true) :
    ∃ id block sidecar, HeldIn limbo id tx block sidecar := by
  rw [contains, Index.contains, ExtTreeMap.contains_iff_mem, ExtTreeMap.mem_iff_isSome_getElem?,
    Option.isSome_iff_exists] at htracked
  obtain ⟨id, hslot⟩ := htracked
  obtain ⟨block, sidecar, hknown, hentry⟩ := haccounted.slot_of_owner hslot
  exact ⟨id, block, sidecar, .of_slot hslot hknown hentry⟩

/-- An entry below the slot its transaction is held in is a stranded one. -/
theorem HeldIn.stranded_of_lt (h : HeldIn limbo id tx block sidecar)
    (haccounted : Accounted limbo.index (live limbo.store) stranded) {earlier : SlotId}
    {other : Entry} (hlt : earlier < id) (hother : EntryAt (live limbo.store) earlier other)
    (howner : other.owner = tx) : earlier ∈ stranded := by
  by_contra hstranded
  subst howner
  have hslot := (heldIn_of_entryAt haccounted hother hstranded).slot
  rw [h.slot, Option.some.injEq] at hslot
  exact Nat.lt_irrefl _ (hslot ▸ hlt)

end Held

section Reliable

variable {S : Type} [ReliableStore S] {store : S}

/-- A calm store deletes any of its live records, each once. -/
theorem deleteAll_of_calm (hsound : Sound store) (hcalm : Calm store) {ids : List SlotId}
    (hnodup : ids.Nodup) (hlive : ∀ id ∈ ids, live store id ≠ none) :
    (deleteAll ids store).value = .ok () ∧ Calm (deleteAll ids store).state := by
  induction ids generalizing store with
  | nil => exact ⟨rfl, hcalm⟩
  | cons id ids ih =>
    rw [List.nodup_cons] at hnodup
    rw [List.forall_mem_cons] at hlive
    obtain ⟨data, hdata⟩ := Option.ne_none_iff_exists'.mp hlive.1
    have hdelete := delete_live hsound hcalm hdata
    obtain ⟨-, hgone⟩ := delete_ok hsound hdelete
    rw [deleteAll, Action.bind_of_ok hdelete, Outcome.value_after, Outcome.state_after]
    refine ih (sound_delete id hsound) (calm_delete id hcalm) hnodup.2 fun other hother => ?_
    have hne : other ≠ id := fun hid => hnodup.1 (hid ▸ hother)
    rw [hgone, Function.update_of_ne hne]
    exact hlive.2 other hother

/-- A calm store is recovered from the records it lists in the order of their ids: the first entry
of each owner is kept and tracked, and every other record is deleted. -/
theorem recover_of_calm (hsound : Sound store) (hcalm : Calm store) (hlists : Lists store records)
    (hsorted : records.Pairwise fun a b => a.1 < b.1) :
    (recover store records).value = .ok () ∧ Sound (recover store records).state.store ∧
      Calm (recover store records).state.store ∧
      Accounted (recover store records).state.index (live (recover store records).state.store)
        [] ∧
      KeepsFirst (live store) (live (recover store records).state.store) := by
  have hsublist := sublist_indexRecords {} records
  have hleft : ∀ id ∈ (indexRecords {} records).value, live store id ≠ none := by
    intro id hid
    obtain ⟨⟨id', data⟩, hmem, rfl⟩ := List.mem_map.mp (hsublist.subset hid)
    rw [(hlists.mem_iff id' data).mp hmem]
    simp
  obtain ⟨hdeleted, hcalm'⟩ :=
    deleteAll_of_calm hsound hcalm (hlists.nodup.sublist hsublist) hleft
  have hok : (recover store records).value = .ok () := value_recover hdeleted
  obtain ⟨hsound', haccounted, -⟩ := recover_accounted hsound hlists hok
  refine ⟨hok, hsound', ?_, haccounted, keepsFirst_of_recover hsound hlists hsorted hok⟩
  rw [(recover_of_ok hok).2]
  exact hcalm'

end Reliable

end Limbo

end BlobLimbo
