import BlobLimbo.Entry
import BlobLimbo.Proofs.Index.Sweep
import Mathlib.Logic.Function.Basic

/-!
# What a limbo tracks

An index accounts for the live records of a store when every slot it knows holds an entry of the
owner and block it has there, and every live record it does not know is one of the stranded ones.
A slot is stranded when the index has forgotten it but its record could not be deleted. The lemmas
below follow this through the elementary changes an operation is made of.
-/

namespace BlobLimbo

open Std

/-- The live record under an id is that of an entry. -/
def EntryAt (live : SlotId → Option Bytes) (id : SlotId) (entry : Entry) : Prop :=
  ∃ data, live id = some data ∧ Entry.decode data = .ok entry

/-- A record is read as one entry only. -/
theorem EntryAt.unique {live : SlotId → Option Bytes} {id : SlotId} {entry entry' : Entry}
    (h : EntryAt live id entry) (h' : EntryAt live id entry') : entry' = entry := by
  obtain ⟨data, hdata, hdecode⟩ := h
  obtain ⟨data', hdata', hdecode'⟩ := h'
  rw [hdata, Option.some.injEq] at hdata'
  subst hdata'
  rw [hdecode, Except.ok.injEq] at hdecode'
  exact hdecode'.symm

/-- An entry is where its record is. -/
theorem EntryAt.congr {live live' : SlotId → Option Bytes} {id : SlotId} {entry : Entry}
    (h : EntryAt live id entry) (hsame : live' id = live id) : EntryAt live' id entry := by
  obtain ⟨data, hdata, hdecode⟩ := h
  exact ⟨data, hsame.trans hdata, hdecode⟩

/-- A record that is left when another is given up was there before. -/
theorem EntryAt.of_update_none {live : SlotId → Option Bytes} {id id' : SlotId} {entry : Entry}
    (h : EntryAt (Function.update live id none) id' entry) : EntryAt live id' entry := by
  by_cases hid : id' = id
  · subst hid
    obtain ⟨data, hdata, -⟩ := h
    simp at hdata
  · exact h.congr (Function.update_of_ne hid none live).symm

/-- An index knows the live records but for the stranded ones. -/
structure Accounted (index : Index) (live : SlotId → Option Bytes) (stranded : List SlotId) :
    Prop where
  consistent : index.Consistent
  stored : ∀ (id : SlotId) (tracked : Tracked), index.slots[id]? = some tracked →
    ∃ sidecar, EntryAt live id ⟨tracked.owner, tracked.block, sidecar⟩
  stranded_iff : ∀ id : SlotId, id ∈ stranded ↔ live id ≠ none ∧ index.slots[id]? = none

namespace Accounted

variable {index : Index} {live : SlotId → Option Bytes} {stranded : List SlotId}
  {owner : TxHash} {block : UInt64} {id : SlotId}

/-- An empty index accounts for a store without records. -/
theorem empty (hlive : ∀ id, live id = none) : Accounted {} live [] where
  consistent := Index.consistent_empty
  stored id tracked hslot := by simp at hslot
  stranded_iff id := by simp [hlive]

/-- A slot the index knows has a live record. -/
theorem live_ne_none (h : Accounted index live stranded) {tracked : Tracked}
    (hslot : index.slots[id]? = some tracked) : live id ≠ none := by
  obtain ⟨sidecar, data, hdata, -⟩ := h.stored id tracked hslot
  simp [hdata]

/-- A slot that is swept has a live record. -/
theorem live_of_evicted (h : Accounted index live stranded) (finalized : UInt64) :
    ∀ slot ∈ (index.splitFinalized finalized).1, live slot.id ≠ none := by
  intro slot hslot
  exact h.live_ne_none ((h.consistent.grounded.mem_evicted_iff finalized).mp hslot).1

/-- A slot behind the finalized block is not swept. -/
theorem not_evicted (h : Accounted index live stranded) {finalized : UInt64}
    (hslot : index.slots[id]? = some ⟨owner, block⟩) (hlt : finalized < block) :
    ¬∃ slot ∈ (index.splitFinalized finalized).1, slot.id = id := by
  intro hswept
  obtain ⟨owner', block', hslot', hle⟩ :=
    (h.consistent.grounded.exists_evicted_iff finalized).mp hswept
  rw [hslot, Option.some.injEq, Tracked.mk.injEq] at hslot'
  rw [← hslot'.2] at hle
  exact UInt64.not_lt.mpr hle hlt

/-- A slot that has no live record is unknown. -/
theorem slot_eq_none (h : Accounted index live stranded) (hlive : live id = none) :
    index.slots[id]? = none := by
  rw [Option.eq_none_iff_forall_ne_some]
  intro tracked hslot
  exact h.live_ne_none hslot hlive

/-- A transaction is tracked in the slot the index has for it. -/
theorem slot_of_owner (h : Accounted index live stranded)
    (howner : index.slotOf owner = some id) :
    ∃ block sidecar, index.slots[id]? = some ⟨owner, block⟩ ∧
      EntryAt live id ⟨owner, block, sidecar⟩ := by
  obtain ⟨block, hslot⟩ := (h.consistent.owner_iff owner id).mp howner
  obtain ⟨sidecar, hentry⟩ := h.stored id _ hslot
  exact ⟨block, sidecar, hslot, hentry⟩

/-- A slot is forgotten together with its record. -/
theorem drop (h : Accounted index live stranded) (hslot : index.slots[id]? = some ⟨owner, block⟩) :
    Accounted (index.remove owner block id) (Function.update live id none) stranded := by
  obtain ⟨hconsistent, hslots⟩ := h.consistent.remove hslot
  refine ⟨hconsistent, ?_, ?_⟩
  · intro id' tracked hslot'
    simp only [hslots, ExtTreeMap.getElem?_erase, LawfulEqCmp.compare_eq_iff_eq] at hslot'
    split at hslot'
    · simp at hslot'
    · rename_i hne
      obtain ⟨sidecar, hentry⟩ := h.stored id' tracked hslot'
      exact ⟨sidecar, hentry.congr (Function.update_of_ne (Ne.symm hne) none live)⟩
  · intro id'
    simp only [h.stranded_iff, hslots, ExtTreeMap.getElem?_erase, LawfulEqCmp.compare_eq_iff_eq]
    by_cases hid : id = id'
    · subst hid
      simp [hslot]
    · rw [Function.update_of_ne (Ne.symm hid), if_neg hid]

/-- A slot that is forgotten while its record stays is stranded. -/
theorem strand (h : Accounted index live stranded)
    (hslot : index.slots[id]? = some ⟨owner, block⟩) :
    Accounted (index.remove owner block id) live (stranded ++ [id]) := by
  obtain ⟨hconsistent, hslots⟩ := h.consistent.remove hslot
  refine ⟨hconsistent, ?_, ?_⟩
  · intro id' tracked hslot'
    rw [hslots, ExtTreeMap.getElem?_erase] at hslot'
    split at hslot'
    · simp at hslot'
    · exact h.stored id' tracked hslot'
  · intro id'
    simp only [List.mem_append, List.mem_singleton, h.stranded_iff, hslots,
      ExtTreeMap.getElem?_erase, LawfulEqCmp.compare_eq_iff_eq]
    by_cases hid : id = id'
    · subst hid
      simp [h.live_ne_none hslot]
    · simp [hid, eq_comm (a := id')]

/-- A new record is registered for a transaction that has no slot. -/
theorem store (h : Accounted index live stranded) {data : Bytes} {sidecar : Sidecar}
    (howner : index.slotOf owner = none) (hlive : live id = none)
    (hdecode : Entry.decode data = .ok ⟨owner, block, sidecar⟩) :
    ∃ next, index.insert? owner block id = some next ∧
      next.slots = index.slots.insert id ⟨owner, block⟩ ∧
        Accounted next (Function.update live id (some data)) stranded := by
  obtain ⟨next, hnext, hconsistent, hslots⟩ :=
    h.consistent.insert?_eq block howner (h.slot_eq_none hlive)
  refine ⟨next, hnext, hslots, hconsistent, ?_, ?_⟩
  · intro id' tracked hslot'
    simp only [hslots, ExtTreeMap.getElem?_insert, LawfulEqCmp.compare_eq_iff_eq] at hslot'
    split at hslot'
    · rename_i hid
      subst hid
      obtain rfl := Option.some.inj hslot'
      exact ⟨sidecar, data, Function.update_self _ _ _, hdecode⟩
    · rename_i hne
      obtain ⟨sidecar', hentry⟩ := h.stored id' tracked hslot'
      exact ⟨sidecar', hentry.congr (Function.update_of_ne (Ne.symm hne) _ live)⟩
  · intro id'
    simp only [h.stranded_iff, hslots, ExtTreeMap.getElem?_insert, LawfulEqCmp.compare_eq_iff_eq]
    by_cases hid : id = id'
    · subst hid
      simp [hlive]
    · rw [Function.update_of_ne (Ne.symm hid), if_neg hid]

/-- A sweep that deletes the records of the evicted slots, but for some, strands those. -/
theorem sweep (h : Accounted index live stranded) (finalized : UInt64)
    {live' : SlotId → Option Bytes} {refused : List SlotId}
    (hrefused : ∀ id ∈ refused, ∃ slot ∈ (index.splitFinalized finalized).1, slot.id = id)
    (hlive : ∀ id, live' id =
      if id ∉ refused ∧ ∃ slot ∈ (index.splitFinalized finalized).1, slot.id = id then none
      else live id) :
    Accounted (index.splitFinalized finalized).2 live' (stranded ++ refused) := by
  have hgrounded := h.consistent.grounded
  refine ⟨h.consistent.splitFinalized finalized, ?_, ?_⟩
  · intro id tracked hslot
    obtain ⟨hknown, hlt⟩ := (hgrounded.slots_splitFinalized finalized).mp hslot
    obtain ⟨sidecar, hentry⟩ := h.stored id tracked hknown
    refine ⟨sidecar, hentry.congr ?_⟩
    rw [hlive, if_neg]
    exact fun hgone => h.not_evicted hknown hlt hgone.2
  · intro id
    rw [List.mem_append, h.stranded_iff, hgrounded.slots_splitFinalized_eq_none_iff, hlive]
    by_cases hrefusedId : id ∈ refused
    · have hslot := hrefused id hrefusedId
      obtain ⟨owner, block, hknown, -⟩ := (hgrounded.exists_evicted_iff finalized).mp hslot
      simp [hrefusedId, hslot, h.live_ne_none hknown]
    · by_cases hslot : ∃ slot ∈ (index.splitFinalized finalized).1, slot.id = id
      · obtain ⟨owner, block, hknown, -⟩ := (hgrounded.exists_evicted_iff finalized).mp hslot
        simp [hrefusedId, hslot, hknown]
      · rw [if_neg (fun hboth => hslot hboth.2)]
        simp only [hrefusedId, hslot, or_false]

section Unstranded

variable (h : Accounted index live [])

include h

/-- When nothing is stranded, every live record has a slot. -/
theorem slot_ne_none (hlive : live id ≠ none) : index.slots[id]? ≠ none := by
  intro hslot
  have hstranded := (h.stranded_iff id).mpr ⟨hlive, hslot⟩
  simp at hstranded

/-- When nothing is stranded, the slots are told by the entries. -/
theorem slot_iff {tracked : Tracked} : index.slots[id]? = some tracked ↔
    ∃ sidecar, EntryAt live id ⟨tracked.owner, tracked.block, sidecar⟩ := by
  refine ⟨h.stored id tracked, ?_⟩
  rintro ⟨sidecar, hentry⟩
  have hlive : live id ≠ none := by
    obtain ⟨data, hdata, -⟩ := hentry
    simp [hdata]
  obtain ⟨known, hknown⟩ := Option.ne_none_iff_exists'.mp (h.slot_ne_none hlive)
  obtain ⟨sidecar', hentry'⟩ := h.stored id known hknown
  have hsame := hentry.unique hentry'
  simp only [Entry.mk.injEq] at hsame
  rw [hknown, Option.some.injEq]
  cases known
  cases tracked
  simp_all

/-- When nothing is stranded, the live records determine the index. -/
theorem index_eq {other : Index} (hother : Accounted other live []) : other = index := by
  refine h.consistent.ext hother.consistent (ExtTreeMap.ext_getElem? fun id => ?_)
  exact Option.ext fun tracked => by rw [hother.slot_iff, h.slot_iff]

/-- When nothing is stranded, some records can be given up together with their slots. -/
theorem drop_all (ids : List SlotId) :
    ∃ next : Index, Accounted next (fun id => if id ∈ ids then none else live id) [] := by
  induction ids with
  | nil => exact ⟨index, by simpa using h⟩
  | cons id ids ih =>
    obtain ⟨next, hnext⟩ := ih
    have hlive : (fun other => if other ∈ id :: ids then none else live other) =
        Function.update (fun other => if other ∈ ids then none else live other) id none := by
      funext other
      by_cases hother : other = id <;> simp [hother]
    rw [hlive]
    cases hslot : next.slots[id]? with
    | some tracked => exact ⟨_, hnext.drop hslot⟩
    | none =>
      have hgone : (if id ∈ ids then none else live id) = none := by
        by_contra hne
        exact hnext.slot_ne_none hne hslot
      refine ⟨next, ?_⟩
      rwa [Function.update_eq_self_iff.mpr hgone.symm]

/-- When nothing is stranded, some of the records are accounted for by the slots they have. -/
theorem restrict {kept : SlotId → Option Bytes}
    (hkept : ∀ id, kept id = none ∨ kept id = live id) :
    ∃ next : Index, Accounted next kept [] ∧ ∀ (id : SlotId) (tracked : Tracked),
      next.slots[id]? = some tracked ↔ index.slots[id]? = some tracked ∧ kept id ≠ none := by
  obtain ⟨next, hnext⟩ := h.drop_all (index.slots.keys.filter fun id => (kept id).isNone)
  have hlive : (fun id => if id ∈ index.slots.keys.filter fun id => (kept id).isNone then none
      else live id) = kept := by
    funext id
    have hmem : id ∈ (index.slots.keys.filter fun id => (kept id).isNone) ↔
        index.slots[id]? ≠ none ∧ kept id = none := by
      rw [List.mem_filter, ExtTreeMap.mem_keys, ExtTreeMap.mem_iff_isSome_getElem?,
        Option.isSome_iff_ne_none, Option.isNone_iff_eq_none]
    by_cases hrecord : live id = none
    · rcases hkept id with hnone | hsame <;> simp [*]
    · rcases hkept id with hnone | hsame
      · rw [if_pos (hmem.mpr ⟨h.slot_ne_none hrecord, hnone⟩), hnone]
      · rw [if_neg fun hgone => hrecord (hsame ▸ (hmem.mp hgone).2), hsame]
  rw [hlive] at hnext
  refine ⟨next, hnext, fun id tracked => ?_⟩
  rw [hnext.slot_iff, h.slot_iff]
  constructor
  · rintro ⟨sidecar, data, hdata, hdecode⟩
    have hrecord : kept id ≠ none := by simp [hdata]
    exact ⟨⟨sidecar, data, (hkept id).resolve_left hrecord ▸ hdata, hdecode⟩, hrecord⟩
  · rintro ⟨⟨sidecar, hentry⟩, hrecord⟩
    exact ⟨sidecar, hentry.congr ((hkept id).resolve_left hrecord)⟩

end Unstranded

end Accounted

end BlobLimbo
