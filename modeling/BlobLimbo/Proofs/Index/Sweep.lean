import BlobLimbo.Proofs.Index.Consistency
import Mathlib.Data.List.Basic
import Mathlib.Data.List.Nodup
import Mathlib.Data.List.Perm.Basic

/-!
# What a sweep takes out of an index

A sweep lists each slot at or below the finalized block once, by block and then by id, and leaves
the rest of the index as it was. For this it is enough that the groups are those of the slots, so
all of it is said of grounded indices.
-/

namespace BlobLimbo.Index

open Std

/-- What the index knows about the slot of a group, as an evicted slot. -/
def eviction (index : Index) (place : UInt64 × SlotId) : Option Evicted :=
  index.slots[place.2]?.map fun tracked => ⟨place.2, tracked.owner, place.1⟩

/-- Evicting slots leaves the groups alone. -/
theorem groups_evict (index : Index) (places : List (UInt64 × SlotId)) :
    (index.evict places).2.groups = index.groups := by
  induction places generalizing index with
  | nil => rfl
  | cons place places ih =>
    obtain ⟨block, id⟩ := place
    cases hslot : index.slots[id]? with
    | none => simp only [evict, hslot, ih]
    | some tracked => simp only [evict, hslot, ih]

/-- Evicted slots are forgotten, all others stay. -/
theorem slots_evict (index : Index) (places : List (UInt64 × SlotId)) (id : SlotId)
    (tracked : Tracked) :
    (index.evict places).2.slots[id]? = some tracked ↔
      index.slots[id]? = some tracked ∧ ∀ place ∈ places, place.2 ≠ id := by
  induction places generalizing index with
  | nil => simp [evict]
  | cons place places ih =>
    obtain ⟨block, slot⟩ := place
    simp only [List.forall_mem_cons]
    cases hslot : index.slots[slot]? with
    | none =>
      simp only [evict, hslot, ih]
      have hne : index.slots[id]? = some tracked → slot ≠ id := by
        rintro hid rfl
        simp [hslot] at hid
      constructor
      · exact fun h => ⟨h.1, hne h.1, h.2⟩
      · exact fun h => ⟨h.1, h.2.2⟩
    | some known =>
      simp only [evict, hslot, ih, ExtTreeMap.getElem?_erase, LawfulEqCmp.compare_eq_iff_eq]
      by_cases hid : slot = id
      · simp [hid]
      · simp [hid]

/-- The owners of evicted slots are forgotten, all others stay. -/
theorem owners_evict (index : Index) (places : List (UInt64 × SlotId)) (owner : TxHash)
    (id : SlotId) :
    (index.evict places).2.owners[owner]? = some id ↔
      index.owners[owner]? = some id ∧
        ∀ place ∈ places, ∀ block, index.slots[place.2]? ≠ some ⟨owner, block⟩ := by
  induction places generalizing index with
  | nil => simp [evict]
  | cons place places ih =>
    obtain ⟨block, slot⟩ := place
    simp only [List.forall_mem_cons]
    cases hslot : index.slots[slot]? with
    | none => simp [evict, hslot, ih]
    | some known =>
      obtain ⟨owner', block'⟩ := known
      simp only [evict, hslot, ih, ExtTreeMap.getElem?_erase, LawfulEqCmp.compare_eq_iff_eq]
      by_cases howner : owner' = owner
      · simp [howner]
      · have hplace : ∀ (place : UInt64 × SlotId) (b : UInt64),
            (if slot = place.2 then none else index.slots[place.2]?) ≠ some ⟨owner, b⟩ ↔
              index.slots[place.2]? ≠ some ⟨owner, b⟩ := by
          intro place b
          by_cases hid : slot = place.2
          · simp [← hid, hslot, howner]
          · simp [hid]
        simp [howner, hplace]

/-- Slots that are listed once are evicted in the order of the list. -/
theorem evicted_evict (index : Index) {places : List (UInt64 × SlotId)}
    (hnodup : (places.map Prod.snd).Nodup) :
    (index.evict places).1 = places.filterMap index.eviction := by
  induction places generalizing index with
  | nil => rfl
  | cons place places ih =>
    obtain ⟨block, slot⟩ := place
    simp only [List.map_cons, List.nodup_cons] at hnodup
    cases hslot : index.slots[slot]? with
    | none =>
      have hnone : index.eviction (block, slot) = none := by simp [eviction, hslot]
      simp only [evict, hslot, ih index hnodup.2, List.filterMap_cons_none hnone]
    | some tracked =>
      have hsome : index.eviction (block, slot) = some ⟨slot, tracked.owner, block⟩ := by
        simp [eviction, hslot]
      simp only [evict, hslot, ih _ hnodup.2, List.filterMap_cons_some hsome, List.cons.injEq,
        true_and]
      refine List.filterMap_congr fun place hplace => ?_
      have hne : ¬slot = place.2 := by
        rintro rfl
        exact hnodup.1 (List.mem_map_of_mem hplace)
      simp [eviction, ExtTreeMap.getElem?_erase, hne]

/-- The order in which a sweep goes through the slots: by block, then by id. -/
def SweptBefore (a b : UInt64 × SlotId) : Prop :=
  a.1 < b.1 ∨ a.1 = b.1 ∧ a.2 < b.2

/-- The slots of the groups are the slots in some group. -/
theorem mem_grouped {groups : ExtTreeMap UInt64 (ExtTreeSet SlotId)} {block : UInt64}
    {id : SlotId} : (block, id) ∈ grouped groups ↔ InGroup groups block id := by
  simp only [grouped, List.mem_flatMap, List.mem_map, Prod.mk.injEq, Prod.exists, InGroup]
  constructor
  · rintro ⟨block', ids, hids, id', hid, rfl, rfl⟩
    exact ⟨ids, ExtTreeMap.mem_toList_iff_getElem?_eq_some.mp hids, ExtTreeSet.mem_toList.mp hid⟩
  · rintro ⟨ids, hids, hid⟩
    exact ⟨block, ids, ExtTreeMap.mem_toList_iff_getElem?_eq_some.mpr hids, id,
      ExtTreeSet.mem_toList.mpr hid, rfl, rfl⟩

/-- The slots of the groups are listed in the order of a sweep. -/
theorem pairwise_grouped (groups : ExtTreeMap UInt64 (ExtTreeSet SlotId)) :
    (grouped groups).Pairwise SweptBefore := by
  rw [grouped, List.pairwise_flatMap]
  constructor
  · rintro ⟨block, ids⟩ -
    rw [List.pairwise_map]
    refine ExtTreeSet.ordered_toList.imp fun hlt => ?_
    exact Or.inr ⟨rfl, Nat.compare_eq_lt.mp hlt⟩
  · refine ExtTreeMap.ordered_keys_toList.imp fun hlt => ?_
    intro place hplace place' hplace'
    obtain ⟨id, -, rfl⟩ := List.mem_map.mp hplace
    obtain ⟨id', -, rfl⟩ := List.mem_map.mp hplace'
    exact Or.inl (Std.compare_eq_lt.mp hlt)

/-- Nothing is swept before itself. -/
theorem SweptBefore.ne {a b : UInt64 × SlotId} (h : SweptBefore a b) : a ≠ b := by
  rintro rfl
  rcases h with hlt | ⟨-, hlt⟩
  · exact UInt64.lt_irrefl _ hlt
  · exact Nat.lt_irrefl _ hlt

/-- Of two places only one is swept before the other. -/
theorem SweptBefore.asymm {a b : UInt64 × SlotId} (h : SweptBefore a b) : ¬SweptBefore b a := by
  rintro (hlt | ⟨hblock, hlt⟩)
  · rcases h with hlt' | ⟨hblock', -⟩
    · exact UInt64.lt_asymm hlt hlt'
    · rw [hblock'] at hlt
      exact UInt64.lt_irrefl _ hlt
  · rcases h with hlt' | ⟨-, hlt'⟩
    · rw [hblock] at hlt'
      exact UInt64.lt_irrefl _ hlt'
    · exact Nat.lt_asymm hlt hlt'

/-- Slots in the order of a sweep are told by which slots they are. -/
theorem eq_of_sweptBefore {slots slots' : List Evicted}
    (hsorted : slots.Pairwise fun a b => SweptBefore (a.block, a.id) (b.block, b.id))
    (hsorted' : slots'.Pairwise fun a b => SweptBefore (a.block, a.id) (b.block, b.id))
    (hmem : ∀ slot, slot ∈ slots ↔ slot ∈ slots') : slots = slots' := by
  have hnodup : ∀ {slots : List Evicted},
      (slots.Pairwise fun a b => SweptBefore (a.block, a.id) (b.block, b.id)) → slots.Nodup :=
    fun hsorted => hsorted.imp fun hbefore heq => hbefore.ne (by rw [heq])
  refine List.Perm.eq_of_pairwise ?_ hsorted hsorted'
    ((List.perm_ext_iff_of_nodup (hnodup hsorted) (hnodup hsorted')).mpr hmem)
  exact fun a b _ _ hbefore hafter => absurd hafter hbefore.asymm

/-- The groups a sweep takes out. -/
def finalGroups (index : Index) (finalized : UInt64) :
    ExtTreeMap UInt64 (ExtTreeSet SlotId) :=
  index.groups.filter fun block _ => block ≤ finalized

section Filter

variable {groups : ExtTreeMap UInt64 (ExtTreeSet SlotId)} {keep : UInt64 → Bool}

/-- Whole groups are kept or dropped. -/
theorem getElem?_filter_groups {block : UInt64} {ids : ExtTreeSet SlotId} :
    (groups.filter fun block _ => keep block)[block]? = some ids ↔
      groups[block]? = some ids ∧ keep block = true := by
  rw [ExtTreeMap.getElem?_filter', Option.filter_eq_some_iff]

/-- A slot stays in its group when the group is kept. -/
theorem inGroup_filter {block : UInt64} {id : SlotId} :
    InGroup (groups.filter fun block _ => keep block) block id ↔
      InGroup groups block id ∧ keep block = true := by
  simp only [InGroup, getElem?_filter_groups]
  constructor
  · rintro ⟨ids, ⟨hids, hkeep⟩, hid⟩
    exact ⟨⟨ids, hids, hid⟩, hkeep⟩
  · rintro ⟨⟨ids, hids, hid⟩, hkeep⟩
    exact ⟨ids, ⟨hids, hkeep⟩, hid⟩

end Filter

/-- A sweep leaves the groups behind the finalized block as they are. -/
theorem inGroup_splitFinalized {index : Index} {finalized block : UInt64} {id : SlotId} :
    InGroup (index.splitFinalized finalized).2.groups block id ↔
      InGroup index.groups block id ∧ finalized < block := by
  rw [Index.splitFinalized, groups_evict, inGroup_filter, decide_eq_true_iff]

namespace Grounded

variable {index : Index} (h : index.Grounded) (finalized : UInt64)

include h

/-- The slots of the final groups are the tracked slots at or below the finalized block. -/
theorem mem_grouped_finalGroups {block : UInt64} {id : SlotId} :
    (block, id) ∈ grouped (index.finalGroups finalized) ↔
      block ≤ finalized ∧ ∃ owner, index.slots[id]? = some ⟨owner, block⟩ := by
  rw [mem_grouped, finalGroups, inGroup_filter, h.group_iff, decide_eq_true_iff, and_comm]

/-- No slot is in two groups, so none is listed twice. -/
theorem nodup_grouped_finalGroups :
    ((grouped (index.finalGroups finalized)).map Prod.snd).Nodup := by
  rw [List.Nodup, List.pairwise_map]
  refine (pairwise_grouped _).imp_of_mem ?_
  rintro ⟨block, id⟩ ⟨block', id'⟩ hmem hmem' hbefore hid
  dsimp only at hid
  subst hid
  obtain ⟨-, owner, hslot⟩ := (h.mem_grouped_finalGroups finalized).mp hmem
  obtain ⟨-, owner', hslot'⟩ := (h.mem_grouped_finalGroups finalized).mp hmem'
  rw [hslot] at hslot'
  simp only [Option.some.injEq, Tracked.mk.injEq] at hslot'
  exact hbefore.ne (by rw [hslot'.2])

/-- What a sweep leaves of the slots. -/
theorem slots_splitFinalized {id : SlotId} {tracked : Tracked} :
    (index.splitFinalized finalized).2.slots[id]? = some tracked ↔
      index.slots[id]? = some tracked ∧ finalized < tracked.block := by
  obtain ⟨owner, block⟩ := tracked
  simp only [splitFinalized, slots_evict, and_congr_right_iff]
  intro hslot
  constructor
  · intro hnone
    by_contra hle
    have hmem := (h.mem_grouped_finalGroups finalized).mpr
      ⟨UInt64.not_lt.mp hle, owner, hslot⟩
    exact hnone _ hmem rfl
  · rintro hlt ⟨block', id'⟩ hmem rfl
    obtain ⟨hle, owner', hslot'⟩ := (h.mem_grouped_finalGroups finalized).mp hmem
    dsimp only at hslot
    rw [hslot] at hslot'
    simp only [Option.some.injEq, Tracked.mk.injEq] at hslot'
    rw [← hslot'.2] at hle
    exact UInt64.not_lt.mpr hle hlt

/-- A sweep leaves a grounded index. -/
theorem splitFinalized : (index.splitFinalized finalized).2.Grounded where
  slot_of_owner owner id hslotOf := by
    simp only [Index.splitFinalized, owners_evict] at hslotOf
    obtain ⟨howner, hnone⟩ := hslotOf
    obtain ⟨block, hslot⟩ := h.slot_of_owner owner id howner
    refine ⟨block, (h.slots_splitFinalized finalized).mpr ⟨hslot, ?_⟩⟩
    by_contra hle
    have hmem := (h.mem_grouped_finalGroups finalized).mpr ⟨UInt64.not_lt.mp hle, owner, hslot⟩
    exact hnone _ hmem block hslot
  group_iff block id := by
    rw [inGroup_splitFinalized, h.group_iff]
    simp only [h.slots_splitFinalized]
    exact ⟨fun ⟨⟨owner, hslot⟩, hlt⟩ => ⟨owner, hslot, hlt⟩,
      fun ⟨owner, hslot, hlt⟩ => ⟨⟨owner, hslot⟩, hlt⟩⟩
  noneEmpty block ids hids := by
    rw [Index.splitFinalized, groups_evict, getElem?_filter_groups] at hids
    exact h.noneEmpty block ids hids.1

/-- A sweep lists the slots at or below the finalized block in order. -/
theorem evicted_splitFinalized :
    (index.splitFinalized finalized).1 =
      (grouped (index.finalGroups finalized)).filterMap index.eviction :=
  evicted_evict _ (h.nodup_grouped_finalGroups finalized)

/-- A sweep evicts exactly the tracked slots at or below the finalized block. -/
theorem mem_evicted_iff {slot : Evicted} :
    slot ∈ (index.splitFinalized finalized).1 ↔
      index.slots[slot.id]? = some ⟨slot.owner, slot.block⟩ ∧ slot.block ≤ finalized := by
  obtain ⟨id, owner, block⟩ := slot
  rw [h.evicted_splitFinalized, List.mem_filterMap]
  constructor
  · rintro ⟨⟨block', id'⟩, hmem, hevicted⟩
    obtain ⟨hle, owner', hslot⟩ := (h.mem_grouped_finalGroups finalized).mp hmem
    simp only [eviction, hslot, Option.map_some, Option.some.injEq, Evicted.mk.injEq] at hevicted
    obtain ⟨rfl, rfl, rfl⟩ := hevicted
    exact ⟨hslot, hle⟩
  · rintro ⟨hslot, hle⟩
    dsimp only at hslot hle
    refine ⟨(block, id), (h.mem_grouped_finalGroups finalized).mpr ⟨hle, owner, hslot⟩, ?_⟩
    simp [eviction, hslot]

/-- No slot is evicted twice. -/
theorem nodup_evicted : ((index.splitFinalized finalized).1.map Evicted.id).Nodup := by
  rw [h.evicted_splitFinalized, List.Nodup, List.pairwise_map, List.pairwise_filterMap]
  have hnodup := h.nodup_grouped_finalGroups finalized
  rw [List.Nodup, List.pairwise_map] at hnodup
  refine hnodup.imp ?_
  rintro ⟨block, id⟩ ⟨block', id'⟩ hne slot hslot slot' hslot'
  obtain ⟨tracked, -, rfl⟩ := Option.map_eq_some_iff.mp hslot
  obtain ⟨tracked', -, rfl⟩ := Option.map_eq_some_iff.mp hslot'
  exact hne

/-- A slot is evicted when the index has it at or below the finalized block. -/
theorem exists_evicted_iff {id : SlotId} :
    (∃ slot ∈ (index.splitFinalized finalized).1, slot.id = id) ↔
      ∃ owner block, index.slots[id]? = some ⟨owner, block⟩ ∧ block ≤ finalized := by
  constructor
  · rintro ⟨slot, hslot, rfl⟩
    exact ⟨slot.owner, slot.block, (h.mem_evicted_iff finalized).mp hslot⟩
  · rintro ⟨owner, block, hslot, hle⟩
    exact ⟨⟨id, owner, block⟩, (h.mem_evicted_iff finalized).mpr ⟨hslot, hle⟩, rfl⟩

/-- A slot the index has is evicted when its block is at or below the finalized one. -/
theorem mem_evicted_ids_iff {id : SlotId} {tracked : Tracked}
    (hslot : index.slots[id]? = some tracked) :
    id ∈ (index.splitFinalized finalized).1.map Evicted.id ↔ tracked.block ≤ finalized := by
  rw [List.mem_map, h.exists_evicted_iff]
  constructor
  · rintro ⟨owner, block, hslot', hle⟩
    rw [hslot, Option.some.injEq] at hslot'
    rwa [hslot']
  · exact fun hle => ⟨_, _, hslot, hle⟩

/-- After a sweep the index knows neither the evicted slots nor those it did not know before. -/
theorem slots_splitFinalized_eq_none_iff {id : SlotId} :
    (index.splitFinalized finalized).2.slots[id]? = none ↔
      index.slots[id]? = none ∨ ∃ slot ∈ (index.splitFinalized finalized).1, slot.id = id := by
  rw [h.exists_evicted_iff, Option.eq_none_iff_forall_ne_some]
  constructor
  · intro hgone
    cases hknown : index.slots[id]? with
    | none => exact Or.inl rfl
    | some tracked =>
      refine Or.inr ⟨tracked.owner, tracked.block, rfl, ?_⟩
      by_contra hlt
      exact hgone tracked ((h.slots_splitFinalized finalized).mpr ⟨hknown, UInt64.not_le.mp hlt⟩)
  · intro hgone tracked hslot
    obtain ⟨hknown, hlt⟩ := (h.slots_splitFinalized finalized).mp hslot
    rcases hgone with hnone | ⟨owner, block, hknown', hle⟩
    · simp [hnone] at hknown
    · rw [hknown, Option.some.injEq] at hknown'
      subst hknown'
      exact UInt64.not_lt.mpr hle hlt

/-- A sweep evicts by block and then by id. -/
theorem pairwise_evicted :
    (index.splitFinalized finalized).1.Pairwise fun a b =>
      SweptBefore (a.block, a.id) (b.block, b.id) := by
  rw [h.evicted_splitFinalized, List.pairwise_filterMap]
  refine (pairwise_grouped _).imp ?_
  rintro ⟨block, id⟩ ⟨block', id'⟩ hbefore slot hslot slot' hslot'
  obtain ⟨tracked, -, rfl⟩ := Option.map_eq_some_iff.mp hslot
  obtain ⟨tracked', -, rfl⟩ := Option.map_eq_some_iff.mp hslot'
  exact hbefore

end Grounded

/-- A sweep leaves a consistent index. -/
theorem Consistent.splitFinalized {index : Index} (h : index.Consistent) (finalized : UInt64) :
    (index.splitFinalized finalized).2.Consistent := by
  refine (h.grounded.splitFinalized finalized).consistent fun owner block id hslot => ?_
  obtain ⟨hslot, hlt⟩ := (h.grounded.slots_splitFinalized finalized).mp hslot
  simp only [Index.splitFinalized, owners_evict]
  refine ⟨(h.owner_iff owner id).mpr ⟨block, hslot⟩, ?_⟩
  rintro ⟨block', id'⟩ hmem block'' hslot''
  obtain ⟨hle, owner', hslot'⟩ := (h.grounded.mem_grouped_finalGroups finalized).mp hmem
  dsimp only at hslot''
  have hid := h.slot_unique hslot hslot''
  subst hid
  rw [hslot] at hslot'
  simp only [Option.some.injEq, Tracked.mk.injEq] at hslot'
  rw [← hslot'.2] at hle
  exact UInt64.not_lt.mpr hle hlt

/-- A block is behind the later of two blocks when it is behind both. -/
theorem max_lt_iff {first last block : UInt64} :
    max first last < block ↔ first < block ∧ last < block := by
  change (if first ≤ last then last else first) < block ↔ _
  split
  · rename_i hle
    exact ⟨fun hlt => ⟨UInt64.lt_of_le_of_lt hle hlt, hlt⟩, And.right⟩
  · rename_i hgt
    rw [UInt64.not_le] at hgt
    exact ⟨fun hlt => ⟨hlt, UInt64.lt_trans hgt hlt⟩, And.left⟩

section Twice

variable {index : Index} (first last : UInt64)

/-- What is left after two sweeps is what one sweep up to the later block leaves. -/
theorem Grounded.slots_splitFinalized_max (h : index.Grounded) :
    ((index.splitFinalized first).2.splitFinalized last).2.slots =
      (index.splitFinalized (max first last)).2.slots := by
  apply ExtTreeMap.ext_getElem?
  intro id
  apply Option.ext
  intro tracked
  rw [(h.splitFinalized first).slots_splitFinalized, h.slots_splitFinalized,
    h.slots_splitFinalized, max_lt_iff, and_assoc]

/-- Two sweeps leave the index that one sweep up to the later block leaves. -/
theorem Consistent.splitFinalized_max (h : index.Consistent) :
    ((index.splitFinalized first).2.splitFinalized last).2 =
      (index.splitFinalized (max first last)).2 :=
  (h.splitFinalized (max first last)).ext ((h.splitFinalized first).splitFinalized last)
    (h.grounded.slots_splitFinalized_max first last)

/-- A slot is listed once. -/
theorem Grounded.nodup_splitFinalized (h : index.Grounded) :
    (index.splitFinalized first).1.Nodup :=
  List.Nodup.of_map _ (h.nodup_evicted first)

/-- Two sweeps evict together what one sweep up to the later block evicts. -/
theorem Grounded.perm_evicted_max (h : index.Grounded) :
    ((index.splitFinalized first).1 ++ ((index.splitFinalized first).2.splitFinalized last).1).Perm
      (index.splitFinalized (max first last)).1 := by
  have hnext := h.splitFinalized first
  rw [List.perm_ext_iff_of_nodup]
  · intro slot
    rw [List.mem_append, hnext.mem_evicted_iff, h.mem_evicted_iff, h.mem_evicted_iff,
      h.slots_splitFinalized]
    simp only [← UInt64.not_lt, max_lt_iff]
    tauto
  · refine List.Nodup.append (h.nodup_splitFinalized first) (hnext.nodup_splitFinalized last) ?_
    intro slot hslot hslot'
    have hle := ((h.mem_evicted_iff first).mp hslot).2
    have hleft := ((hnext.mem_evicted_iff last).mp hslot').1
    exact UInt64.not_lt.mpr hle ((h.slots_splitFinalized first).mp hleft).2
  · exact h.nodup_splitFinalized (max first last)

end Twice

end BlobLimbo.Index
