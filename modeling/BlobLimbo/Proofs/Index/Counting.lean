import BlobLimbo.Proofs.Index.Sweep
import Mathlib.Data.Set.Card

/-!
# Counting transactions, slots and blocks

In a consistent index transactions and slots are as many, since each has one of the other. The
groups are as many as there are blocks with a transaction. A sweep lists as many slots as there are
at or below the finalized block, and together with what it leaves they make up what there was.
-/

namespace BlobLimbo.Index

open Std

/-- The slots above a block. -/
def slotsAbove (index : Index) (block : UInt64) : ExtTreeMap SlotId Tracked :=
  index.slots.filter fun _ tracked => block < tracked.block

/-- The slots at or below a block. -/
def slotsUpTo (index : Index) (block : UInt64) : ExtTreeMap SlotId Tracked :=
  index.slots.filter fun _ tracked => tracked.block ≤ block

/-- What is known about a slot above a block. -/
theorem getElem?_slotsAbove {index : Index} {block : UInt64} {id : SlotId} {tracked : Tracked} :
    (index.slotsAbove block)[id]? = some tracked ↔
      index.slots[id]? = some tracked ∧ block < tracked.block := by
  rw [slotsAbove, ExtTreeMap.getElem?_filter', Option.filter_eq_some_iff, decide_eq_true_iff]

/-- What is known about a slot at or below a block. -/
theorem getElem?_slotsUpTo {index : Index} {block : UInt64} {id : SlotId} {tracked : Tracked} :
    (index.slotsUpTo block)[id]? = some tracked ↔
      index.slots[id]? = some tracked ∧ tracked.block ≤ block := by
  rw [slotsUpTo, ExtTreeMap.getElem?_filter', Option.filter_eq_some_iff, decide_eq_true_iff]

/-- Every slot is above a block or not. -/
theorem size_slotsUpTo_add (index : Index) (block : UInt64) :
    (index.slotsUpTo block).size + (index.slotsAbove block).size = index.slots.size := by
  simp only [slotsUpTo, slotsAbove, ← ExtTreeMap.length_toList, ExtTreeMap.toList_filter,
    ← List.countP_eq_length_filter]
  rw [List.length_eq_countP_add_countP (fun entry => decide (entry.2.block ≤ block))]
  simp only [decide_eq_true_eq, UInt64.not_le]

/-- The number of transactions is the number of those with a slot. -/
theorem size_eq_ncard (index : Index) : index.size = {tx | index.contains tx = true}.ncard := by
  have hkeys : {tx | index.contains tx = true} = (index.owners.keys.toFinset : Set TxHash) := by
    ext tx
    simp [contains]
  rw [hkeys, Set.ncard_coe_finset, List.toFinset_card_of_nodup ExtTreeMap.nodup_keys,
    ExtTreeMap.length_keys, size]

namespace Consistent

variable {index : Index} (h : index.Consistent)

include h

/-- Some slots of the index have as many owners. -/
theorem nodup_owners {slots : ExtTreeMap SlotId Tracked}
    (hslots : ∀ (id : SlotId) (tracked : Tracked), slots[id]? = some tracked →
      index.slots[id]? = some tracked) :
    (slots.toList.map fun entry => entry.2.owner).Nodup := by
  rw [List.Nodup, List.pairwise_map]
  refine ExtTreeMap.distinct_keys_toList.imp_of_mem ?_
  rintro ⟨id, owner, block⟩ ⟨id', owner', block'⟩ hmem hmem' hne howner
  rw [ExtTreeMap.mem_toList_iff_getElem?_eq_some] at hmem hmem'
  dsimp only at howner
  subst howner
  rw [h.slot_unique (hslots _ _ hmem) (hslots _ _ hmem')] at hne
  exact hne compare_self

/-- There are as many slots as transactions. -/
theorem size_eq : index.size = index.slots.size := by
  have hperm : (index.slots.toList.map fun entry => entry.2.owner).Perm index.owners.keys := by
    rw [List.perm_ext_iff_of_nodup (h.nodup_owners fun _ _ => id) ExtTreeMap.nodup_keys]
    intro tx
    rw [List.mem_map, ExtTreeMap.mem_keys, ExtTreeMap.mem_iff_isSome_getElem?,
      Option.isSome_iff_exists]
    constructor
    · rintro ⟨⟨id, owner, block⟩, hmem, rfl⟩
      rw [ExtTreeMap.mem_toList_iff_getElem?_eq_some] at hmem
      exact ⟨id, (h.owner_iff owner id).mpr ⟨block, hmem⟩⟩
    · rintro ⟨id, howner⟩
      obtain ⟨block, hslot⟩ := (h.owner_iff tx id).mp howner
      exact ⟨(id, ⟨tx, block⟩), ExtTreeMap.mem_toList_iff_getElem?_eq_some.mpr hslot, rfl⟩
  rw [size, ← ExtTreeMap.length_keys, ← hperm.length_eq, List.length_map, ExtTreeMap.length_toList]

/-- The block of a transaction is that of its slot. -/
theorem blockOf_eq_some_iff {tx : TxHash} {block : UInt64} :
    ((index.slotOf tx).bind index.slot).map Tracked.block = some block ↔
      ∃ id : SlotId, index.slots[id]? = some ⟨tx, block⟩ := by
  simp only [Option.map_eq_some_iff, Option.bind_eq_some_iff, slotOf, slot]
  constructor
  · rintro ⟨⟨owner, _⟩, ⟨id, howner, hslot⟩, rfl⟩
    obtain ⟨block, hslot'⟩ := (h.owner_iff tx id).mp howner
    rw [hslot] at hslot'
    rw [Option.some.injEq, Tracked.mk.injEq] at hslot'
    obtain ⟨rfl, rfl⟩ := hslot'
    exact ⟨id, hslot⟩
  · rintro ⟨id, hslot⟩
    exact ⟨⟨tx, block⟩, ⟨id, (h.owner_iff tx id).mpr ⟨block, hslot⟩, hslot⟩, rfl⟩

/-- There are as many groups as blocks with a transaction. -/
theorem length_groupSizes : index.groupSizes.length =
    {block | ∃ tx, ((index.slotOf tx).bind index.slot).map Tracked.block = some block}.ncard := by
  have hkeys :
      {block | ∃ tx, ((index.slotOf tx).bind index.slot).map Tracked.block = some block} =
        (index.groups.keys.toFinset : Set UInt64) := by
    ext block
    simp only [Set.mem_ofPred_eq, List.coe_toFinset, ExtTreeMap.mem_keys, h.blockOf_eq_some_iff,
      ExtTreeMap.mem_iff_isSome_getElem?, Option.isSome_iff_exists]
    constructor
    · rintro ⟨tx, id, hslot⟩
      obtain ⟨ids, hids, -⟩ := (h.group_iff block id).mpr ⟨tx, hslot⟩
      exact ⟨ids, hids⟩
    · rintro ⟨ids, hids⟩
      obtain ⟨id, hid⟩ := exists_mem_of_ne_empty (h.noneEmpty block ids hids)
      obtain ⟨tx, hslot⟩ := (h.group_iff block id).mp ⟨ids, hids, hid⟩
      exact ⟨tx, id, hslot⟩
  rw [hkeys, Set.ncard_coe_finset, List.toFinset_card_of_nodup ExtTreeMap.nodup_keys,
    groupSizes, List.length_map, ExtTreeMap.length_toList, ExtTreeMap.length_keys]

/-- There are as many slots at or below a block as transactions. -/
theorem size_slotsUpTo (block : UInt64) : (index.slotsUpTo block).size =
    {tx | ∃ other, ((index.slotOf tx).bind index.slot).map Tracked.block = some other ∧
      other ≤ block}.ncard := by
  have howners :
      {tx | ∃ other, ((index.slotOf tx).bind index.slot).map Tracked.block = some other ∧
        other ≤ block} =
      (((index.slotsUpTo block).toList.map fun entry => entry.2.owner).toFinset : Set TxHash) := by
    ext tx
    simp only [Set.mem_ofPred_eq, List.coe_toFinset, List.mem_map, h.blockOf_eq_some_iff]
    constructor
    · rintro ⟨other, ⟨id, hslot⟩, hle⟩
      exact ⟨(id, ⟨tx, other⟩), ExtTreeMap.mem_toList_iff_getElem?_eq_some.mpr
        (getElem?_slotsUpTo.mpr ⟨hslot, hle⟩), rfl⟩
    · rintro ⟨⟨id, owner, other⟩, hmem, rfl⟩
      obtain ⟨hslot, hle⟩ :=
        getElem?_slotsUpTo.mp (ExtTreeMap.mem_toList_iff_getElem?_eq_some.mp hmem)
      exact ⟨other, ⟨id, hslot⟩, hle⟩
  rw [howners, Set.ncard_coe_finset, List.toFinset_card_of_nodup, List.length_map,
    ExtTreeMap.length_toList]
  exact h.nodup_owners fun _ _ hslot => (getElem?_slotsUpTo.mp hslot).1

/-- A new slot makes one transaction more. -/
theorem size_of_insert {next : Index} (hnext : next.Consistent) {id : SlotId} {tracked : Tracked}
    (hid : index.slots[id]? = none) (hslots : next.slots = index.slots.insert id tracked) :
    next.size = index.size + 1 := by
  have hfresh : index.slots.contains id = false := by
    rw [ExtTreeMap.contains_eq_isSome_getElem?, hid]
    rfl
  rw [hnext.size_eq, h.size_eq, hslots, ExtTreeMap.size_insert, hfresh]
  rfl

/-- A slot that is forgotten makes one transaction less. -/
theorem size_remove {owner : TxHash} {block : UInt64} {id : SlotId}
    (hid : index.slots[id]? = some ⟨owner, block⟩) :
    (index.remove owner block id).size + 1 = index.size := by
  obtain ⟨hconsistent, hslots⟩ := h.remove hid
  have hknown : index.slots.contains id = true := by
    rw [ExtTreeMap.contains_eq_isSome_getElem?, hid]
    rfl
  have hpos : 0 < index.slots.size := by
    rw [Nat.pos_iff_ne_zero, ne_eq, ← ExtTreeMap.eq_empty_iff_size_eq_zero]
    intro hempty
    simp [hempty] at hid
  rw [hconsistent.size_eq, h.size_eq, hslots, ExtTreeMap.size_erase, if_pos hknown]
  omega

variable (finalized : UInt64)

/-- A sweep leaves the slots above the finalized block. -/
theorem slots_splitFinalized_eq :
    (index.splitFinalized finalized).2.slots = index.slotsAbove finalized := by
  apply ExtTreeMap.ext_getElem?
  intro id
  apply Option.ext
  intro tracked
  rw [h.grounded.slots_splitFinalized, getElem?_slotsAbove]

/-- A sweep lists as many slots as there are at or below the finalized block. -/
theorem length_evicted :
    (index.splitFinalized finalized).1.length = (index.slotsUpTo finalized).size := by
  have hperm : ((index.splitFinalized finalized).1.map Evicted.id).Perm
      (index.slotsUpTo finalized).keys := by
    rw [List.perm_ext_iff_of_nodup (h.grounded.nodup_evicted finalized) ExtTreeMap.nodup_keys]
    intro id
    rw [List.mem_map, h.grounded.exists_evicted_iff, ExtTreeMap.mem_keys,
      ExtTreeMap.mem_iff_isSome_getElem?, Option.isSome_iff_exists]
    simp only [getElem?_slotsUpTo]
    exact ⟨fun ⟨owner, block, hslot⟩ => ⟨⟨owner, block⟩, hslot⟩,
      fun ⟨tracked, hslot⟩ => ⟨tracked.owner, tracked.block, hslot⟩⟩
  rw [← List.length_map Evicted.id, hperm.length_eq, ExtTreeMap.length_keys]

/-- What a sweep lists and what it leaves make up what there was. -/
theorem length_evicted_add_size :
    (index.splitFinalized finalized).1.length + (index.splitFinalized finalized).2.size =
      index.size := by
  rw [h.length_evicted, (h.splitFinalized finalized).size_eq, h.slots_splitFinalized_eq, h.size_eq,
    size_slotsUpTo_add]

end Consistent

end BlobLimbo.Index
