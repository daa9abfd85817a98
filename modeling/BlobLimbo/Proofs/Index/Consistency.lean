import BlobLimbo.Index
import Mathlib.Tactic.ByContra

/-!
# Consistent indices

An index says three times which slot belongs to whom. It is consistent when the three maps agree;
then the map of slots alone determines it (`Consistent.ext`). Registering a new slot and forgetting
a slot under its own owner and block keep an index consistent.

A slot may also be forgotten under an owner and a block that are not its own, when its record was
changed behind the index. The index stays grounded then: what it says of an owner is true, although
an owner may have been forgotten whose slot is still there.
-/

namespace BlobLimbo.Index

open Std

/-- A slot is in the group of a block. -/
def InGroup (groups : ExtTreeMap UInt64 (ExtTreeSet SlotId)) (block : UInt64) (id : SlotId) :
    Prop :=
  ∃ ids, groups[block]? = some ids ∧ id ∈ ids

/-- Every group has a slot. -/
def NoneEmpty (groups : ExtTreeMap UInt64 (ExtTreeSet SlotId)) : Prop :=
  ∀ (block : UInt64) (ids : ExtTreeSet SlotId), groups[block]? = some ids → ids ≠ ∅

/-- A group that is not empty has a slot. -/
theorem exists_mem_of_ne_empty {ids : ExtTreeSet SlotId} (h : ids ≠ ∅) : ∃ id, id ∈ ids := by
  by_contra hnone
  apply h
  apply ExtTreeSet.ext_mem
  intro id
  simp only [not_exists] at hnone
  simp [hnone id]

/-- A slot occurs somewhere in an index. -/
def Names (index : Index) (id : SlotId) : Prop :=
  index.slots[id]? ≠ none ∨ (∃ owner : TxHash, index.owners[owner]? = some id) ∨
    ∃ block, InGroup index.groups block id

/-- The three maps of an index agree. -/
structure Consistent (index : Index) : Prop where
  owner_iff : ∀ (owner : TxHash) (id : SlotId), index.owners[owner]? = some id ↔
    ∃ block, index.slots[id]? = some ⟨owner, block⟩
  group_iff : ∀ (block : UInt64) (id : SlotId), InGroup index.groups block id ↔
    ∃ owner, index.slots[id]? = some ⟨owner, block⟩
  noneEmpty : NoneEmpty index.groups

/-- Every transaction with a slot is the owner of that slot, and the groups are those of the slots.
The owner of a slot may have another slot, or none. -/
structure Grounded (index : Index) : Prop where
  slot_of_owner : ∀ (owner : TxHash) (id : SlotId), index.owners[owner]? = some id →
    ∃ block, index.slots[id]? = some ⟨owner, block⟩
  group_iff : ∀ (block : UInt64) (id : SlotId), InGroup index.groups block id ↔
    ∃ owner, index.slots[id]? = some ⟨owner, block⟩
  noneEmpty : NoneEmpty index.groups

/-- A consistent index is grounded. -/
theorem Consistent.grounded {index : Index} (h : index.Consistent) : index.Grounded where
  slot_of_owner owner id := (h.owner_iff owner id).mp
  group_iff := h.group_iff
  noneEmpty := h.noneEmpty

/-- A grounded index is consistent when the owner of every slot has that slot. -/
theorem Grounded.consistent {index : Index} (h : index.Grounded)
    (howners : ∀ (owner : TxHash) (block : UInt64) (id : SlotId),
      index.slots[id]? = some ⟨owner, block⟩ → index.owners[owner]? = some id) :
    index.Consistent where
  owner_iff owner id :=
    ⟨h.slot_of_owner owner id, fun ⟨block, hslot⟩ => howners owner block id hslot⟩
  group_iff := h.group_iff
  noneEmpty := h.noneEmpty

/-- What a grounded index names is one of its slots. -/
theorem Grounded.names_iff {index : Index} (h : index.Grounded) {id : SlotId} :
    index.Names id ↔ index.slots[id]? ≠ none := by
  constructor
  · rintro (hslot | ⟨owner, howner⟩ | ⟨block, hgroup⟩)
    · exact hslot
    · obtain ⟨block, hslot⟩ := h.slot_of_owner owner id howner
      simp [hslot]
    · obtain ⟨owner, hslot⟩ := (h.group_iff block id).mp hgroup
      simp [hslot]
  · exact Or.inl

/-- The empty index is consistent. -/
theorem consistent_empty : Consistent {} where
  owner_iff owner id := by simp
  group_iff block id := by simp [InGroup]
  noneEmpty block ids h := by simp at h

section Groups

variable {groups : ExtTreeMap UInt64 (ExtTreeSet SlotId)}

/-- A slot joins one group. -/
theorem inGroup_joinGroup {block block' : UInt64} {id id' : SlotId} :
    InGroup (joinGroup groups block id) block' id' ↔
      (block' = block ∧ id' = id) ∨ InGroup groups block' id' := by
  unfold InGroup joinGroup
  by_cases hblock : block' = block
  · subst hblock
    simp only [ExtTreeMap.getElem?_insert_self, Option.some.injEq, exists_eq_left',
      ExtTreeSet.mem_insert, LawfulEqCmp.compare_eq_iff_eq, true_and]
    rw [ExtTreeMap.getD_eq_getD_getElem?]
    constructor
    · rintro (rfl | hmem)
      · exact Or.inl rfl
      · cases hids : groups[block']? with
        | none => simp [hids] at hmem
        | some ids => exact Or.inr ⟨ids, rfl, by simpa [hids] using hmem⟩
    · rintro (rfl | ⟨ids, hids, hmem⟩)
      · exact Or.inl rfl
      · exact Or.inr (by simpa [hids] using hmem)
  · have hother : ¬compare block block' = .eq := by
      rw [LawfulEqCmp.compare_eq_iff_eq]
      exact fun h => hblock h.symm
    simp only [ExtTreeMap.getElem?_insert, if_neg hother, hblock, false_and, false_or]

/-- A group that is joined is not empty. -/
theorem noneEmpty_joinGroup (hgroups : NoneEmpty groups) (block : UInt64) (id : SlotId) :
    NoneEmpty (joinGroup groups block id) := by
  intro block' ids hids
  unfold joinGroup at hids
  rw [ExtTreeMap.getElem?_insert] at hids
  split at hids
  · rw [← Option.some.inj hids]
    exact ExtTreeSet.insert_ne_empty
  · exact hgroups block' ids hids

/-- A slot leaves one group. -/
theorem inGroup_leaveGroup {block block' : UInt64} {id id' : SlotId} :
    InGroup (leaveGroup groups block id) block' id' ↔
      InGroup groups block' id' ∧ ¬(block' = block ∧ id' = id) := by
  unfold leaveGroup
  cases hids : groups[block]? with
  | none =>
    simp only [iff_self_and]
    rintro ⟨ids, hids', hmem⟩ ⟨rfl, -⟩
    simp [hids] at hids'
  | some ids =>
    dsimp only
    by_cases hblock : block' = block
    · subst hblock
      simp only [true_and, InGroup, hids, Option.some.injEq, exists_eq_left']
      split
      · rename_i hempty
        rw [ExtTreeSet.isEmpty_iff] at hempty
        have hnot : id' ∉ ids.erase id := by simp [hempty]
        simp only [ExtTreeMap.getElem?_erase_self, reduceCtorEq, false_and, exists_false, false_iff]
        rintro ⟨hmem, hne⟩
        apply hnot
        rw [ExtTreeSet.mem_erase, ne_eq, LawfulEqCmp.compare_eq_iff_eq]
        exact ⟨fun h => hne h.symm, hmem⟩
      · simp only [ExtTreeMap.getElem?_insert_self, Option.some.injEq, exists_eq_left',
          ExtTreeSet.mem_erase, ne_eq, LawfulEqCmp.compare_eq_iff_eq, eq_comm (a := id)]
        exact And.comm
    · have hother : ¬compare block block' = .eq := by
        rw [LawfulEqCmp.compare_eq_iff_eq]
        exact fun h => hblock h.symm
      simp only [hblock, false_and, not_false_eq_true, and_true, InGroup]
      split
      · simp only [ExtTreeMap.getElem?_erase, if_neg hother]
      · simp only [ExtTreeMap.getElem?_insert, if_neg hother]

/-- A group that would become empty goes away. -/
theorem noneEmpty_leaveGroup (hgroups : NoneEmpty groups) (block : UInt64) (id : SlotId) :
    NoneEmpty (leaveGroup groups block id) := by
  intro block' ids' hids'
  unfold leaveGroup at hids'
  cases hids : groups[block]? with
  | none =>
    rw [hids] at hids'
    exact hgroups block' ids' hids'
  | some ids =>
    rw [hids] at hids'
    dsimp only at hids'
    split at hids'
    · rw [ExtTreeMap.getElem?_erase] at hids'
      split at hids'
      · simp at hids'
      · exact hgroups block' ids' hids'
    · rename_i hremaining
      rw [ExtTreeMap.getElem?_insert] at hids'
      split at hids'
      · rw [← Option.some.inj hids']
        simpa [ExtTreeSet.isEmpty_iff] using hremaining
      · exact hgroups block' ids' hids'

end Groups

namespace Grounded

variable {index : Index}

/-- An absent transaction gets a slot that was not in use. -/
theorem insert?_eq (h : index.Grounded) {owner : TxHash} {id : SlotId} (block : UInt64)
    (howner : index.owners[owner]? = none) (hid : index.slots[id]? = none) :
    ∃ next, index.insert? owner block id = some next ∧ next.Grounded ∧
      next.owners = index.owners.insert owner id ∧
      next.slots = index.slots.insert id ⟨owner, block⟩ := by
  have habsent : ¬index.owners.contains owner = true := by
    rw [ExtTreeMap.contains_iff_mem, ExtTreeMap.mem_iff_isSome_getElem?, howner]
    simp
  refine ⟨_, by rw [insert?, if_neg habsent], ⟨?_, ?_, ?_⟩, rfl, rfl⟩
  · intro owner' id'
    simp only [ExtTreeMap.getElem?_insert, LawfulEqCmp.compare_eq_iff_eq]
    split
    · rename_i howner'
      rintro ⟨⟩
      exact ⟨block, by rw [if_pos rfl, howner']⟩
    · intro hslotOf
      obtain ⟨block', hslot⟩ := h.slot_of_owner owner' id' hslotOf
      have hne : id ≠ id' := by
        rintro rfl
        simp [hid] at hslot
      exact ⟨block', by rw [if_neg hne, hslot]⟩
  · intro block' id'
    rw [inGroup_joinGroup, h.group_iff]
    simp only [ExtTreeMap.getElem?_insert, LawfulEqCmp.compare_eq_iff_eq]
    by_cases hid' : id = id'
    · subst hid'
      simp [hid, eq_comm]
    · simp [hid', eq_comm (a := id')]
  · exact noneEmpty_joinGroup h.noneEmpty block id

section Remove

/-- An owner that has a slot is the one the slot is known for. -/
theorem owner_eq (h : index.Grounded) {id : SlotId} {tracked : Tracked} {owner : TxHash}
    (hid : index.slots[id]? = some tracked) (howner : index.owners[owner]? = some id) :
    owner = tracked.owner := by
  obtain ⟨block, hslot⟩ := h.slot_of_owner owner id howner
  rw [hid, Option.some.injEq] at hslot
  rw [hslot]

/-- A block with a slot in its group is the one the slot is known for. -/
theorem block_eq (h : index.Grounded) {id : SlotId} {tracked : Tracked} {block : UInt64}
    (hid : index.slots[id]? = some tracked) (hgroup : InGroup index.groups block id) :
    block = tracked.block := by
  obtain ⟨owner, hslot⟩ := (h.group_iff block id).mp hgroup
  rw [hid, Option.some.injEq] at hslot
  rw [hslot]

/-- One owner is taken out. -/
theorem getElem?_erase_owner {owners : ExtTreeMap TxHash SlotId} {owner owner' : TxHash}
    {id : SlotId} : (owners.erase owner)[owner']? = some id ↔
      owners[owner']? = some id ∧ owner' ≠ owner := by
  simp only [ExtTreeMap.getElem?_erase, LawfulEqCmp.compare_eq_iff_eq]
  by_cases howner : owner = owner'
  · simp [howner]
  · simp [howner, eq_comm (a := owner')]

/-- When an owner is taken out, a slot goes with it that no other owner has. -/
theorem getElem?_erase_owner_of_only {owners : ExtTreeMap TxHash SlotId} {owner owner' : TxHash}
    {id id' : SlotId} (honly : owners[owner']? = some id → owner' = owner) :
    (owners.erase owner)[owner']? = some id' ↔
      owners[owner']? = some id' ∧ owner' ≠ owner ∧ id' ≠ id := by
  rw [getElem?_erase_owner]
  refine ⟨fun ⟨howner, hne⟩ => ⟨howner, hne, ?_⟩, fun ⟨howner, hne, _⟩ => ⟨howner, hne⟩⟩
  rintro rfl
  exact hne (honly howner)

/-- When a slot leaves a group, it is in none if it was in no other. -/
theorem inGroup_leaveGroup_of_only {groups : ExtTreeMap UInt64 (ExtTreeSet SlotId)}
    {block block' : UInt64} {id id' : SlotId}
    (honly : ∀ other, InGroup groups other id → other = block) :
    InGroup (leaveGroup groups block id) block' id' ↔ InGroup groups block' id' ∧ id' ≠ id := by
  rw [inGroup_leaveGroup]
  refine ⟨fun ⟨hgroup, hnot⟩ => ⟨hgroup, ?_⟩,
    fun ⟨hgroup, hne⟩ => ⟨hgroup, fun hboth => hne hboth.2⟩⟩
  rintro rfl
  exact hnot ⟨honly block' hgroup, rfl⟩

variable (h : index.Grounded) (owner : TxHash) (block : UInt64) (id : SlotId)

/-- A slot is forgotten, whatever owner and block are given for it. -/
theorem slots_remove : (index.remove owner block id).slots = index.slots.erase id := by
  cases hid : index.slots[id]? with
  | none =>
    simp only [Index.remove, hid]
    apply ExtTreeMap.ext_getElem?
    intro id'
    simp only [ExtTreeMap.getElem?_erase, LawfulEqCmp.compare_eq_iff_eq]
    split
    · rename_i heq
      rw [← heq, hid]
    · rfl
  | some tracked => simp only [Index.remove, hid]

/-- What is known about a slot after another one is forgotten. -/
theorem getElem?_slots_remove {id' : SlotId} {tracked : Tracked} :
    (index.remove owner block id).slots[id']? = some tracked ↔
      index.slots[id']? = some tracked ∧ id' ≠ id := by
  simp only [slots_remove, ExtTreeMap.getElem?_erase, LawfulEqCmp.compare_eq_iff_eq]
  by_cases hid' : id = id'
  · simp [hid']
  · simp [hid', eq_comm (a := id')]

include h

/-- The owner that is given is forgotten with the slot, and so is the owner of the slot. -/
theorem owners_remove {owner' : TxHash} {id' : SlotId} :
    (index.remove owner block id).owners[owner']? = some id' ↔
      index.owners[owner']? = some id' ∧ owner' ≠ owner ∧ id' ≠ id := by
  cases hid : index.slots[id]? with
  | none =>
    simp only [Index.remove, hid]
    refine getElem?_erase_owner_of_only fun howner => ?_
    obtain ⟨block', hslot⟩ := h.slot_of_owner owner' id howner
    simp [hid] at hslot
  | some tracked =>
    simp only [Index.remove, hid]
    split
    · -- The slot has another owner, who is taken out as well.
      rename_i hheld
      have hheld' := (getElem?_erase_owner.mp hheld.2).1
      rw [getElem?_erase_owner_of_only fun howner =>
        h.owner_eq hid (getElem?_erase_owner.mp howner).1, getElem?_erase_owner]
      refine ⟨fun ⟨⟨howner, hne⟩, _, hid'⟩ => ⟨howner, hne, hid'⟩,
        fun ⟨howner, hne, hid'⟩ => ⟨⟨howner, hne⟩, ?_, hid'⟩⟩
      rintro rfl
      exact hid' (Option.some.inj (howner.symm.trans hheld'))
    · rename_i hheld
      refine getElem?_erase_owner_of_only fun howner => ?_
      by_contra hne
      obtain rfl := h.owner_eq hid howner
      exact hheld ⟨hne, getElem?_erase_owner.mpr ⟨howner, hne⟩⟩

/-- The slot leaves its own group, even when another block is given for it. -/
theorem inGroup_remove {block' : UInt64} {id' : SlotId} :
    InGroup (index.remove owner block id).groups block' id' ↔
      InGroup index.groups block' id' ∧ id' ≠ id := by
  cases hid : index.slots[id]? with
  | none =>
    simp only [Index.remove, hid]
    refine inGroup_leaveGroup_of_only fun other hgroup => ?_
    obtain ⟨owner', hslot⟩ := (h.group_iff other id).mp hgroup
    simp [hid] at hslot
  | some tracked =>
    simp only [Index.remove, hid]
    split
    · rw [inGroup_leaveGroup_of_only fun other hgroup =>
        h.block_eq hid (inGroup_leaveGroup.mp hgroup).1, inGroup_leaveGroup]
      exact ⟨fun ⟨⟨hgroup, _⟩, hne⟩ => ⟨hgroup, hne⟩,
        fun ⟨hgroup, hne⟩ => ⟨⟨hgroup, fun hboth => hne hboth.2⟩, hne⟩⟩
    · rename_i hblock
      rw [ne_eq, not_not] at hblock
      rw [← hblock]
      exact inGroup_leaveGroup_of_only fun other hgroup => h.block_eq hid hgroup

/-- Forgetting a slot keeps an index grounded, whatever owner and block are given for it. -/
theorem remove : (index.remove owner block id).Grounded where
  slot_of_owner owner' id' hslotOf := by
    obtain ⟨hslotOf, -, hne⟩ := (h.owners_remove owner block id).mp hslotOf
    obtain ⟨block', hslot⟩ := h.slot_of_owner owner' id' hslotOf
    exact ⟨block', (getElem?_slots_remove owner block id).mpr ⟨hslot, hne⟩⟩
  group_iff block' id' := by
    rw [h.inGroup_remove, h.group_iff]
    simp only [getElem?_slots_remove, exists_and_right]
  noneEmpty := by
    have hleft := noneEmpty_leaveGroup h.noneEmpty block id
    unfold Index.remove
    cases index.slots[id]? with
    | none => exact hleft
    | some tracked =>
      dsimp only
      split
      · exact noneEmpty_leaveGroup hleft _ _
      · exact hleft

end Remove

end Grounded

namespace Consistent

variable {index : Index}

/-- Each transaction has one slot. -/
theorem slot_unique (h : index.Consistent) {owner : TxHash} {block block' : UInt64}
    {id id' : SlotId} (hid : index.slots[id]? = some ⟨owner, block⟩)
    (hid' : index.slots[id']? = some ⟨owner, block'⟩) : id' = id := by
  have howner := (h.owner_iff owner id).mpr ⟨block, hid⟩
  have howner' := (h.owner_iff owner id').mpr ⟨block', hid'⟩
  rw [howner] at howner'
  exact (Option.some.inj howner').symm

/-- The slots determine a consistent index. -/
theorem ext (h : index.Consistent) {other : Index} (hother : other.Consistent)
    (hslots : other.slots = index.slots) : other = index := by
  have howners : other.owners = index.owners := by
    apply ExtTreeMap.ext_getElem?
    intro owner
    apply Option.ext
    intro id
    rw [hother.owner_iff, h.owner_iff, hslots]
  have hmem : ∀ block id, InGroup other.groups block id ↔ InGroup index.groups block id := by
    intro block id
    rw [hother.group_iff, h.group_iff, hslots]
  have hgroups : other.groups = index.groups := by
    apply ExtTreeMap.ext_getElem?
    intro block
    cases hids : index.groups[block]? with
    | none =>
      rw [Option.eq_none_iff_forall_ne_some]
      intro ids hids'
      obtain ⟨id, hid⟩ := exists_mem_of_ne_empty (hother.noneEmpty block ids hids')
      obtain ⟨ids', hgroup, -⟩ := (hmem block id).mp ⟨ids, hids', hid⟩
      simp [hids] at hgroup
    | some ids =>
      obtain ⟨id, hid⟩ := exists_mem_of_ne_empty (h.noneEmpty block ids hids)
      obtain ⟨ids', hids', -⟩ := (hmem block id).mpr ⟨ids, hids, hid⟩
      rw [hids', Option.some.injEq]
      apply ExtTreeSet.ext_mem
      intro id'
      have hid' := hmem block id'
      simpa only [InGroup, hids, hids', Option.some.injEq, exists_eq_left'] using hid'
  cases other
  cases index
  simp_all

/-- An absent transaction gets a slot that was not in use. -/
theorem insert?_eq (h : index.Consistent) {owner : TxHash} {id : SlotId} (block : UInt64)
    (howner : index.owners[owner]? = none) (hid : index.slots[id]? = none) :
    ∃ next, index.insert? owner block id = some next ∧ next.Consistent ∧
      next.slots = index.slots.insert id ⟨owner, block⟩ := by
  obtain ⟨next, hnext, hgrounded, howners, hslots⟩ := h.grounded.insert?_eq block howner hid
  refine ⟨next, hnext, hgrounded.consistent fun owner' block' id' => ?_, hslots⟩
  simp only [howners, hslots, ExtTreeMap.getElem?_insert, LawfulEqCmp.compare_eq_iff_eq]
  split
  · rename_i hid'
    rintro ⟨⟩
    rw [if_pos rfl, hid']
  · intro hslot
    have hslotOf := (h.owner_iff owner' id').mpr ⟨block', hslot⟩
    have hne : owner ≠ owner' := by
      rintro rfl
      simp [howner] at hslotOf
    rw [if_neg hne, hslotOf]

/-- A slot is forgotten under its own owner and block. -/
theorem remove (h : index.Consistent) {owner : TxHash} {block : UInt64} {id : SlotId}
    (hid : index.slots[id]? = some ⟨owner, block⟩) :
    (index.remove owner block id).Consistent ∧
      (index.remove owner block id).slots = index.slots.erase id := by
  refine ⟨(h.grounded.remove owner block id).consistent fun owner' block' id' hslot => ?_,
    Grounded.slots_remove owner block id⟩
  obtain ⟨hkept, hne⟩ := (Grounded.getElem?_slots_remove owner block id).mp hslot
  refine (h.grounded.owners_remove owner block id).mpr
    ⟨(h.owner_iff owner' id').mpr ⟨block', hkept⟩, ?_, hne⟩
  rintro rfl
  exact hne (h.slot_unique hid hkept)

/-- A forgotten transaction has no slot. -/
theorem slotOf_remove (h : index.Consistent) {owner : TxHash} {block : UInt64} {id : SlotId}
    (hid : index.slots[id]? = some ⟨owner, block⟩) :
    (index.remove owner block id).slotOf owner = none := by
  obtain ⟨hconsistent, -⟩ := h.remove hid
  rw [slotOf, Option.eq_none_iff_forall_ne_some]
  intro id' howner
  obtain ⟨block', hslot⟩ := (hconsistent.owner_iff owner id').mp howner
  obtain ⟨hkept, hne⟩ := (Grounded.getElem?_slots_remove owner block id).mp hslot
  exact hne (h.slot_unique hid hkept)

end Consistent

end BlobLimbo.Index
