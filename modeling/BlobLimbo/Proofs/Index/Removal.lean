import BlobLimbo.Proofs.Index.Consistency

/-!
# Forgetting a slot under any owner

A slot is forgotten under the owner and the block of its record, and these need not be the ones the
index has for it. Whatever is given, the slot is gone from all three maps, and every other slot
keeps its owner, its block and its group. But the owner that is given is forgotten in any case: when
its slot is another one, that slot stays behind without being found under its owner. This is the
only way in which an index ceases to be consistent (`Consistent.forgotten_remove`).
-/

namespace BlobLimbo.Index

/-- What is left of an index when a slot is forgotten under an owner. -/
structure Forgotten (before : Index) (owner : TxHash) (id : SlotId) (after : Index) : Prop where
  /-- The slot is in none of the three maps. -/
  unnamed : ¬after.Names id
  /-- Every other slot has the owner and the block it had. -/
  slot_of_ne : ∀ id' : SlotId, id' ≠ id → after.slots[id']? = before.slots[id']?
  /-- Every other slot is in the groups it was in. -/
  inGroup_of_ne : ∀ (block : UInt64) (id' : SlotId), id' ≠ id →
    (InGroup after.groups block id' ↔ InGroup before.groups block id')
  /-- Every other slot is found under its owner, unless that is the owner given. -/
  owner_of_ne : ∀ (id' : SlotId) (tracked : Tracked), id' ≠ id →
    before.slots[id']? = some tracked →
      (after.owners[tracked.owner]? = some id' ↔ tracked.owner ≠ owner)
  /-- What is still said of owners and groups is true, and no group is empty. -/
  grounded : after.Grounded
  /-- The maps agree exactly when the owner given had no other slot. -/
  consistent_iff : after.Consistent ↔ ∀ id' : SlotId, before.owners[owner]? = some id' → id' = id

namespace Consistent

variable {index : Index} (h : index.Consistent)

include h

/-- A new slot for an absent owner keeps an index consistent. -/
theorem of_insert? {next : Index} {owner : TxHash} {block : UInt64} {id : SlotId}
    (hid : index.slots[id]? = none) (hnext : index.insert? owner block id = some next) :
    next.Consistent := by
  have howner : index.owners[owner]? = none := by
    rw [Index.insert?] at hnext
    split at hnext
    · simp at hnext
    · rename_i habsent
      rwa [Std.ExtTreeMap.contains_iff_mem, Std.ExtTreeMap.mem_iff_isSome_getElem?,
        Bool.not_eq_true, Option.isSome_eq_false_iff, Option.isNone_iff_eq_none] at habsent
  obtain ⟨next', hnext', hconsistent, -⟩ := h.insert?_eq block howner hid
  rw [hnext, Option.some.injEq] at hnext'
  rwa [hnext']

variable (owner : TxHash) (block : UInt64) (id : SlotId)

/-- A slot other than the one that is forgotten is found under its owner, unless that is the owner
given. -/
theorem owners_remove_of_ne {id' : SlotId} {tracked : Tracked} (hne : id' ≠ id)
    (hslot : index.slots[id']? = some tracked) :
    (index.remove owner block id).owners[tracked.owner]? = some id' ↔ tracked.owner ≠ owner := by
  rw [h.grounded.owners_remove]
  have hfound : index.owners[tracked.owner]? = some id' :=
    (h.owner_iff tracked.owner id').mpr ⟨tracked.block, hslot⟩
  exact ⟨fun hleft => hleft.2.1, fun howner => ⟨hfound, howner, hne⟩⟩

/-- Forgetting a slot keeps an index consistent exactly when the owner given has no other slot. -/
theorem consistent_remove_iff : (index.remove owner block id).Consistent ↔
    ∀ id' : SlotId, index.owners[owner]? = some id' → id' = id := by
  constructor
  · intro hleft id' howner
    by_contra hne
    obtain ⟨block', hslot⟩ := (h.owner_iff owner id').mp howner
    have hstays := (Grounded.getElem?_slots_remove owner block id).mpr ⟨hslot, hne⟩
    have hfound := (hleft.owner_iff owner id').mpr ⟨block', hstays⟩
    exact (h.owners_remove_of_ne owner block id hne hslot).mp hfound rfl
  · intro honly
    refine (h.grounded.remove owner block id).consistent fun owner' block' id' hslot => ?_
    obtain ⟨hkept, hne⟩ := (Grounded.getElem?_slots_remove owner block id).mp hslot
    refine (h.owners_remove_of_ne owner block id hne hkept).mpr ?_
    rintro rfl
    exact hne (honly id' ((h.owner_iff owner' id').mpr ⟨block', hkept⟩))

/-- **Forgetting a slot.** Whatever owner and block are given for a slot of a consistent index, and
even when the index does not have it, the slot is gone afterwards, all other slots keep their
owners, blocks and groups, and the index is consistent again unless the owner given has another
slot. Then that slot, and no other, is no longer found under its owner. -/
theorem forgotten_remove : Forgotten index owner id (index.remove owner block id) where
  unnamed := by
    rw [(h.grounded.remove owner block id).names_iff, not_not, Option.eq_none_iff_forall_ne_some]
    intro tracked hslot
    exact ((Grounded.getElem?_slots_remove owner block id).mp hslot).2 rfl
  slot_of_ne id' hne := by
    apply Option.ext
    intro tracked
    rw [Grounded.getElem?_slots_remove, and_iff_left hne]
  inGroup_of_ne block' id' hne := by rw [h.grounded.inGroup_remove, and_iff_left hne]
  owner_of_ne id' tracked hne hslot := h.owners_remove_of_ne owner block id hne hslot
  grounded := h.grounded.remove owner block id
  consistent_iff := h.consistent_remove_iff owner block id

end Consistent

/-- A transaction has slot `0` under block `5`. -/
def oneSlot : Index :=
  (empty.insert? (.replicate 32 1) 5 0).getD empty

/-- Another transaction has slot `1` under block `7` as well. -/
def twoSlots : Index :=
  (oneSlot.insert? (.replicate 32 2) 7 1).getD empty

/-- The index of the two slots is consistent. -/
theorem consistent_twoSlots : twoSlots.Consistent := by
  have hfirst : empty.insert? (.replicate 32 1) 5 0 = some oneSlot := rfl
  have hsecond : oneSlot.insert? (.replicate 32 2) 7 1 = some twoSlots := rfl
  exact (consistent_empty.of_insert? (by simp) hfirst).of_insert? (by decide +kernel) hsecond

/-- Slot `0` is forgotten under the owner and the block of slot `1`: slot `1` stays in the index,
but its owner is no longer found. -/
theorem remove_under_other_owner :
    let other : TxHash := .replicate 32 2
    let left := twoSlots.remove other 7 0
    twoSlots.Consistent ∧ twoSlots.slots[1]? = some ⟨other, 7⟩ ∧
      twoSlots.slotOf other = some 1 ∧ left.slots[1]? = some ⟨other, 7⟩ ∧
      left.slotOf other = none ∧ ¬left.Consistent := by
  intro other left
  have hslot : left.slots[1]? = some ⟨other, 7⟩ := by decide +kernel
  have hlost : left.slotOf other = none := by decide +kernel
  refine ⟨consistent_twoSlots, by decide +kernel, by decide +kernel, hslot, hlost, ?_⟩
  intro hconsistent
  rw [slotOf, (hconsistent.owner_iff other 1).mpr ⟨7, hslot⟩] at hlost
  exact absurd hlost (by simp)

/-- Slot `0` is forgotten under an owner and a block the index has never seen: the index is
consistent again. -/
theorem forgotten_remove_unknown_owner :
    let left := twoSlots.remove (.replicate 32 3) 9 0
    twoSlots.Consistent ∧ Forgotten twoSlots (.replicate 32 3) 0 left ∧ left.Consistent := by
  intro left
  have hforgotten : Forgotten twoSlots (.replicate 32 3) 0 left :=
    consistent_twoSlots.forgotten_remove (.replicate 32 3) 9 0
  refine ⟨consistent_twoSlots, hforgotten, hforgotten.consistent_iff.mpr fun id' howner => ?_⟩
  have hunknown : twoSlots.owners[(.replicate 32 3 : TxHash)]? = none := by decide +kernel
  rw [hunknown] at howner
  simp at howner

end BlobLimbo.Index
