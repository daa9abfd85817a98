import BlobLimbo.Proofs.Index.Counting

/-!
# Splitting an index

A sweep splits a consistent index in two: the list of the slots at or below the finalized block, and
the index of those above it (`Consistent.splitsAt`).
-/

namespace BlobLimbo.Index

open Std

/-- An index without the slots at or below a block. -/
def above (index : Index) (block : UInt64) : Index where
  owners := index.owners.filter fun _ id => (index.slotsAbove block).contains id
  slots := index.slotsAbove block
  groups := index.groups.filter fun other _ => block < other

/-- The slots at or below a block, by block and then by id. -/
structure ListsUpTo (index : Index) (block : UInt64) (slots : List Evicted) : Prop where
  /-- Each slot is listed with its owner and its block. -/
  mem_iff : ∀ slot, slot ∈ slots ↔
    index.slots[slot.id]? = some ⟨slot.owner, slot.block⟩ ∧ slot.block ≤ block
  /-- None is listed twice. -/
  nodup : (slots.map Evicted.id).Nodup
  /-- The list is in the order of a sweep. -/
  sorted : slots.Pairwise fun a b => SweptBefore (a.block, a.id) (b.block, b.id)

namespace Consistent

variable {index : Index} (h : index.Consistent) (block : UInt64)

include h

/-- The slots above a block make a consistent index. -/
theorem above : (index.above block).Consistent where
  owner_iff owner id := by
    simp only [Index.above, ExtTreeMap.getElem?_filter', Option.filter_eq_some_iff, h.owner_iff,
      ExtTreeMap.contains_eq_isSome_getElem?, Option.isSome_iff_exists, getElem?_slotsAbove]
    constructor
    · rintro ⟨⟨other, hslot⟩, tracked, hslot', hlt⟩
      rw [hslot, Option.some.injEq] at hslot'
      subst hslot'
      exact ⟨other, hslot, hlt⟩
    · rintro ⟨other, hslot, hlt⟩
      exact ⟨⟨other, hslot⟩, _, hslot, hlt⟩
  group_iff other id := by
    simp only [Index.above, inGroup_filter, h.group_iff, getElem?_slotsAbove, decide_eq_true_eq,
      exists_and_right]
  noneEmpty other ids hids := h.noneEmpty other ids (getElem?_filter_groups.mp hids).1

/-- **Splitting.** A sweep of a consistent index lists every slot at or below the finalized block
once, by block and then by id, and leaves the index of the slots above it. -/
theorem splitsAt : index.ListsUpTo block (index.splitFinalized block).1 ∧
    (index.splitFinalized block).2 = index.above block := by
  have hgrounded := h.grounded
  refine ⟨⟨fun slot => hgrounded.mem_evicted_iff block, hgrounded.nodup_evicted block,
    hgrounded.pairwise_evicted block⟩, ?_⟩
  exact (h.above block).ext (h.splitFinalized block) (h.slots_splitFinalized_eq block)

end Consistent

end BlobLimbo.Index
