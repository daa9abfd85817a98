import BlobLimbo.Proofs.Limbo.Refinement

/-!
# Reading a limbo

What can be read off a limbo that holds what a map says is what can be read off the map: how many
transactions there are, whether a transaction is one of them, its block, and the sizes of the
groups.
-/

namespace BlobLimbo

open Std

/-- What can be read off a limbo is what can be read off the map. -/
structure Agrees {S : Type} (limbo : Limbo S) (held : Holdings) : Prop where
  size : limbo.size = held.size
  isEmpty : limbo.isEmpty = held.isEmpty
  contains : ∀ tx : TxHash, limbo.contains tx = held.contains tx
  trackedBlock : ∀ tx : TxHash, limbo.trackedBlock tx = held.blockOf tx
  groupSizes : limbo.groupSizes = held.groupSizes

namespace Holds

open Limbo LawfulStore

variable {S : Type} [ReliableStore S] {held : Holdings} {store : S} {index : Index}

/-- As many transactions have a slot as are held. -/
theorem size_eq (h : Holds held store index) : index.size = held.size := by
  have hperm : index.owners.keys.Perm held.keys := by
    rw [List.perm_ext_iff_of_nodup ExtTreeMap.nodup_keys ExtTreeMap.nodup_keys]
    intro tx
    have hcontains := h.contains_eq tx
    rw [Index.contains] at hcontains
    rw [ExtTreeMap.mem_keys, ExtTreeMap.mem_keys, ← ExtTreeMap.contains_iff_mem,
      ← ExtTreeMap.contains_iff_mem, hcontains]
  rw [Index.size, ← ExtTreeMap.length_keys, hperm.length_eq, ExtTreeMap.length_keys]

/-- Nothing has a slot when nothing is held. -/
theorem isEmpty_eq {limbo : Limbo S} (h : Holds held limbo.store limbo.index) :
    limbo.isEmpty = held.isEmpty := by
  rw [Limbo.isEmpty, h.size_eq, ExtTreeMap.isEmpty_eq_size_beq_zero]
  rfl

/-- The block of a transaction is the one it is held under. -/
theorem blockOf_eq (h : Holds held store index) (tx : TxHash) :
    ((index.slotOf tx).bind index.slot).map Tracked.block = held.blockOf tx := by
  cases hheld : held[tx]? with
  | none => rw [h.slotOf_eq_none hheld, Holdings.blockOf, hheld]; rfl
  | some entry =>
    obtain ⟨block, sidecar⟩ := entry
    obtain ⟨id, hslot, hknown, -⟩ := h.slot_of_held hheld
    rw [hslot, Holdings.blockOf, hheld, Option.bind_some, Index.slot, hknown]
    rfl

/-- A transaction is held under a block when it has a slot in the group of the block. -/
theorem exists_held_iff (h : Holds held store index) {tx : TxHash} {block : UInt64} :
    (∃ sidecar, held[tx]? = some (block, sidecar)) ↔
      ∃ id : SlotId, index.slots[id]? = some ⟨tx, block⟩ := by
  constructor
  · rintro ⟨sidecar, hheld⟩
    obtain ⟨id, -, hknown, -⟩ := h.slot_of_held hheld
    exact ⟨id, hknown⟩
  · rintro ⟨id, hknown⟩
    obtain ⟨sidecar, hentry⟩ := h.accounted.stored id _ hknown
    exact ⟨sidecar, (h.held_iff tx block sidecar).mpr ⟨id, hknown, hentry⟩⟩

/-- The groups of the index are the blocks under which something is held, in their order. -/
theorem keys_groups (h : Holds held store index) : index.groups.keys = held.blocks.toList := by
  have hconsistent := h.accounted.consistent
  have hmem : ∀ block, block ∈ index.groups.keys ↔ block ∈ held.blocks.toList := by
    intro block
    rw [ExtTreeMap.mem_keys, ExtTreeSet.mem_toList, Holdings.mem_blocks,
      ExtTreeMap.mem_iff_isSome_getElem?, Option.isSome_iff_exists]
    constructor
    · rintro ⟨ids, hids⟩
      obtain ⟨id, hid⟩ := Index.exists_mem_of_ne_empty (hconsistent.noneEmpty block ids hids)
      obtain ⟨tx, hknown⟩ := (hconsistent.group_iff block id).mp ⟨ids, hids, hid⟩
      exact ⟨tx, h.exists_held_iff.mpr ⟨id, hknown⟩⟩
    · rintro ⟨tx, hheld⟩
      obtain ⟨id, hknown⟩ := h.exists_held_iff.mp hheld
      obtain ⟨ids, hids, -⟩ := (hconsistent.group_iff block id).mpr ⟨tx, hknown⟩
      exact ⟨ids, hids⟩
  have hkeys := ExtTreeMap.ordered_keys (t := index.groups)
  have hblocks := ExtTreeSet.ordered_toList (t := held.blocks)
  refine List.Perm.eq_of_pairwise ?_ hkeys hblocks ?_
  · intro block block' _ _ hlt hgt
    rw [Std.compare_eq_lt] at hlt hgt
    exact absurd hgt (UInt64.lt_asymm hlt)
  · exact (List.perm_ext_iff_of_nodup ExtTreeMap.nodup_keys held.nodup_blocks).mpr hmem

/-- A group has as many slots as transactions are held under its block. -/
theorem size_group (h : Holds held store index) {block : UInt64} {ids : ExtTreeSet SlotId}
    (hids : index.groups[block]? = some ids) :
    ids.size = (held.filter fun _ entry => entry.1 = block).size := by
  have hconsistent := h.accounted.consistent
  have hmemIds : ∀ id, id ∈ ids ↔ ∃ tx, index.slots[id]? = some ⟨tx, block⟩ := by
    intro id
    rw [← hconsistent.group_iff]
    simp [Index.InGroup, hids]
  have hnodupIds : ids.toList.Nodup :=
    ExtTreeSet.ordered_toList.imp fun hlt heq => by
      subst heq
      exact Nat.lt_irrefl _ (Std.compare_eq_lt.mp hlt)
  have hnodup : (ids.toList.map fun id => (index.slot id).map Tracked.owner).Nodup := by
    refine List.Nodup.map_on ?_ hnodupIds
    intro id hid id' hid' howner
    obtain ⟨tx, hknown⟩ := (hmemIds id).mp (ExtTreeSet.mem_toList.mp hid)
    obtain ⟨tx', hknown'⟩ := (hmemIds id').mp (ExtTreeSet.mem_toList.mp hid')
    simp only [Index.slot, hknown, hknown', Option.map_some, Option.some.injEq] at howner
    subst howner
    exact hconsistent.slot_unique hknown' hknown
  have hperm : (ids.toList.map fun id => (index.slot id).map Tracked.owner).Perm
      ((held.filter fun _ entry => entry.1 = block).keys.map some) := by
    rw [List.perm_ext_iff_of_nodup hnodup
      (List.Nodup.map (Option.some_injective _) ExtTreeMap.nodup_keys)]
    intro owner
    simp only [List.mem_map, ExtTreeSet.mem_toList, hmemIds, ExtTreeMap.mem_keys]
    constructor
    · rintro ⟨id, ⟨tx, hknown⟩, rfl⟩
      obtain ⟨sidecar, hheld⟩ := h.exists_held_iff.mpr ⟨id, hknown⟩
      refine ⟨tx, ?_, by rw [Index.slot, hknown]; rfl⟩
      rw [ExtTreeMap.mem_iff_isSome_getElem?, ExtTreeMap.getElem?_filter', hheld]
      simp
    · rintro ⟨tx, hmem, rfl⟩
      rw [ExtTreeMap.mem_iff_isSome_getElem?, Option.isSome_iff_exists] at hmem
      obtain ⟨⟨block', sidecar⟩, hfiltered⟩ := hmem
      rw [ExtTreeMap.getElem?_filter', Option.filter_eq_some_iff, decide_eq_true_iff] at hfiltered
      obtain ⟨hheld, rfl⟩ := hfiltered
      obtain ⟨id, hknown⟩ := h.exists_held_iff.mp ⟨sidecar, hheld⟩
      exact ⟨id, ⟨tx, hknown⟩, by rw [Index.slot, hknown]; rfl⟩
  have hlength := hperm.length_eq
  rwa [List.length_map, List.length_map, ExtTreeSet.length_toList, ExtTreeMap.length_keys]
    at hlength

/-- The groups are as large as the map says. -/
theorem groupSizes_eq (h : Holds held store index) : index.groupSizes = held.groupSizes := by
  rw [Index.groupSizes, Holdings.groupSizes, ← h.keys_groups,
    ← ExtTreeMap.map_fst_toList_eq_keys, List.map_map]
  refine List.map_congr_left ?_
  rintro ⟨block, ids⟩ hmem
  have hids := ExtTreeMap.mem_toList_iff_getElem?_eq_some.mp hmem
  simp only [Function.comp_apply, h.size_group hids]

/-- What can be read off a limbo is what its map says. -/
theorem agrees {limbo : Limbo S} (h : Holds held limbo.store limbo.index) : Agrees limbo held where
  size := h.size_eq
  isEmpty := h.isEmpty_eq
  contains := h.contains_eq
  trackedBlock := h.blockOf_eq
  groupSizes := h.groupSizes_eq

end Holds

end BlobLimbo
