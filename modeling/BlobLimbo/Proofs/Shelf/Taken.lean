import BlobLimbo.Proofs.Shelf.Allocation

/-!
# Slots that are taken

Which slots of a shelf are taken is told by what the shelf remembers, not by the bytes of its file.
A record gets a slot that was not taken (`taken_of_insert`), a slot that is taken can be freed
whatever its bytes are (`Taken.exists_delete`), and freeing it frees no other slot
(`taken_of_delete`).
-/

namespace BlobLimbo.Shelf

open Std

variable {shelf next : Shelf} {content content' data : Bytes} {slot : Nat}

/-- A slot is taken: the file has it and it is no gap. -/
def Taken (shelf : Shelf) (slot : Nat) : Prop :=
  slot < shelf.slots ∧ slot ∉ shelf.gaps

/-- A slot that is taken passes the check. -/
theorem Taken.checkSlot (h : shelf.Taken slot) (id : Nat) : shelf.checkSlot id slot = .ok () := by
  rw [Shelf.checkSlot, if_neg (Nat.not_le.mpr h.1), if_neg h.2]

/-- A slot that passes the check is taken. -/
theorem taken_of_checkSlot {id : Nat} (hcheck : shelf.checkSlot id slot = .ok ()) :
    shelf.Taken slot := by
  unfold Shelf.checkSlot at hcheck
  split at hcheck
  · cases hcheck
  · rename_i hinside
    split at hcheck
    · cases hcheck
    · rename_i hgap
      exact ⟨Nat.lt_of_not_le hinside, hgap⟩

/-- A slot that is taken can be freed, whatever its bytes are. -/
theorem Taken.exists_delete (h : shelf.Taken slot) (content : Bytes) (id : Nat) :
    ∃ result, shelf.delete content id slot = .ok result := by
  rw [Shelf.delete, h.checkSlot]
  exact ⟨_, rfl⟩

/-- A slot that is freed was taken. -/
theorem taken_of_delete_eq_ok {id : Nat}
    (hdelete : shelf.delete content id slot = .ok (next, content')) : shelf.Taken slot := by
  cases hcheck : shelf.checkSlot id slot with
  | error error => simp [Shelf.delete, hcheck, bind, Except.bind] at hdelete
  | ok value => exact taken_of_checkSlot hcheck

/-- What becomes of the slots of a shelf when one of them is freed. -/
structure Cuts (shelf : Shelf) (slot : Nat) (next : Shelf) : Prop where
  slotSize_eq : next.slotSize = shelf.slotSize
  slots_le : next.slots ≤ shelf.slots
  /-- The slots behind the new end were free, but for the one that is freed. -/
  free : ∀ other, next.slots ≤ other → other < shelf.slots → other = slot ∨ other ∈ shelf.gaps
  /-- In front of it the slot that is freed becomes one more gap. -/
  mem_gaps_iff : ∀ other, other ∈ next.gaps ↔
    (other = slot ∨ other ∈ shelf.gaps) ∧ other < next.slots
  /-- The last slot is no gap. -/
  tidy : ∀ other ∈ next.gaps, other + 1 ≠ next.slots

section Gaps

variable (hgaps : ∀ slot ∈ shelf.gaps, slot < shelf.slots)

include hgaps

/-- A record gets a slot that was not taken, and that slot is taken from then on. -/
theorem taken_of_insert (hinsert : shelf.insert content data = .ok (slot, next, content')) :
    ¬shelf.Taken slot ∧ ∀ other, next.Taken other ↔ other = slot ∨ shelf.Taken other := by
  obtain ⟨-, ⟨hmin, rfl⟩ | ⟨hnone, -, rfl, rfl⟩⟩ := insert_cases hinsert
  · have hgap := mem_gaps_of_min? hmin
    have hlt := hgaps slot hgap
    refine ⟨fun htaken => htaken.2 hgap, fun other => ?_⟩
    simp only [Taken, mem_erase_gap]
    by_cases hother : other = slot
    · simp [hother, hlt]
    · simp [hother]
  · refine ⟨fun htaken => Nat.lt_irrefl _ htaken.1, fun other => ?_⟩
    simp only [Taken, hnone, ExtTreeSet.not_mem_empty, not_false_eq_true, and_true]
    omega

/-- The gaps stay slots of the file when a slot becomes one more gap. -/
theorem lt_slots_of_mem_insert (hslot : slot < shelf.slots) :
    ∀ other ∈ shelf.gaps.insert slot, other < shelf.slots := by
  intro other hother
  rcases mem_insert_gap.mp hother with hgap | rfl
  · exact hgaps other hgap
  · exact hslot

/-- Freeing a slot cuts off the free slots at the end. -/
theorem cuts_of_delete {id : Nat}
    (hdelete : shelf.delete content id slot = .ok (next, content')) : Cuts shelf slot next := by
  have hslot := (taken_of_delete_eq_ok hdelete).1
  obtain ⟨hle, hkept, hcut, htidy⟩ :=
    trim_spec shelf.slots (shelf.gaps.insert slot) (lt_slots_of_mem_insert hgaps hslot)
  have htrim := delete_eq_ok hdelete
  simp only [trimTail, Prod.mk.injEq] at htrim
  obtain ⟨rfl, -⟩ := htrim
  refine ⟨rfl, hle, fun other hbehind hinside => ?_, fun other => ?_, htidy⟩
  · exact (mem_insert_gap.mp (hcut other hbehind hinside)).symm
  · rw [hkept, mem_insert_gap, or_comm]

/-- Only the slot that is freed is not taken from then on. -/
theorem taken_of_delete {id : Nat}
    (hdelete : shelf.delete content id slot = .ok (next, content')) :
    ∀ other, next.Taken other ↔ other ≠ slot ∧ shelf.Taken other := by
  have hcuts := cuts_of_delete hgaps hdelete
  have hle := hcuts.slots_le
  intro other
  simp only [Taken, hcuts.mem_gaps_iff]
  constructor
  · rintro ⟨hlt, hnot⟩
    refine ⟨fun heq => hnot ⟨Or.inl heq, hlt⟩, by omega, fun hgap => hnot ⟨Or.inr hgap, hlt⟩⟩
  · rintro ⟨hne, hlt, hnot⟩
    refine ⟨?_, fun hgap => hgap.1.elim hne hnot⟩
    by_contra hbehind
    exact (hcuts.free other (Nat.not_lt.mp hbehind) hlt).elim hne hnot

end Gaps

/-- The gaps are slots of the file, and all slots can be numbered. -/
structure Numbered (shelf : Shelf) : Prop where
  gap_lt : ∀ slot ∈ shelf.gaps, slot < shelf.slots
  slots_le : shelf.slots ≤ 2 ^ 32

/-- A tidy shelf whose slots can be numbered. -/
theorem Laid.numbered (h : Laid shelf content) (hslots : shelf.slots ≤ 2 ^ 32) :
    Numbered shelf where
  gap_lt slot hgap := (h.gap slot hgap).1
  slots_le := hslots

namespace Numbered

/-- A record gets a slot that can be numbered and was not taken, and that slot is taken from then
on. -/
theorem insert (h : Numbered shelf)
    (hinsert : shelf.insert content data = .ok (slot, next, content')) :
    Numbered next ∧ slot < 2 ^ 32 ∧ ¬shelf.Taken slot ∧
      ∀ other, next.Taken other ↔ other = slot ∨ shelf.Taken other := by
  have hnumbers := h.slots_le
  have htaken := taken_of_insert h.gap_lt hinsert
  obtain ⟨-, ⟨hmin, rfl⟩ | ⟨hnone, hroom, rfl, rfl⟩⟩ := insert_cases hinsert
  · have hlt := h.gap_lt slot (mem_gaps_of_min? hmin)
    exact ⟨⟨fun other hother => h.gap_lt other (mem_erase_gap.mp hother).1, hnumbers⟩, by omega,
      htaken⟩
  · refine ⟨⟨fun other hother => ?_, hroom⟩, hroom, htaken⟩
    simp [hnone] at hother

/-- A slot that is freed was taken, and only that slot is not taken from then on. -/
theorem delete (h : Numbered shelf) {id : Nat}
    (hdelete : shelf.delete content id slot = .ok (next, content')) :
    Numbered next ∧ ∀ other, next.Taken other ↔ other ≠ slot ∧ shelf.Taken other := by
  have htaken := taken_of_delete h.gap_lt hdelete
  have hcuts := cuts_of_delete h.gap_lt hdelete
  refine ⟨⟨fun other hother => ((hcuts.mem_gaps_iff other).mp hother).2, ?_⟩, htaken⟩
  exact Nat.le_trans hcuts.slots_le h.slots_le

end Numbered

end BlobLimbo.Shelf
