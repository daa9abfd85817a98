import BlobLimbo.Proofs.Shelf.Changes

/-!
# What a shelf does is told by its records

A tidy shelf has as many slots as its last record needs, and its gaps are the slots in front of that
record which have none (`Laid.slots_le_iff`, `Mapped.mem_gaps_iff`). So its records alone tell which
slot a new record gets, and why a slot cannot be read or freed. When the shelf has always filled its
slots itself, they tell the bytes of the slots as well (`Padded`).
-/

namespace BlobLimbo.Shelf

open Std

variable {shelf next : Shelf} {content content' data : Bytes} {slot : Nat}

namespace Mapped

/-- The gaps are the slots of the file that have no record. -/
theorem mem_gaps_iff (h : Mapped shelf content) :
    slot ∈ shelf.gaps ↔ slot < shelf.slots ∧ shelf.record? content slot = none := by
  constructor
  · intro hgap
    refine ⟨(h.gap slot hgap).1, ?_⟩
    by_contra hlive
    exact (h.record?_ne_none_iff.mp hlive).2 hgap
  · rintro ⟨hlt, hnone⟩
    by_contra hgap
    exact h.record?_ne_none_iff.mpr ⟨hlt, hgap⟩ hnone

/-- A slot without a record is refused: it lies behind the last slot, or it is a gap. -/
theorem checkSlot_of_none (h : Mapped shelf content) (hnone : shelf.record? content slot = none)
    (id : Nat) : shelf.checkSlot id slot =
      .error (if shelf.slots ≤ slot then .slotOutOfBounds id else .emptySlot id) := by
  rw [checkSlot]
  split
  · rfl
  · rename_i hinside
    have hgap : slot ∈ shelf.gaps := h.mem_gaps_iff.mpr ⟨Nat.lt_of_not_le hinside, hnone⟩
    rw [if_pos hgap]

/-- A slot without a record is not read. -/
theorem read_of_none (h : Mapped shelf content) (hnone : shelf.record? content slot = none)
    (id : Nat) : shelf.read content id slot =
      .error (if shelf.slots ≤ slot then .slotOutOfBounds id else .emptySlot id) := by
  rw [Shelf.read, h.checkSlot_of_none hnone]
  rfl

/-- A slot without a record is not freed. -/
theorem delete_of_none (h : Mapped shelf content) (hnone : shelf.record? content slot = none)
    (id : Nat) : shelf.delete content id slot =
      .error (if shelf.slots ≤ slot then .slotOutOfBounds id else .emptySlot id) := by
  rw [Shelf.delete, h.checkSlot_of_none hnone]
  rfl

end Mapped

/-- Freeing a slot clears its header and cuts off the free slots at the end. -/
theorem delete_eq_ok {id : Nat} (hdelete : shelf.delete content id slot = .ok (next, content')) :
    ({ shelf with gaps := shelf.gaps.insert slot } : Shelf).trimTail
      (shelf.clearHeader content slot) = (next, content') := by
  unfold Shelf.delete at hdelete
  cases hcheck : shelf.checkSlot id slot with
  | error error => simp [hcheck, bind, Except.bind] at hdelete
  | ok value =>
    rw [hcheck] at hdelete
    exact Except.ok.inj hdelete

namespace Laid

/-- Deleting a record changes the bytes of no other slot that stays. -/
theorem region_of_delete (h : Laid shelf content) {id other : Nat}
    (hdelete : shelf.delete content id slot = .ok (next, content')) (hne : other ≠ slot)
    (hinside : other < next.slots) : content'.region shelf.slotSize.toNat other =
      content.region shelf.slotSize.toNat other := by
  have hlive := (h.delete_spec hdelete).2.2.2.1
  have hslot := (h.record?_ne_none_iff.mp hlive).1
  obtain ⟨hmapped, -⟩ := h.toMapped.free hslot
    (rfl : ({ shelf with gaps := shelf.gaps.insert slot } : Shelf).slotSize = _) rfl
    (fun other => mem_insert_gap)
  have hcut := hmapped.content_trimTail
  rw [delete_eq_ok hdelete] at hcut
  dsimp only at hcut
  rw [hcut, Bytes.region_take hinside, region_clearHeader_of_ne h.header (h.end_le hslot) hne]

/-- The last slot has a record. -/
theorem record?_last (h : Laid shelf content) (hpos : 0 < shelf.slots) :
    shelf.record? content (shelf.slots - 1) ≠ none := by
  rw [h.record?_ne_none_iff]
  refine ⟨Nat.sub_lt hpos Nat.one_pos, fun hgap => ?_⟩
  exact h.tidy _ hgap (Nat.sub_add_cancel hpos)

/-- There are no more slots than the records need. -/
theorem slots_le_iff (h : Laid shelf content) {count : Nat} :
    shelf.slots ≤ count ↔ ∀ slot, shelf.record? content slot ≠ none → slot < count := by
  constructor
  · intro hle slot hlive
    exact Nat.lt_of_lt_of_le (h.record?_ne_none_iff.mp hlive).1 hle
  · intro hall
    rcases Nat.eq_zero_or_pos shelf.slots with hzero | hpos
    · omega
    · have hlast := hall _ (h.record?_last hpos)
      omega

/-- A record gets the first slot that has none. -/
theorem first_of_insert (h : Laid shelf content)
    (hinsert : shelf.insert content data = .ok (slot, next, content')) :
    shelf.record? content slot = none ∧
      ∀ other < slot, shelf.record? content other ≠ none := by
  obtain ⟨-, ⟨hmin, -⟩ | ⟨hnone, -, rfl, -⟩⟩ := insert_cases hinsert
  · obtain ⟨hmem, hleast⟩ := ExtTreeSet.min?_eq_some_iff_mem_and_forall.mp hmin
    obtain ⟨hlt, hnone⟩ := h.mem_gaps_iff.mp hmem
    refine ⟨hnone, fun other hother => h.record?_ne_none_iff.mpr ⟨by omega, fun hgap' => ?_⟩⟩
    have hle := hleast other hgap'
    rw [Nat.isLE_compare] at hle
    omega
  · refine ⟨?_, fun other hother => h.record?_ne_none_iff.mpr ⟨hother, by simp [hnone]⟩⟩
    rw [record?, if_neg (Nat.lt_irrefl _)]

/-- A shelf takes a record while a slot that can be numbered has none. -/
theorem exists_insert_of_free (h : Laid shelf content) (hslot : slot < 2 ^ 32)
    (hnone : shelf.record? content slot = none) (data : Bytes) :
    ∃ result, shelf.insert content data = .ok result := by
  cases hinsert : shelf.insert content data with
  | ok result => exact ⟨result, rfl⟩
  | error error =>
    obtain ⟨-, hfull, hgaps⟩ := insert_eq_error_iff.mp hinsert
    have hlive := h.record?_ne_none_iff.mpr ⟨(by omega : slot < shelf.slots), by simp [hgaps]⟩
    exact absurd hnone hlive

/-- A shelf whose slots can all be numbered is full when each has a record. -/
theorem insert_of_full (h : Laid shelf content) (hslots : shelf.slots ≤ 2 ^ 32)
    (hfull : ∀ slot < 2 ^ 32, shelf.record? content slot ≠ none) (data : Bytes) :
    shelf.insert content data = .error (.shelfFull shelf.slotSize) := by
  have hnumbers : 2 ^ 32 ≤ shelf.slots := by
    have hlast := (h.record?_ne_none_iff.mp (hfull (2 ^ 32 - 1) (by decide))).1
    omega
  have hgaps : shelf.gaps = ∅ := by
    rw [ExtTreeSet.eq_empty_iff_forall_not_mem]
    intro slot hgap
    obtain ⟨hlt, hnone⟩ := h.mem_gaps_iff.mp hgap
    exact hfull slot (by omega) hnone
  exact insert_eq_error_iff.mpr ⟨rfl, hnumbers, hgaps⟩

end Laid

/-- Every slot with a record holds the image of the record, to its last byte. -/
def Padded (shelf : Shelf) (content : Bytes) : Prop :=
  ∀ slot data, shelf.record? content slot = some data →
    content.region shelf.slotSize.toNat slot = shelf.slotImage data

namespace Padded

/-- Inserting a record writes its image, and changes no other slot. -/
theorem insert (h : Padded shelf content) (hlaid : Laid shelf content) (hpos : data ≠ [])
    (hdata : data.length ≤ shelf.capacity)
    (hinsert : shelf.insert content data = .ok (slot, next, content')) : Padded next content' := by
  obtain ⟨-, hsize, hlt, -, -, hrecords⟩ := hlaid.insert_spec hpos hdata hinsert
  obtain ⟨rfl, hchosen⟩ := insert_cases hinsert
  have himage : ∀ data, next.slotImage data = shelf.slotImage data := by
    intro data
    rw [slotImage, slotImage, hsize]
  have hoffset : slot * shelf.slotSize.toNat ≤ content.length := by
    apply hlaid.offset_le
    rcases hchosen with ⟨hmin, -⟩ | ⟨-, -, rfl, -⟩
    · exact Nat.le_of_lt (hlaid.gap slot (mem_gaps_of_min? hmin)).1
    · exact Nat.le_refl _
  intro other found hfound
  rw [hrecords] at hfound
  rw [himage, hsize, offset]
  by_cases hother : other = slot
  · subst hother
    rw [if_pos rfl, Option.some.injEq] at hfound
    subst hfound
    exact Bytes.region_overwrite_whole (length_slotImage shelf data) hoffset
  · rw [if_neg hother] at hfound
    rw [Bytes.region_overwrite_of_ne hother (Nat.le_of_eq (length_slotImage shelf data)) hoffset]
    exact h other found hfound

/-- Deleting a record changes no slot that keeps one. -/
theorem delete (h : Padded shelf content) (hlaid : Laid shelf content) {id : Nat}
    (hdelete : shelf.delete content id slot = .ok (next, content')) : Padded next content' := by
  obtain ⟨-, hsize, -, -, hrecords⟩ := hlaid.delete_spec hdelete
  have himage : ∀ data, next.slotImage data = shelf.slotImage data := by
    intro data
    rw [slotImage, slotImage, hsize]
  intro other found hfound
  have hlt := lt_slots_of_record? hfound
  rw [hrecords] at hfound
  split at hfound
  · simp at hfound
  · rename_i hother
    rw [himage, hsize, hlaid.region_of_delete hdelete hother hlt]
    exact h other found hfound

end Padded

end BlobLimbo.Shelf
