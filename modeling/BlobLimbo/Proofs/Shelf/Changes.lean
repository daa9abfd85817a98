import BlobLimbo.Proofs.Shelf.Slots

/-!
# Changing a shelf

Inserting a record fills one slot that had none, deleting a record frees one slot, and cutting off
the free slots at the end changes no record. Each leaves a tidy shelf.
-/

namespace BlobLimbo.Shelf

open Std

variable {shelf next : Shelf} {content data : Bytes} {slot : Nat}

/-- What a slot says depends on the slot size alone. -/
theorem contentAt_of_slotSize_eq (hsize : next.slotSize = shelf.slotSize) (content : Bytes)
    (slot : Nat) : next.contentAt content slot = shelf.contentAt content slot := by
  unfold contentAt slotContent capacity
  rw [hsize]

/-- The record of a slot depends on what the slot says. -/
theorem record?_congr {content' : Bytes} (hslot : slot < next.slots ↔ slot < shelf.slots)
    (hcontent : next.contentAt content' slot = shelf.contentAt content slot) :
    next.record? content' slot = shelf.record? content slot := by
  unfold record?
  simp only [hslot, hcontent]

section ClearHeader

variable (hheader : slotHeaderSize < shelf.slotSize.toNat)
  (hslot : (slot + 1) * shelf.slotSize.toNat ≤ content.length)

include hheader hslot

/-- Clearing the header of a slot keeps the length of the file. -/
theorem length_clearHeader : (shelf.clearHeader content slot).length = content.length := by
  rw [Nat.succ_mul] at hslot
  rw [clearHeader, offset, Bytes.length_overwrite (by omega), Bytes.length_ofNat]
  omega

/-- A slot with a cleared header is free. -/
theorem contentAt_clearHeader_self :
    shelf.contentAt (shelf.clearHeader content slot) slot = .free := by
  rw [Nat.succ_mul] at hslot
  rw [contentAt, clearHeader, offset,
    Bytes.region_overwrite_self (by rw [Bytes.length_ofNat]; omega) (by omega)]
  exact slotContent_of_zeros _

/-- Clearing the header of a slot changes the bytes of no other slot. -/
theorem region_clearHeader_of_ne {other : Nat} (hne : other ≠ slot) :
    (shelf.clearHeader content slot).region shelf.slotSize.toNat other =
      content.region shelf.slotSize.toNat other := by
  rw [Nat.succ_mul] at hslot
  rw [clearHeader, offset,
    Bytes.region_overwrite_of_ne hne (by rw [Bytes.length_ofNat]; omega) (by omega)]

/-- Clearing the header of a slot changes no other slot. -/
theorem contentAt_clearHeader_of_ne {other : Nat} (hne : other ≠ slot) :
    shelf.contentAt (shelf.clearHeader content slot) other = shelf.contentAt content other := by
  rw [contentAt, contentAt, region_clearHeader_of_ne hheader hslot hne]

end ClearHeader

/-- A gap that is filled is no gap, and the others stay. -/
theorem mem_erase_gap {gaps : ExtTreeSet Nat} {other : Nat} :
    other ∈ gaps.erase slot ↔ other ∈ gaps ∧ other ≠ slot := by
  rw [ExtTreeSet.mem_erase, ne_eq, LawfulEqCmp.compare_eq_iff_eq, and_comm, eq_comm (a := slot)]

/-- A slot that is freed is a gap, and no other becomes one. -/
theorem mem_insert_gap {gaps : ExtTreeSet Nat} {other : Nat} :
    other ∈ gaps.insert slot ↔ other ∈ gaps ∨ other = slot := by
  rw [ExtTreeSet.mem_insert, LawfulEqCmp.compare_eq_iff_eq, or_comm, eq_comm (a := slot)]

/-- The file reaches behind the slot that is written. -/
theorem length_overwrite_slot (hlength : content.length = shelf.slots * shelf.slotSize.toNat)
    (hle : slot ≤ shelf.slots) (data : Bytes) :
    (content.overwrite (shelf.offset slot) (shelf.slotImage data)).length =
      max shelf.slots (slot + 1) * shelf.slotSize.toNat := by
  have hoffset : slot * shelf.slotSize.toNat ≤ content.length := by
    rw [hlength]
    exact Nat.mul_le_mul_right _ hle
  rw [offset, Bytes.length_overwrite hoffset, length_slotImage, hlength, ← Nat.succ_mul]
  rcases Nat.lt_or_ge slot shelf.slots with hinside | hbehind
  · have hend := Nat.mul_le_mul_right shelf.slotSize.toNat hinside
    rw [Nat.max_eq_left hinside, Nat.max_eq_left hend]
  · have hlonger : shelf.slots ≤ slot + 1 := Nat.le_succ_of_le hbehind
    have hend := Nat.mul_le_mul_right shelf.slotSize.toNat hlonger
    rw [Nat.max_eq_right hlonger, Nat.max_eq_right hend]

namespace Mapped

/-- A shelf on which one slot changed describes its file when it describes this slot. The records of
the others stay. -/
theorem of_changed {content' : Bytes} (h : Mapped shelf content)
    (hsize : next.slotSize = shelf.slotSize)
    (hlength : content'.length = next.slots * shelf.slotSize.toNat)
    (hlt : ∀ other, other ≠ slot → (other < next.slots ↔ other < shelf.slots))
    (hgaps : ∀ other, other ≠ slot → (other ∈ next.gaps ↔ other ∈ shelf.gaps))
    (hother : ∀ other, other ≠ slot →
      next.contentAt content' other = shelf.contentAt content other)
    (hgap : slot ∈ next.gaps → slot < next.slots ∧ next.contentAt content' slot = .free)
    (hrecord : slot ∉ next.gaps → ∃ data, next.contentAt content' slot = .record data) :
    Mapped next content' ∧
      ∀ other, other ≠ slot → next.record? content' other = shelf.record? content other := by
  refine ⟨⟨?_, ?_, ?_, ?_⟩, fun other hne => record?_congr (hlt other hne) (hother other hne)⟩
  · rw [hsize]
    exact h.header
  · rw [hsize]
    exact hlength
  · intro other hmem
    by_cases hne : other = slot
    · subst hne
      exact hgap hmem
    · rw [hlt other hne, hother other hne]
      exact h.gap other ((hgaps other hne).mp hmem)
  · intro other hinside hmem
    by_cases hne : other = slot
    · subst hne
      exact hrecord hmem
    · rw [hother other hne]
      rw [hlt other hne] at hinside
      rw [hgaps other hne] at hmem
      exact h.record other hinside hmem

/-- Writing a record into a gap or behind the last slot. -/
theorem fill (h : Mapped shelf content) (hslot : slot ∈ shelf.gaps ∨ slot = shelf.slots)
    (hpos : data ≠ []) (hdata : data.length ≤ shelf.capacity)
    (hsize : next.slotSize = shelf.slotSize) (hslots : next.slots = max shelf.slots (slot + 1))
    (hgaps : ∀ other, other ∈ next.gaps ↔ other ∈ shelf.gaps ∧ other ≠ slot) :
    Mapped next (content.overwrite (shelf.offset slot) (shelf.slotImage data)) ∧
      ∀ other, next.record? (content.overwrite (shelf.offset slot) (shelf.slotImage data)) other =
        if other = slot then some data else shelf.record? content other := by
  have himage := length_slotImage shelf data
  have hle : slot ≤ shelf.slots := by
    rcases hslot with hgap | rfl
    · exact Nat.le_of_lt (h.gap slot hgap).1
    · exact Nat.le_refl _
  have hwritten : next.contentAt
      (content.overwrite (shelf.offset slot) (shelf.slotImage data)) slot = .record data := by
    rw [contentAt_of_slotSize_eq hsize, contentAt, offset,
      Bytes.region_overwrite_whole himage (h.offset_le hle)]
    exact slotContent_slotImage h.header hpos hdata
  have hother : ∀ other, other ≠ slot →
      next.contentAt (content.overwrite (shelf.offset slot) (shelf.slotImage data)) other =
        shelf.contentAt content other := by
    intro other hne
    rw [contentAt_of_slotSize_eq hsize, contentAt, offset,
      Bytes.region_overwrite_of_ne hne (Nat.le_of_eq himage) (h.offset_le hle)]
    rfl
  have hlength := length_overwrite_slot h.length hle data
  rw [← hslots] at hlength
  obtain ⟨hmapped, hsame⟩ := h.of_changed hsize hlength
    (fun other hne => by rw [hslots]; omega) (fun other hne => by simp [hgaps, hne]) hother
    (fun hgap => absurd rfl ((hgaps slot).mp hgap).2) (fun _ => ⟨data, hwritten⟩)
  refine ⟨hmapped, fun other => ?_⟩
  by_cases hne : other = slot
  · subst hne
    have hinside : other < next.slots := by
      rw [hslots]
      omega
    rw [if_pos rfl, record?, if_pos hinside, hwritten]
  · rw [if_neg hne]
    exact hsame other hne

/-- Freeing a slot. -/
theorem free (h : Mapped shelf content) (hslot : slot < shelf.slots)
    (hsize : next.slotSize = shelf.slotSize) (hslots : next.slots = shelf.slots)
    (hgaps : ∀ other, other ∈ next.gaps ↔ other ∈ shelf.gaps ∨ other = slot) :
    Mapped next (shelf.clearHeader content slot) ∧
      ∀ other, next.record? (shelf.clearHeader content slot) other =
        if other = slot then none else shelf.record? content other := by
  have hend := h.end_le hslot
  have hfreed : next.contentAt (shelf.clearHeader content slot) slot = .free := by
    rw [contentAt_of_slotSize_eq hsize]
    exact contentAt_clearHeader_self h.header hend
  have hother : ∀ other, other ≠ slot →
      next.contentAt (shelf.clearHeader content slot) other = shelf.contentAt content other := by
    intro other hne
    rw [contentAt_of_slotSize_eq hsize]
    exact contentAt_clearHeader_of_ne h.header hend hne
  have hlength : (shelf.clearHeader content slot).length = next.slots * shelf.slotSize.toNat := by
    rw [length_clearHeader h.header hend, h.length, hslots]
  have hinside : slot < next.slots := by
    rw [hslots]
    exact hslot
  obtain ⟨hmapped, hsame⟩ := h.of_changed hsize hlength
    (fun other hne => by rw [hslots]) (fun other hne => by simp [hgaps, hne]) hother
    (fun _ => ⟨hinside, hfreed⟩) (fun hgap => absurd ((hgaps slot).mpr (Or.inr rfl)) hgap)
  refine ⟨hmapped, fun other => ?_⟩
  by_cases hne : other = slot
  · subst hne
    rw [if_pos rfl, record?, hfreed]
    simp
  · rw [if_neg hne]
    exact hsame other hne

end Mapped

/-- Counting down keeps the gaps in front, and stops behind a slot that is none. -/
theorem trim_spec (slots : Nat) (gaps : ExtTreeSet Nat) (hgaps : ∀ slot ∈ gaps, slot < slots) :
    (trim slots gaps).1 ≤ slots ∧
      (∀ slot, slot ∈ (trim slots gaps).2 ↔ slot ∈ gaps ∧ slot < (trim slots gaps).1) ∧
      (∀ slot, (trim slots gaps).1 ≤ slot → slot < slots → slot ∈ gaps) ∧
      ∀ slot ∈ (trim slots gaps).2, slot + 1 ≠ (trim slots gaps).1 := by
  induction slots generalizing gaps with
  | zero =>
    refine ⟨Nat.le_refl _, fun slot => ?_, fun slot _ hlt => absurd hlt (Nat.not_lt_zero _),
      fun slot hgap => absurd (hgaps slot hgap) (Nat.not_lt_zero _)⟩
    rw [trim]
    exact ⟨fun hgap => ⟨hgap, hgaps slot hgap⟩, And.left⟩
  | succ slots ih =>
    rw [trim]
    split
    · rename_i hlast
      have hbelow : ∀ slot ∈ gaps.erase slots, slot < slots := by
        intro slot hgap
        obtain ⟨hgap, hne⟩ := mem_erase_gap.mp hgap
        have hlt := hgaps slot hgap
        omega
      obtain ⟨hle, hkept, hcut, htidy⟩ := ih (gaps.erase slots) hbelow
      refine ⟨by omega, fun slot => ?_, fun slot hcutSlot hlt => ?_, htidy⟩
      · rw [hkept, mem_erase_gap]
        constructor
        · exact fun ⟨⟨hgap, _⟩, hlt⟩ => ⟨hgap, hlt⟩
        · exact fun ⟨hgap, hlt⟩ => ⟨⟨hgap, by omega⟩, hlt⟩
      · by_cases heq : slot = slots
        · rw [heq]
          exact hlast
        · exact (mem_erase_gap.mp (hcut slot hcutSlot (by omega))).1
    · rename_i hlast
      refine ⟨Nat.le_refl _, fun slot => ?_, fun slot hcut hlt => ?_, fun slot hgap heq => ?_⟩
      · exact ⟨fun hgap => ⟨hgap, hgaps slot hgap⟩, And.left⟩
      · dsimp only at hcut
        omega
      · have hsame : slot = slots := by
          dsimp only at heq
          omega
        exact hlast (hsame ▸ hgap)

/-- Cutting off the free slots at the end cuts the file. -/
theorem content_trimTail (hlength : content.length = shelf.slots * shelf.slotSize.toNat)
    (hgaps : ∀ slot ∈ shelf.gaps, slot < shelf.slots) : (shelf.trimTail content).2 =
      content.take ((shelf.trimTail content).1.slots * shelf.slotSize.toNat) := by
  have hle := (trim_spec shelf.slots shelf.gaps hgaps).1
  simp only [Shelf.trimTail]
  split
  · rename_i heq
    rw [heq, List.take_of_length_le (Nat.le_of_eq hlength)]
  · apply Bytes.resize_of_le
    rw [hlength]
    exact Nat.mul_le_mul_right _ hle

/-- Cutting off the free slots at the end cuts the file of a shelf. -/
theorem Mapped.content_trimTail (h : Mapped shelf content) :
    (shelf.trimTail content).2 =
      content.take ((shelf.trimTail content).1.slots * shelf.slotSize.toNat) :=
  Shelf.content_trimTail h.length fun slot hgap => (h.gap slot hgap).1

/-- Cutting off the free slots at the end leaves a tidy shelf with the same records. -/
theorem Mapped.trimTail (h : Mapped shelf content) :
    Laid (shelf.trimTail content).1 (shelf.trimTail content).2 ∧
      (shelf.trimTail content).1.slotSize = shelf.slotSize ∧
      (shelf.trimTail content).1.slots ≤ shelf.slots ∧
      ∀ slot, (shelf.trimTail content).1.record? (shelf.trimTail content).2 slot =
        shelf.record? content slot := by
  obtain ⟨hle, hkept, hcut, htidy⟩ :=
    trim_spec shelf.slots shelf.gaps fun slot hgap => (h.gap slot hgap).1
  have hcontent : (shelf.trimTail content).2 =
      content.take ((trim shelf.slots shelf.gaps).1 * shelf.slotSize.toNat) := h.content_trimTail
  have hshelf : (shelf.trimTail content).1 =
      { shelf with
        slots := (trim shelf.slots shelf.gaps).1, gaps := (trim shelf.slots shelf.gaps).2 } := rfl
  have hsame : ∀ slot, slot < (trim shelf.slots shelf.gaps).1 →
      (shelf.trimTail content).1.contentAt (shelf.trimTail content).2 slot =
        shelf.contentAt content slot := by
    intro slot hlt
    have hsize : (shelf.trimTail content).1.slotSize = shelf.slotSize := rfl
    rw [contentAt_of_slotSize_eq hsize, contentAt, hcontent, Bytes.region_take hlt]
    rfl
  refine ⟨⟨⟨h.header, ?_, ?_, ?_⟩, ?_⟩, rfl, hle, ?_⟩
  · rw [hcontent, List.length_take, Nat.min_eq_left (h.offset_le hle)]
    rfl
  · intro slot hgap
    obtain ⟨hgap, hlt⟩ := (hkept slot).mp hgap
    rw [hsame slot hlt]
    exact ⟨hlt, (h.gap slot hgap).2⟩
  · intro slot hlt hgap
    rw [hsame slot hlt]
    exact h.record slot (Nat.lt_of_lt_of_le hlt hle) fun hold => hgap ((hkept slot).mpr ⟨hold, hlt⟩)
  · exact htidy
  · intro slot
    rcases Nat.lt_or_ge slot (trim shelf.slots shelf.gaps).1 with hlt | hge
    · refine record?_congr ?_ (hsame slot hlt)
      rw [hshelf]
      exact ⟨fun _ => Nat.lt_of_lt_of_le hlt hle, fun _ => hlt⟩
    · have hnone : (shelf.trimTail content).1.record? (shelf.trimTail content).2 slot = none := by
        rw [record?, if_neg]
        exact Nat.not_lt.mpr hge
      rw [hnone]
      by_contra hsome
      obtain ⟨hlt, hgap⟩ := h.record?_ne_none_iff.mp (Ne.symm hsome)
      exact hgap (hcut slot hge hlt)

/-- A record that is inserted overwrites a slot: the lowest gap, or a new slot behind the last one
when there is no gap and the new slot can be numbered. -/
theorem insert_cases {content' : Bytes}
    (hinsert : shelf.insert content data = .ok (slot, next, content')) :
    content' = content.overwrite (shelf.offset slot) (shelf.slotImage data) ∧
      (shelf.gaps.min? = some slot ∧ next = { shelf with gaps := shelf.gaps.erase slot } ∨
        shelf.gaps = ∅ ∧ shelf.slots < 2 ^ 32 ∧ slot = shelf.slots ∧
          next = { shelf with slots := shelf.slots + 1 }) := by
  unfold Shelf.insert at hinsert
  split at hinsert
  · rename_i lowest hgap
    simp only [Except.ok.injEq, Prod.mk.injEq] at hinsert
    obtain ⟨rfl, rfl, rfl⟩ := hinsert
    exact ⟨rfl, Or.inl ⟨hgap, rfl⟩⟩
  · rename_i hgap
    split at hinsert
    · cases hinsert
    · rename_i hnumbers
      simp only [Except.ok.injEq, Prod.mk.injEq] at hinsert
      obtain ⟨rfl, rfl, rfl⟩ := hinsert
      exact ⟨rfl, Or.inr ⟨ExtTreeSet.min?_eq_none_iff.mp hgap, by omega, rfl, rfl⟩⟩

/-- A record is refused exactly when there is no gap, and no number left for a new slot. -/
theorem insert_eq_error_iff {error : StoreError} : shelf.insert content data = .error error ↔
    error = .shelfFull shelf.slotSize ∧ 2 ^ 32 ≤ shelf.slots ∧ shelf.gaps = ∅ := by
  rw [← ExtTreeSet.min?_eq_none_iff, Shelf.insert]
  split
  · rename_i hgap
    simp [hgap]
  · rename_i hnone
    split
    · rename_i hfull
      have hslots : 2 ^ 32 ≤ shelf.slots := hfull
      simp only [Except.error.injEq, hslots, hnone, and_true, eq_comm]
    · rename_i hroom
      exact iff_of_false (by simp) fun h => hroom h.2.1

/-- The lowest gap is one of the gaps. -/
theorem mem_gaps_of_min? (hmin : shelf.gaps.min? = some slot) : slot ∈ shelf.gaps :=
  (ExtTreeSet.min?_eq_some_iff_mem_and_forall.mp hmin).1

/-- A record takes one new slot at most. -/
theorem slots_le_of_insert {content' : Bytes}
    (hinsert : shelf.insert content data = .ok (slot, next, content')) :
    next.slots ≤ shelf.slots + 1 := by
  obtain ⟨-, ⟨-, rfl⟩ | ⟨-, -, -, rfl⟩⟩ := insert_cases hinsert
  · exact Nat.le_succ _
  · exact Nat.le_refl _

namespace Laid

/-- A record goes into a slot that had none. -/
theorem insert_spec (h : Laid shelf content) (hpos : data ≠ [])
    (hdata : data.length ≤ shelf.capacity) {content' : Bytes}
    (hinsert : shelf.insert content data = .ok (slot, next, content')) :
    Laid next content' ∧ next.slotSize = shelf.slotSize ∧ slot < next.slots ∧
      next.slots ≤ max (2 ^ 32) shelf.slots ∧ shelf.record? content slot = none ∧
      ∀ other, next.record? content' other =
        if other = slot then some data else shelf.record? content other := by
  obtain ⟨rfl, ⟨hmin, rfl⟩ | ⟨hnone, hnumbers, rfl, rfl⟩⟩ := insert_cases hinsert
  · have hmem := mem_gaps_of_min? hmin
    have hlt := (h.gap slot hmem).1
    obtain ⟨hmapped, hrecords⟩ := h.toMapped.fill (Or.inl hmem) hpos hdata
      (rfl : ({ shelf with gaps := shelf.gaps.erase slot } : Shelf).slotSize = _)
      (Nat.max_eq_left hlt).symm (fun other => mem_erase_gap)
    refine ⟨⟨hmapped, ?_⟩, rfl, hlt, Nat.le_max_right _ _, ?_, hrecords⟩
    · exact fun other hother => h.tidy other (mem_erase_gap.mp hother).1
    · by_contra hsome
      exact (h.record?_ne_none_iff.mp hsome).2 hmem
  · have hempty : ∀ other, other ∉ shelf.gaps := fun other => by simp [hnone]
    obtain ⟨hmapped, hrecords⟩ := h.toMapped.fill (Or.inr rfl) hpos hdata
      (rfl : ({ shelf with slots := shelf.slots + 1 } : Shelf).slotSize = _)
      (by simp) (fun other => by simp [hempty])
    refine ⟨⟨hmapped, ?_⟩, rfl, Nat.lt_succ_self _, ?_, ?_, hrecords⟩
    · exact fun other hother => absurd hother (hempty other)
    · dsimp only
      omega
    · rw [record?, if_neg (Nat.lt_irrefl _)]

/-- A shelf with a slot number left takes every record that fits. -/
theorem exists_insert (hslots : shelf.slots < 2 ^ 32) (content data : Bytes) :
    ∃ result, shelf.insert content data = .ok result := by
  cases hinsert : shelf.insert content data with
  | ok result => exact ⟨result, rfl⟩
  | error error => exact absurd (insert_eq_error_iff.mp hinsert).2.1 (Nat.not_le.mpr hslots)

/-- A record that is deleted leaves its slot, and no other. -/
theorem delete_spec (h : Laid shelf content) {id : Nat} {content' : Bytes}
    (hdelete : shelf.delete content id slot = .ok (next, content')) :
    Laid next content' ∧ next.slotSize = shelf.slotSize ∧ next.slots ≤ shelf.slots ∧
      shelf.record? content slot ≠ none ∧
      ∀ other, next.record? content' other =
        if other = slot then none else shelf.record? content other := by
  unfold Shelf.delete at hdelete
  cases hcheck : shelf.checkSlot id slot with
  | error error => simp [hcheck, bind, Except.bind] at hdelete
  | ok value =>
    have hlive := (h.toMapped.checkSlot_eq_ok_iff id).mp hcheck
    obtain ⟨hlt, -⟩ := h.record?_ne_none_iff.mp hlive
    rw [hcheck] at hdelete
    simp only [bind, Except.bind, pure, Except.pure, Except.ok.injEq] at hdelete
    obtain ⟨hmapped, hrecords⟩ := h.toMapped.free hlt
      (rfl : ({ shelf with gaps := shelf.gaps.insert slot } : Shelf).slotSize = _) rfl
      (fun other => mem_insert_gap)
    obtain ⟨hlaid, hsize, hslots, hsame⟩ := hmapped.trimTail
    rw [hdelete] at hlaid hsize hslots hsame
    exact ⟨hlaid, hsize, hslots, hlive, fun other => (hsame other).trans (hrecords other)⟩

/-- A record that is there can be deleted. -/
theorem exists_delete (h : Laid shelf content) (id : Nat)
    (hlive : shelf.record? content slot ≠ none) :
    ∃ result, shelf.delete content id slot = .ok result := by
  rw [Shelf.delete, (h.toMapped.checkSlot_eq_ok_iff id).mpr hlive]
  exact ⟨_, rfl⟩

end Laid

end BlobLimbo.Shelf
