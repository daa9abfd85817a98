import BlobLimbo.Proofs.Codec.BigEndian
import BlobLimbo.Proofs.Shelf.Region

/-!
# Slots of a shelf

A shelf describes its file when the gaps are the free slots and every other slot holds a record
(`Mapped`); it is tidy when, besides, the last slot is not a gap (`Laid`). What a shelf is to its
user is the record in each slot (`record?`): inserting and deleting change one slot, and keep a
shelf tidy.
-/

namespace BlobLimbo.Shelf

open Std

variable {shelf : Shelf} {content bytes data : Bytes} {slot : Nat}

/-- What the bytes of a slot of a file say. -/
def contentAt (shelf : Shelf) (content : Bytes) (slot : Nat) : SlotContent :=
  shelf.slotContent (content.region shelf.slotSize.toNat slot)

/-- The record in a slot. -/
def record? (shelf : Shelf) (content : Bytes) (slot : Nat) : Option Bytes :=
  if slot < shelf.slots then
    match shelf.contentAt content slot with
    | .record data => some data
    | _ => none
  else none

/-- A slot with a zero header is free. -/
theorem slotContent_of_zeros (rest : Bytes) :
    shelf.slotContent (Bytes.ofNat slotHeaderSize 0 ++ rest) = .free := by
  have hheader : (Bytes.ofNat slotHeaderSize 0 ++ rest).take slotHeaderSize =
      Bytes.ofNat slotHeaderSize 0 := by
    rw [List.take_append_of_le_length (by simp), List.take_of_length_le (by simp)]
  have hzero : Bytes.toNat (Bytes.ofNat slotHeaderSize 0) = 0 := by decide
  simp only [slotContent, hheader, hzero, if_true]

/-- A slot holds a record when its header announces bytes that fit. -/
theorem slotContent_eq_record_iff :
    shelf.slotContent bytes = .record data ↔
      Bytes.toNat (bytes.take slotHeaderSize) ≠ 0 ∧
        Bytes.toNat (bytes.take slotHeaderSize) ≤ shelf.capacity ∧
        (bytes.drop slotHeaderSize).take (Bytes.toNat (bytes.take slotHeaderSize)) = data := by
  unfold slotContent
  dsimp only
  split
  · rename_i hzero
    simp [hzero]
  · rename_i hzero
    split
    · rename_i hcorrupt
      simp only [reduceCtorEq, false_iff, not_and]
      omega
    · rename_i hfits
      simp only [SlotContent.record.injEq]
      exact ⟨fun h => ⟨hzero, Nat.le_of_not_lt hfits, h⟩, fun h => h.2.2⟩

/-- The written form of a record fills its slot. -/
theorem length_slotImage (shelf : Shelf) (data : Bytes) :
    (shelf.slotImage data).length = shelf.slotSize.toNat := by
  rw [slotImage, Bytes.length_resize]

section Image

variable (hheader : slotHeaderSize < shelf.slotSize.toNat)

include hheader

/-- A record that fits takes the start of its slot, after the header. -/
theorem slotImage_eq (hdata : data.length ≤ shelf.capacity) :
    shelf.slotImage data = Bytes.ofNat slotHeaderSize data.length ++
      (data ++ List.replicate (shelf.capacity - data.length) 0) := by
  have hlength : (Bytes.ofNat slotHeaderSize data.length ++ data).length =
      slotHeaderSize + data.length := by simp
  have hcapacity : shelf.capacity = shelf.slotSize.toNat - slotHeaderSize := rfl
  rw [slotImage, Bytes.resize, List.take_of_length_le (by omega), hlength, List.append_assoc]
  congr 3
  omega

/-- A record is read back from its slot. -/
theorem slotContent_slotImage (hpos : data ≠ []) (hdata : data.length ≤ shelf.capacity) :
    shelf.slotContent (shelf.slotImage data) = .record data := by
  have hbound : shelf.slotSize.toNat < 2 ^ 32 := shelf.slotSize.toNat_lt
  have hcapacity : shelf.capacity = shelf.slotSize.toNat - slotHeaderSize := rfl
  have hprefix : (shelf.slotImage data).take slotHeaderSize =
      Bytes.ofNat slotHeaderSize data.length := by
    rw [slotImage_eq hheader hdata, List.take_append_of_le_length (by simp),
      List.take_of_length_le (by simp)]
  have hsuffix : (shelf.slotImage data).drop slotHeaderSize =
      data ++ List.replicate (shelf.capacity - data.length) 0 := by
    rw [slotImage_eq hheader hdata, List.drop_append_of_le_length (by simp),
      List.drop_eq_nil_of_le (by simp), List.nil_append]
  have hsize : Bytes.toNat (Bytes.ofNat slotHeaderSize data.length) = data.length := by
    have hfits : data.length < 256 ^ slotHeaderSize := by
      have hpow : 256 ^ slotHeaderSize = 2 ^ 32 := by decide
      omega
    rw [Bytes.toNat_ofNat, Nat.mod_eq_of_lt hfits]
  rw [slotContent_eq_record_iff, hprefix, hsuffix, hsize]
  refine ⟨?_, hdata, by simp⟩
  rw [ne_eq, List.length_eq_zero_iff]
  exact hpos

end Image

/-- A slot that has a record says so. -/
theorem contentAt_of_record? (hrecord : shelf.record? content slot = some data) :
    shelf.contentAt content slot = .record data := by
  unfold record? at hrecord
  split at hrecord
  · split at hrecord
    · rename_i hcontent
      rw [hcontent, Option.some.inj hrecord]
    · simp at hrecord
  · simp at hrecord

/-- A slot that has a record is one of the file. -/
theorem lt_slots_of_record? (hrecord : shelf.record? content slot = some data) :
    slot < shelf.slots := by
  unfold record? at hrecord
  split at hrecord
  · assumption
  · simp at hrecord

/-- A record is shorter than its slot. -/
theorem length_record_le (hrecord : shelf.record? content slot = some data) :
    data.length ≤ shelf.capacity := by
  obtain ⟨-, hsize, rfl⟩ := slotContent_eq_record_iff.mp (contentAt_of_record? hrecord)
  exact Nat.le_trans (List.length_take_le _ _) hsize

/-- A shelf describes its file. -/
structure Mapped (shelf : Shelf) (content : Bytes) : Prop where
  header : slotHeaderSize < shelf.slotSize.toNat
  length : content.length = shelf.slots * shelf.slotSize.toNat
  gap : ∀ slot ∈ shelf.gaps, slot < shelf.slots ∧ shelf.contentAt content slot = .free
  record : ∀ slot < shelf.slots, slot ∉ shelf.gaps →
    ∃ data, shelf.contentAt content slot = .record data

/-- A shelf describes its file, which does not end in a free slot. -/
structure Laid (shelf : Shelf) (content : Bytes) : Prop extends Mapped shelf content where
  tidy : ∀ slot ∈ shelf.gaps, slot + 1 ≠ shelf.slots

namespace Mapped

/-- A slot has a record when it is no gap. -/
theorem record?_ne_none_iff (h : Mapped shelf content) :
    shelf.record? content slot ≠ none ↔ slot < shelf.slots ∧ slot ∉ shelf.gaps := by
  unfold record?
  constructor
  · intro hsome
    split at hsome
    · rename_i hlt
      refine ⟨hlt, fun hgap => ?_⟩
      rw [(h.gap slot hgap).2] at hsome
      simp at hsome
    · simp at hsome
  · rintro ⟨hlt, hgap⟩
    obtain ⟨data, hdata⟩ := h.record slot hlt hgap
    simp [hlt, hdata]

/-- A slot that is checked is no gap. -/
theorem checkSlot_eq_ok_iff (h : Mapped shelf content) (id : Nat) :
    shelf.checkSlot id slot = .ok () ↔ shelf.record? content slot ≠ none := by
  rw [h.record?_ne_none_iff, checkSlot]
  split
  · simp only [reduceCtorEq, false_iff, not_and]
    omega
  · split
    · simp_all
    · simp_all

/-- A slot inside the file is whole. -/
theorem end_le (h : Mapped shelf content) (hslot : slot < shelf.slots) :
    (slot + 1) * shelf.slotSize.toNat ≤ content.length := by
  rw [h.length]
  exact Nat.mul_le_mul_right _ hslot

/-- A slot inside the file starts in it. -/
theorem offset_le (h : Mapped shelf content) (hslot : slot ≤ shelf.slots) :
    slot * shelf.slotSize.toNat ≤ content.length := by
  rw [h.length]
  exact Nat.mul_le_mul_right _ hslot

end Mapped

/-- Reading a whole slot gives the record it says it has. -/
theorem read_of_contentAt (hheader : slotHeaderSize < shelf.slotSize.toNat)
    (hend : (slot + 1) * shelf.slotSize.toNat ≤ content.length) {id : Nat}
    (hcheck : shelf.checkSlot id slot = .ok ())
    (hcontent : shelf.contentAt content slot = .record data) :
    shelf.read content id slot = .ok data := by
  have hregion := Bytes.length_region hend
  have hcapacity : shelf.capacity = shelf.slotSize.toNat - slotHeaderSize := rfl
  obtain ⟨hpos, hfits, hfound⟩ := slotContent_eq_record_iff.mp hcontent
  have hhere : (content.region shelf.slotSize.toNat slot).take slotHeaderSize =
      (content.drop (shelf.offset slot)).take slotHeaderSize := by
    rw [Bytes.region, List.take_take, Nat.min_eq_left (Nat.le_of_lt hheader)]
    rfl
  have hlong : ((content.drop (shelf.offset slot)).take slotHeaderSize).length =
      slotHeaderSize := by
    rw [← hhere, List.length_take, hregion]
    exact Nat.min_eq_left (Nat.le_of_lt hheader)
  rw [hhere] at hpos hfits hfound
  have hdata : ((content.drop (shelf.offset slot)).drop slotHeaderSize).take
      (Bytes.toNat ((content.drop (shelf.offset slot)).take slotHeaderSize)) = data := by
    rw [← hfound, Bytes.region, List.drop_take, List.take_take, Nat.min_eq_left]
    · rfl
    · omega
  have hlength : data.length =
      Bytes.toNat ((content.drop (shelf.offset slot)).take slotHeaderSize) := by
    rw [← hfound, List.length_take, List.length_drop, hregion]
    omega
  unfold read
  rw [hcheck]
  simp only [bind, Except.bind, hlong, Nat.lt_irrefl, if_false, hpos, Nat.not_lt.mpr hfits, hdata,
    hlength, pure, Except.pure]

/-- A slot that is not accepted is not read. -/
theorem not_read_of_checkSlot {id : Nat} (hcheck : shelf.checkSlot id slot ≠ .ok ()) :
    shelf.read content id slot ≠ .ok data := by
  intro hread
  cases hresult : shelf.checkSlot id slot with
  | ok value => exact hcheck hresult
  | error error => simp [read, hresult, bind, Except.bind] at hread

/-- Reading a slot gives its record. -/
theorem Mapped.read_eq_ok_iff (h : Mapped shelf content) (id : Nat) :
    shelf.read content id slot = .ok data ↔ shelf.record? content slot = some data := by
  cases hrecord : shelf.record? content slot with
  | none =>
    have hcheck : shelf.checkSlot id slot ≠ .ok () := by
      rw [ne_eq, h.checkSlot_eq_ok_iff, hrecord]
      simp
    simp [not_read_of_checkSlot hcheck]
  | some found =>
    have hlive : shelf.record? content slot ≠ none := by simp [hrecord]
    have hslot := (h.record?_ne_none_iff.mp hlive).1
    have hcheck := (h.checkSlot_eq_ok_iff id).mpr hlive
    rw [read_of_contentAt h.header (h.end_le hslot) hcheck (contentAt_of_record? hrecord)]
    rw [Except.ok.injEq, Option.some.injEq]

end BlobLimbo.Shelf
