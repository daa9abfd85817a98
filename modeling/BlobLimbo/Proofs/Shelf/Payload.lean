import BlobLimbo.Proofs.Shelf.Opening

/-!
# What the bytes of a file hold

The records of a shelf, read off the bytes of any file without opening it (`payloadAt`). Opening the
file finds these records in the order of their slots, and in the file of a tidy shelf they are the
records of the shelf; every other slot there is vacant.
-/

namespace BlobLimbo.Shelf

open Std

variable {shelf : Shelf} {slotSize : UInt32} {content data : Bytes} {slot : Nat}

/-- The record in a slot of a file: the slot is complete, and its header announces at least one byte
and no more than there is room for. -/
def payloadAt (slotSize : UInt32) (content : Bytes) (slot : Nat) : Option Bytes :=
  let start := slot * slotSize.toNat
  let size := Bytes.toNat ((content.drop start).take slotHeaderSize)
  if start + slotSize.toNat ≤ content.length ∧ 1 ≤ size ∧
      size ≤ slotSize.toNat - slotHeaderSize then
    some ((content.drop (start + slotHeaderSize)).take size)
  else none

/-- Nothing is in a slot of a file: the file ends before it, or its header is zero. -/
def Vacant (slotSize : UInt32) (content : Bytes) (slot : Nat) : Prop :=
  content.length ≤ slot * slotSize.toNat ∨
    (content.drop (slot * slotSize.toNat)).take slotHeaderSize = List.replicate slotHeaderSize 0

/-- The start of a slot, read off the file. -/
theorem take_region {size count : Nat} (hinside : count ≤ size) (content : Bytes) (slot : Nat) :
    (content.region size slot).take count = (content.drop (slot * size)).take count := by
  rw [Bytes.region, List.take_take, Nat.min_eq_left hinside]

/-- What lies further on in a slot, read off the file. -/
theorem take_drop_region {size start count : Nat} (hinside : start + count ≤ size)
    (content : Bytes) (slot : Nat) : ((content.region size slot).drop start).take count =
      (content.drop (slot * size + start)).take count := by
  rw [Bytes.region, List.drop_take, List.take_take, List.drop_drop, Nat.min_eq_left (by omega)]

/-- A complete slot is one of those a file is cut down to. -/
theorem lt_slots_blank_iff (hpos : 0 < slotSize.toNat) :
    slot < (blank slotSize content).slots ↔
      slot * slotSize.toNat + slotSize.toNat ≤ content.length := by
  change slot + 1 ≤ content.length / slotSize.toNat ↔ _
  rw [Nat.le_div_iff_mul_le hpos, Nat.succ_mul]

/-- The payload of a slot is what its bytes say, if they are all there. -/
theorem payloadAt_eq_some_iff_contentAt (hheader : slotHeaderSize < shelf.slotSize.toNat) :
    payloadAt shelf.slotSize content slot = some data ↔
      slot * shelf.slotSize.toNat + shelf.slotSize.toNat ≤ content.length ∧
        shelf.contentAt content slot = .record data := by
  have hcapacity : shelf.capacity = shelf.slotSize.toNat - slotHeaderSize := rfl
  rw [contentAt, slotContent_eq_record_iff, take_region (Nat.le_of_lt hheader), hcapacity,
    payloadAt]
  constructor
  · intro hpayload
    split at hpayload
    · rename_i hsize
      refine ⟨hsize.1, by omega, hsize.2.2, ?_⟩
      rw [take_drop_region (by omega)]
      exact Option.some.inj hpayload
    · simp at hpayload
  · rintro ⟨hend, hnonzero, hfits, hdata⟩
    rw [take_drop_region (by omega)] at hdata
    rw [if_pos ⟨hend, Nat.pos_of_ne_zero hnonzero, hfits⟩, hdata]

/-- The records that are found are the payloads of the slots. -/
theorem mem_records_open_iff (hheader : slotHeaderSize < slotSize.toNat) :
    (slot, data) ∈ (Shelf.open slotSize content).records ↔
      payloadAt slotSize content slot = some data := by
  have hpos : 0 < slotSize.toNat := Nat.zero_lt_of_lt hheader
  have hsize : slotSize = (blank slotSize content).slotSize := rfl
  rw [mem_records_open, lt_slots_blank_iff hpos, hsize, payloadAt_eq_some_iff_contentAt hheader,
    ← hsize]
  refine and_congr_right fun hend => ?_
  have hslot := (lt_slots_blank_iff hpos).mpr hend
  have hfound : foundAt slotSize content slot = (blank slotSize content).contentAt content slot :=
    congrArg (blank slotSize content).slotContent (Bytes.region_take hslot)
  rw [hfound]

/-- A file that was written slot by slot holds what was written, and nothing in a slot that breaks
off behind it. -/
theorem payloadAt_flatMap_slotImage {records : List Bytes} {torn : Bytes}
    (hheader : slotHeaderSize < shelf.slotSize.toNat)
    (hrecords : ∀ data ∈ records, data ≠ [] ∧ data.length ≤ shelf.capacity)
    (htorn : torn.length < shelf.slotSize.toNat) (slot : Nat) :
    payloadAt shelf.slotSize (records.flatMap shelf.slotImage ++ torn) slot = records[slot]? := by
  refine Option.ext fun data => ?_
  rw [payloadAt_eq_some_iff_contentAt hheader]
  induction records generalizing slot with
  | nil =>
    rw [List.flatMap_nil, List.nil_append, List.getElem?_nil]
    simp only [reduceCtorEq, iff_false, not_and]
    omega
  | cons first records ih =>
    rw [List.forall_mem_cons] at hrecords
    have hlength := shelf.length_slotImage first
    rw [List.flatMap_cons, List.append_assoc, contentAt, List.length_append, hlength]
    cases slot with
    | zero =>
      rw [Bytes.region_append_zero hlength,
        slotContent_slotImage hheader hrecords.1.1 hrecords.1.2, List.getElem?_cons_zero]
      simp
    | succ slot =>
      rw [Bytes.region_append_succ hlength, ← contentAt, List.getElem?_cons_succ, ← ih hrecords.2,
        Nat.succ_mul]
      refine and_congr_left fun _ => ?_
      omega

namespace Laid

/-- The file of a tidy shelf holds its records. -/
theorem payloadAt_eq (h : Laid shelf content) (slot : Nat) :
    payloadAt shelf.slotSize content slot = shelf.record? content slot := by
  obtain ⟨-, -, -, -, hrecords⟩ := Shelf.open_spec content h.header
  obtain ⟨hshelf, hcontent, -⟩ := open_of_laid h
  rw [hshelf, hcontent] at hrecords
  refine Option.ext fun data => ?_
  rw [← mem_records_open_iff h.header, hrecords]

/-- A slot of a tidy shelf that has no record is vacant. -/
theorem vacant (h : Laid shelf content) (hnone : shelf.record? content slot = none) :
    Vacant shelf.slotSize content slot := by
  rcases Nat.lt_or_ge slot shelf.slots with hlt | hge
  · right
    have hgap : slot ∈ shelf.gaps := by
      by_contra hgap
      exact h.record?_ne_none_iff.mpr ⟨hlt, hgap⟩ hnone
    have hfree := (h.gap slot hgap).2
    have hzero : Bytes.toNat ((content.region shelf.slotSize.toNat slot).take slotHeaderSize) =
        0 := by
      unfold contentAt slotContent at hfree
      dsimp only at hfree
      split at hfree
      · assumption
      · split at hfree <;> simp at hfree
    have hlength : ((content.region shelf.slotSize.toNat slot).take slotHeaderSize).length =
        slotHeaderSize := by
      rw [List.length_take, Bytes.length_region (h.end_le hlt)]
      exact Nat.min_eq_left (Nat.le_of_lt h.header)
    rw [← take_region (Nat.le_of_lt h.header), ← Bytes.ofNat_toNat
      ((content.region shelf.slotSize.toNat slot).take slotHeaderSize), hzero, hlength]
    decide
  · left
    rw [h.length]
    exact Nat.mul_le_mul_right _ hge

end Laid

end BlobLimbo.Shelf
