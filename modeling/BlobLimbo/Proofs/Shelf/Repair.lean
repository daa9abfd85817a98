import BlobLimbo.Proofs.Shelf.Allocation
import BlobLimbo.Proofs.Shelf.Payload

/-!
# Repairing a file

Any bytes may stand in a file that is opened as a shelf: slots cut short, free slots, and headers
that announce more than a slot has room for, in the middle or in rows at the end. Opening keeps the
slots that hold a record, byte by byte, and makes every other slot a gap with a zero header or cuts
it off (`repairs_open`).
-/

namespace BlobLimbo.Shelf

variable {shelf : Shelf} {slotSize : UInt32} {content data : Bytes} {slot : Nat}

/-- A slot of a file holds a record: the slot is complete, its header announces the length of the
record, which is at least one byte and no more than there is room for, and the record follows. -/
structure Holds (slotSize : UInt32) (content : Bytes) (slot : Nat) (data : Bytes) : Prop where
  complete : slot < content.length / slotSize.toNat
  header : Bytes.toNat ((content.region slotSize.toNat slot).take slotHeaderSize) = data.length
  nonempty : 1 ≤ data.length
  fits : data.length ≤ slotSize.toNat - slotHeaderSize
  record : ((content.region slotSize.toNat slot).drop slotHeaderSize).take data.length = data

/-- What opening a file leaves of it: the shelf and the bytes of the file afterwards. -/
structure Repairs (slotSize : UInt32) (content : Bytes) (shelf : Shelf) (left : Bytes) : Prop where
  /-- The slots are those of the file. -/
  slotSize_eq : shelf.slotSize = slotSize
  /-- The file ends behind the last slot that held a record. -/
  length_of_last : ∀ last data, Holds slotSize content last data →
    (∀ slot data, Holds slotSize content slot data → slot ≤ last) →
      left.length = (1 + last) * slotSize.toNat
  /-- Nothing is left of a file without records. -/
  length_of_none : (∀ slot data, ¬Holds slotSize content slot data) → left.length = 0
  /-- A slot that held a record has the bytes it had. -/
  kept : ∀ slot data, Holds slotSize content slot data →
    left.region slotSize.toNat slot = content.region slotSize.toNat slot
  /-- Every other slot that is left has a zero header. -/
  freed : ∀ slot < left.length / slotSize.toNat, (∀ data, ¬Holds slotSize content slot data) →
    (left.region slotSize.toNat slot).take slotHeaderSize = List.replicate slotHeaderSize 0
  /-- The slots that are left without a record are the gaps. -/
  gap_iff : ∀ slot, slot ∈ shelf.gaps ↔
    slot < left.length / slotSize.toNat ∧ ∀ data, ¬Holds slotSize content slot data

/-- Clearing the headers of some slots changes the bytes of no other slot. -/
theorem region_clearHeaders (hheader : slotHeaderSize < shelf.slotSize.toNat)
    {slots : List (Nat × Nat)}
    (hslots : ∀ slot ∈ slots, (slot.1 + 1) * shelf.slotSize.toNat ≤ content.length)
    (hother : slot ∉ slots.map Prod.fst) :
    Bytes.region (slots.foldl (fun content slot => shelf.clearHeader content slot.1) content)
      shelf.slotSize.toNat slot = content.region shelf.slotSize.toNat slot := by
  induction slots generalizing content with
  | nil => rfl
  | cons first slots ih =>
    rw [List.forall_mem_cons] at hslots
    rw [List.map_cons, List.mem_cons, not_or] at hother
    have hrest : ∀ slot ∈ slots, (slot.1 + 1) * shelf.slotSize.toNat ≤
        (shelf.clearHeader content first.1).length := by
      rw [length_clearHeader hheader hslots.1]
      exact hslots.2
    rw [List.foldl_cons, ih hrest hother.2, region_clearHeader_of_ne hheader hslots.1 hother.1]

section Header

variable (hheader : slotHeaderSize < slotSize.toNat)

include hheader

/-- The payload of a slot is the record it holds. -/
theorem payloadAt_eq_some_iff :
    payloadAt slotSize content slot = some data ↔ Holds slotSize content slot data := by
  have hpos : 0 < slotSize.toNat := Nat.zero_lt_of_lt hheader
  have hcomplete : slot < content.length / slotSize.toNat ↔
      slot * slotSize.toNat + slotSize.toNat ≤ content.length := lt_slots_blank_iff hpos
  constructor
  · intro hpayload
    rw [payloadAt, ← take_region (Nat.le_of_lt hheader)] at hpayload
    split at hpayload
    · rename_i hsize
      obtain ⟨hend, hnonempty, hfits⟩ := hsize
      rw [Option.some.injEq, ← take_drop_region (by omega)] at hpayload
      have hlength : data.length =
          Bytes.toNat ((content.region slotSize.toNat slot).take slotHeaderSize) := by
        rw [← hpayload, List.length_take, List.length_drop,
          Bytes.length_region (by rwa [Nat.succ_mul])]
        omega
      rw [← hlength] at hnonempty hfits hpayload
      exact ⟨hcomplete.mpr hend, hlength.symm, hnonempty, hfits, hpayload⟩
    · simp at hpayload
  · rintro ⟨hslot, hsize, hnonempty, hfits, hrecord⟩
    rw [payloadAt, ← take_region (Nat.le_of_lt hheader), hsize,
      if_pos ⟨hcomplete.mp hslot, hnonempty, hfits⟩, ← take_drop_region (by omega), hrecord]

/-- The records that are found are those that the slots hold. -/
theorem mem_records_open_iff_holds :
    (slot, data) ∈ (Shelf.open slotSize content).records ↔ Holds slotSize content slot data := by
  rw [mem_records_open_iff hheader, payloadAt_eq_some_iff hheader]

/-- A shelf that was opened has the records that the slots of the file hold. -/
theorem record?_open_eq_some_iff :
    (Shelf.open slotSize content).shelf.record? (Shelf.open slotSize content).content slot =
      some data ↔ Holds slotSize content slot data := by
  obtain ⟨-, -, -, -, hrecords⟩ := open_spec content hheader
  rw [← hrecords, mem_records_open_iff_holds hheader]

/-- A slot of a shelf that was opened has no record when that of the file holds none. -/
theorem record?_open_eq_none_iff :
    (Shelf.open slotSize content).shelf.record? (Shelf.open slotSize content).content slot =
      none ↔ ∀ data, ¬Holds slotSize content slot data := by
  rw [Option.eq_none_iff_forall_ne_some]
  simp only [ne_eq, record?_open_eq_some_iff hheader]

/-- A file is cut behind its last record once the corrupt slots are freed. -/
theorem content_open_eq : (Shelf.open slotSize content).content =
    (repaired slotSize content).take
      ((Shelf.open slotSize content).shelf.slots * slotSize.toNat) := by
  have hcut := (mapped_marked content hheader).content_trimTail
  rw [open_eq]
  exact hcut

/-- A slot that holds a record is none of the corrupt ones. -/
theorem Holds.not_corrupt (h : Holds slotSize content slot data) :
    slot ∉ (corruptSlots slotSize content).map Prod.fst := by
  rw [← mem_records_open_iff_holds hheader, mem_records_open] at h
  intro hcorrupt
  obtain ⟨⟨slot, size⟩, hmem, rfl⟩ := List.mem_map.mp hcorrupt
  rw [(mem_corruptSlots.mp hmem).2] at h
  simp at h

/-- A slot that holds a record keeps its bytes. -/
theorem Holds.region_open (h : Holds slotSize content slot data) :
    (Shelf.open slotSize content).content.region slotSize.toNat slot =
      content.region slotSize.toNat slot := by
  have hlt := lt_slots_of_record? ((record?_open_eq_some_iff hheader).mpr h)
  calc (Shelf.open slotSize content).content.region slotSize.toNat slot
      = (repaired slotSize content).region slotSize.toNat slot := by
        rw [content_open_eq hheader, Bytes.region_take hlt]
    _ = (wholeSlots slotSize.toNat content).region slotSize.toNat slot :=
        region_clearHeaders hheader (fun _ hmem => end_le_of_mem_corruptSlots hmem)
          (h.not_corrupt hheader)
    _ = content.region slotSize.toNat slot := Bytes.region_take h.complete

/-- Opening a file keeps the slots that hold a record, and of the others nothing but gaps with zero
headers in front of the last of them. -/
theorem repairs_open (content : Bytes) :
    Repairs slotSize content (Shelf.open slotSize content).shelf
      (Shelf.open slotSize content).content := by
  obtain ⟨hlaid, hsize, -⟩ := open_spec content hheader
  have hpos : 0 < slotSize.toNat := Nat.zero_lt_of_lt hheader
  have hlength := hlaid.length
  have hslots : (Shelf.open slotSize content).content.length / slotSize.toNat =
      (Shelf.open slotSize content).shelf.slots := by
    rw [hlength, hsize, Nat.mul_div_cancel _ hpos]
  rw [hsize] at hlength
  refine ⟨hsize, fun last data hlast hall => ?_, fun hnone => ?_, fun slot data hholds => ?_,
    fun slot hlt hnone => ?_, fun slot => ?_⟩
  · have hbelow := lt_slots_of_record? ((record?_open_eq_some_iff hheader).mpr hlast)
    have habove : (Shelf.open slotSize content).shelf.slots ≤ last + 1 := by
      rw [hlaid.slots_le_iff]
      intro slot hlive
      obtain ⟨data, hdata⟩ := Option.ne_none_iff_exists'.mp hlive
      exact Nat.lt_succ_of_le (hall slot data ((record?_open_eq_some_iff hheader).mp hdata))
    rw [hlength, Nat.le_antisymm habove hbelow, Nat.add_comm]
  · have hempty : (Shelf.open slotSize content).shelf.slots ≤ 0 := by
      rw [hlaid.slots_le_iff]
      exact fun slot hlive => absurd ((record?_open_eq_none_iff hheader).mpr (hnone slot)) hlive
    rw [hlength, Nat.le_zero.mp hempty, Nat.zero_mul]
  · exact hholds.region_open hheader
  · have hvacant := hlaid.vacant ((record?_open_eq_none_iff hheader).mpr hnone)
    rw [hsize] at hvacant
    rw [take_region (Nat.le_of_lt hheader)]
    refine hvacant.resolve_left (Nat.not_le.mpr ?_)
    have hend := (Nat.le_div_iff_mul_le hpos).mp hlt
    rw [Nat.succ_mul] at hend
    omega
  · rw [hslots, hlaid.toMapped.mem_gaps_iff, record?_open_eq_none_iff hheader]

end Header

/-- A damaged file of slots of eight bytes: a record, a corrupt slot, a record, and then a free, a
corrupt and a torn slot. -/
def damagedFile : Bytes :=
  [0, 0, 0, 2, 7, 7, 1, 1] ++ [0, 0, 0, 5, 7, 7, 7, 7] ++ [0, 0, 0, 4, 8, 8, 8, 8] ++
    [0, 0, 0, 0, 9, 9, 9, 9] ++ [255, 0, 0, 0, 9, 9, 9, 9] ++ [0, 0, 0, 1, 9]

/-- The corrupt header between the records is cleared, and what follows them is cut off. -/
example : (Shelf.open 8 damagedFile).content =
    [0, 0, 0, 2, 7, 7, 1, 1] ++ [0, 0, 0, 0, 7, 7, 7, 7] ++ [0, 0, 0, 4, 8, 8, 8, 8] := by
  decide +kernel

end BlobLimbo.Shelf
