import BlobLimbo.Store.Shelf

/-!
# Bytes in a file

What writing at an offset does to the bytes of a file, read as a row of regions of one size.
Writing inside a region changes no other region.
-/

namespace BlobLimbo.Bytes

variable {content data : Bytes} {offset size slot other : Nat}

@[simp] theorem length_resize (content : Bytes) (length : Nat) :
    (content.resize length).length = length := by
  simp only [resize, List.length_append, List.length_take, List.length_replicate]
  omega

/-- A file that is long enough is only cut. -/
theorem resize_of_le {length : Nat} (hlength : length ≤ content.length) :
    content.resize length = content.take length := by
  rw [resize, Nat.sub_eq_zero_of_le hlength, List.replicate_zero, List.append_nil]

/-- Writing inside a file or right behind it. -/
theorem overwrite_of_le (hoffset : offset ≤ content.length) (data : Bytes) :
    content.overwrite offset data =
      content.take offset ++ data ++ content.drop (offset + data.length) := by
  rw [overwrite, resize_of_le hoffset]

/-- A file grows to hold what is written. -/
theorem length_overwrite (hoffset : offset ≤ content.length) (data : Bytes) :
    (content.overwrite offset data).length = max content.length (offset + data.length) := by
  rw [overwrite_of_le hoffset]
  simp only [List.length_append, List.length_take, List.length_drop]
  omega

/-- What is written replaces the bytes from the offset on, and no others. -/
theorem getElem?_overwrite (hoffset : offset ≤ content.length) (data : Bytes) (i : Nat) :
    (content.overwrite offset data)[i]? =
      if i < offset then content[i]?
      else if i < offset + data.length then data[i - offset]? else content[i]? := by
  rw [overwrite_of_le hoffset, List.append_assoc, List.getElem?_append, List.getElem?_append,
    List.length_take, Nat.min_eq_left hoffset]
  split
  · rename_i hbefore
    rw [List.getElem?_take_of_lt hbefore]
  · rename_i hbefore
    by_cases hinside : i < offset + data.length
    · rw [if_pos (by omega), if_pos hinside]
    · rw [if_neg (by omega), if_neg hinside, List.getElem?_drop]
      congr 1
      omega

/-- The bytes of one slot of a file. -/
def region (content : Bytes) (size slot : Nat) : Bytes :=
  (content.drop (slot * size)).take size

theorem getElem?_region (content : Bytes) (size slot i : Nat) :
    (content.region size slot)[i]? = if i < size then content[slot * size + i]? else none := by
  rw [region, List.getElem?_take, List.getElem?_drop]

/-- A slot inside a file is whole. -/
theorem length_region (hslot : (slot + 1) * size ≤ content.length) :
    (content.region size slot).length = size := by
  rw [Nat.succ_mul] at hslot
  rw [region, List.length_take, List.length_drop]
  omega

/-- A slot ends where the next one starts, or before. -/
theorem slot_end_le (size : Nat) (hlt : slot < other) :
    slot * size + size ≤ other * size := by
  rw [← Nat.succ_mul]
  exact Nat.mul_le_mul_right size hlt

/-- Writing inside a slot leaves the other slots alone. -/
theorem region_overwrite_of_ne (hne : other ≠ slot) (hdata : data.length ≤ size)
    (hoffset : slot * size ≤ content.length) :
    (content.overwrite (slot * size) data).region size other = content.region size other := by
  apply List.ext_getElem?
  intro i
  rw [getElem?_region, getElem?_region]
  split
  · rename_i hi
    rw [getElem?_overwrite hoffset]
    rcases Nat.lt_or_gt_of_ne hne with hlt | hgt
    · have hend := slot_end_le size hlt
      rw [if_pos (by omega)]
    · have hend := slot_end_le size hgt
      rw [if_neg (by omega), if_neg (by omega)]
  · rfl

/-- Writing at the start of a slot leaves the rest of the slot alone. -/
theorem region_overwrite_self (hdata : data.length ≤ size)
    (hoffset : slot * size ≤ content.length) :
    (content.overwrite (slot * size) data).region size slot =
      data ++ (content.region size slot).drop data.length := by
  apply List.ext_getElem?
  intro i
  rw [getElem?_region, List.getElem?_append, List.getElem?_drop, getElem?_region]
  by_cases hi : i < data.length
  · rw [if_pos (by omega), if_pos hi, getElem?_overwrite hoffset, if_neg (by omega),
      if_pos (by omega)]
    congr 1
    omega
  · rw [if_neg hi]
    by_cases hsize : i < size
    · rw [if_pos hsize, if_pos (by omega), getElem?_overwrite hoffset, if_neg (by omega),
        if_neg (by omega)]
      congr 1
      omega
    · rw [if_neg hsize, if_neg (by omega)]

/-- A slot that fills its region is written whole. -/
theorem region_overwrite_whole (hdata : data.length = size)
    (hoffset : slot * size ≤ content.length) :
    (content.overwrite (slot * size) data).region size slot = data := by
  rw [region_overwrite_self (Nat.le_of_eq hdata) hoffset, hdata, List.drop_eq_nil_of_le,
    List.append_nil]
  rw [region, List.length_take]
  omega

/-- The slots before a cut stay as they are. -/
theorem region_take {slots : Nat} (hslot : slot < slots) :
    Bytes.region (content.take (slots * size)) size slot = content.region size slot := by
  apply List.ext_getElem?
  intro i
  rw [getElem?_region, getElem?_region]
  split
  · have hend := slot_end_le size hslot
    rw [List.getElem?_take_of_lt (by omega)]
  · rfl

/-- A slot behind the first one is a slot of what follows that. -/
theorem region_append_succ {size : Nat} {first : Bytes} (hfirst : first.length = size)
    (rest : Bytes) (slot : Nat) :
    region (first ++ rest) size (slot + 1) = region rest size slot := by
  have hstart : (slot + 1) * size = first.length + slot * size := by
    rw [hfirst, Nat.succ_mul, Nat.add_comm]
  rw [region, region, hstart, List.drop_length_add_append]

/-- The first slot is what the file starts with. -/
theorem region_append_zero {size : Nat} {first : Bytes} (hfirst : first.length = size)
    (rest : Bytes) : region (first ++ rest) size 0 = first := by
  rw [region, Nat.zero_mul, List.drop_zero, ← hfirst, List.take_left]

end BlobLimbo.Bytes
