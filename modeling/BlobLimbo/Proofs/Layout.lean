import BlobLimbo.Layout

/-!
# Slots for every number of blobs

The slot sizes of a limbo do not overflow within the limit, and have one that an entry of each
allowed number of blobs fits with room to spare.
-/

namespace BlobLimbo.Layout

variable {blobs : Nat} {maxBlobs : UInt32} {sizes : List UInt32}

/-- Slot sizes within the limit do not overflow. -/
theorem toNat_slotSize (hblobs : blobs ≤ maxBlobsLimit.toNat) :
    (slotSize blobs).toNat = 1024 + blobs * perBlob.toNat := by
  have hlimit : maxBlobsLimit.toNat = 32742 := by decide
  have hperBlob : perBlob.toNat = 131174 := by decide
  have hoverhead : overhead.toNat = 1024 := by decide
  rw [hlimit] at hblobs
  have hsmall : blobs * 131174 ≤ 32742 * 131174 := Nat.mul_le_mul_right _ hblobs
  rw [slotSize, UInt32.toNat_add, UInt32.toNat_mul, UInt32.toNat_ofNat', hperBlob, hoverhead,
    Nat.mod_eq_of_lt (by omega : blobs < 2 ^ 32),
    Nat.mod_eq_of_lt (by omega : blobs * 131174 < 2 ^ 32),
    Nat.mod_eq_of_lt (by omega : 1024 + blobs * 131174 < 2 ^ 32)]

/-- No slots are larger than those for the largest number of blobs. -/
theorem toNat_le_of_mem (hsizes : slotSizes maxBlobs = .ok sizes) {size : UInt32}
    (hmem : size ∈ sizes) : size.toNat ≤ 1024 + maxBlobs.toNat * perBlob.toNat := by
  unfold slotSizes at hsizes
  split at hsizes
  · simp at hsizes
  · rename_i hlimit
    rw [UInt32.not_lt, UInt32.le_iff_toNat_le] at hlimit
    obtain rfl := Except.ok.inj hsizes
    obtain ⟨blobs, hblobs, rfl⟩ := List.mem_map.mp hmem
    rw [List.mem_range] at hblobs
    rw [toNat_slotSize (by omega)]
    have hmul : (blobs + 1) * perBlob.toNat ≤ maxBlobs.toNat * perBlob.toNat :=
      Nat.mul_le_mul_right _ hblobs
    omega

/-- For every allowed number of blobs there are slot sizes. They increase, and every slot has room
behind its header. -/
theorem exists_slotSizes (hpos : 0 < maxBlobs) (hlimit : maxBlobs ≤ maxBlobsLimit) :
    ∃ sizes, slotSizes maxBlobs = .ok sizes ∧ sizes ≠ [] ∧ sizes.Pairwise (· < ·) ∧
      ∀ size ∈ sizes, 1024 < size.toNat := by
  have hperBlob : 0 < perBlob.toNat := by decide
  rw [UInt32.lt_iff_toNat_lt] at hpos
  have hmax := UInt32.le_iff_toNat_le.mp hlimit
  refine ⟨_, by rw [slotSizes, if_neg (UInt32.not_lt.mpr hlimit)], ?_, ?_, ?_⟩
  · rw [ne_eq, List.map_eq_nil_iff, List.range_eq_nil]
    exact Nat.ne_of_gt hpos
  · rw [List.pairwise_map]
    refine List.pairwise_lt_range.imp_of_mem fun {n n'} hn hn' hlt => ?_
    rw [List.mem_range] at hn hn'
    rw [UInt32.lt_iff_toNat_lt, toNat_slotSize (by omega), toNat_slotSize (by omega)]
    exact Nat.add_lt_add_left (Nat.mul_lt_mul_of_pos_right (Nat.succ_lt_succ hlt) hperBlob) _
  · intro size hmem
    obtain ⟨n, hn, rfl⟩ := List.mem_map.mp hmem
    rw [List.mem_range] at hn
    rw [toNat_slotSize (by omega)]
    exact Nat.lt_add_of_pos_right (Nat.mul_pos (Nat.succ_pos n) hperBlob)

/-- The slot sizes for fewer blobs are the first of those for more. -/
theorem take_slotSizes {fewer : UInt32} {first : List UInt32}
    (hsizes : slotSizes maxBlobs = .ok sizes) (hfirst : slotSizes fewer = .ok first)
    (hle : fewer ≤ maxBlobs) : first = sizes.take fewer.toNat := by
  unfold slotSizes at hsizes hfirst
  split at hsizes
  · simp at hsizes
  · split at hfirst
    · simp at hfirst
    · obtain rfl := Except.ok.inj hsizes
      obtain rfl := Except.ok.inj hfirst
      rw [← List.map_take, List.take_range, Nat.min_eq_left (UInt32.le_iff_toNat_le.mp hle)]

/-- There are as many slot sizes as a transaction may carry blobs. -/
theorem length_slotSizes (hsizes : slotSizes maxBlobs = .ok sizes) :
    sizes.length = maxBlobs.toNat := by
  unfold slotSizes at hsizes
  split at hsizes
  · simp at hsizes
  · obtain rfl := Except.ok.inj hsizes
    rw [List.length_map, List.length_range]

/-- Each number of blobs has its slot size. -/
theorem getElem?_slotSizes (hsizes : slotSizes maxBlobs = .ok sizes) {n : Nat}
    (hn : n < maxBlobs.toNat) : sizes[n]? = some (slotSize (n + 1)) := by
  unfold slotSizes at hsizes
  split at hsizes
  · simp at hsizes
  · obtain rfl := Except.ok.inj hsizes
    rw [List.getElem?_map, List.getElem?_range hn]
    rfl

/-- Some slots are large enough for each number of blobs. -/
theorem exists_slotSize (hsizes : slotSizes maxBlobs = .ok sizes) (hne : sizes ≠ [])
    (hblobs : blobs ≤ maxBlobs.toNat) :
    ∃ size ∈ sizes, 1024 + blobs * perBlob.toNat ≤ size.toNat := by
  unfold slotSizes at hsizes
  split at hsizes
  · simp at hsizes
  · rename_i hlimit
    rw [UInt32.not_lt, UInt32.le_iff_toNat_le] at hlimit
    obtain rfl := Except.ok.inj hsizes
    have hpos : 0 < maxBlobs.toNat := by
      rw [Nat.pos_iff_ne_zero]
      intro hzero
      simp [hzero] at hne
    have hlt : blobs - 1 < maxBlobs.toNat := by omega
    refine ⟨slotSize (blobs - 1 + 1), List.mem_map.mpr ⟨blobs - 1, List.mem_range.mpr hlt, rfl⟩, ?_⟩
    rw [toNat_slotSize (by omega)]
    have hmul : blobs * perBlob.toNat ≤ (blobs - 1 + 1) * perBlob.toNat :=
      Nat.mul_le_mul_right _ (by omega)
    omega

end BlobLimbo.Layout
