import BlobLimbo.Proofs.Store.Shelves

/-!
# How long a record may be

The last shelf has the largest slots, so a record that is not empty fits some shelf when it is no
longer than they hold, and is refused for its length otherwise.
-/

namespace BlobLimbo.ShelfStore

variable {store : ShelfStore} {shelf : OpenShelf} {data : Bytes} {id : SlotId}

/-- The largest slots are those of the last shelf. -/
theorem Intact.exists_last (h : Intact store) : ∃ shelf ∈ store.shelves,
    shelf.capacity = store.maxRecordSize ∧
      ∀ other ∈ store.shelves, other.capacity ≤ shelf.capacity := by
  have hlayout := h.layout
  obtain hnil | ⟨above, last, hshelves⟩ := store.shelves.eq_nil_or_concat'
  · simp [slotSizes, hnil, layoutError?] at hlayout
  · have hpairwise := (layout_of_layoutError? hlayout).1
    have hlast : store.maxRecordSize = last.capacity := by
      rw [maxRecordSize, hshelves, List.getLast?_concat]
    refine ⟨last, by simp [hshelves], hlast.symm, fun other hother => ?_⟩
    rw [slotSizes, hshelves, List.map_append, List.pairwise_append] at hpairwise
    rw [hshelves, List.mem_append, List.mem_singleton] at hother
    rcases hother with hother | rfl
    · have hlt := hpairwise.2.2 _ (List.mem_map_of_mem hother) _
        (List.mem_map_of_mem (List.mem_singleton_self last))
      exact Nat.sub_le_sub_right (Nat.le_of_lt (UInt32.lt_iff_toNat_lt.mp hlt)) _
    · exact Nat.le_refl _

/-- A record that is kept is no longer than the largest slots hold. -/
theorem Intact.length_le_maxRecordSize (h : Intact store) (hrecord : store.record? id = some data) :
    data.length ≤ store.maxRecordSize := by
  obtain ⟨last, -, hlast, hothers⟩ := h.exists_last
  rw [record?, Option.bind_eq_some_iff] at hrecord
  obtain ⟨shelf, hshelf, hrecord⟩ := hrecord
  rw [← hlast]
  exact Nat.le_trans (Shelf.length_record_le hrecord) (hothers shelf (List.mem_of_getElem? hshelf))

/-- A record that is no longer than the largest slots hold fits some slots. -/
theorem Intact.exists_fitting (h : Intact store) (hlength : data.length ≤ store.maxRecordSize) :
    ∃ size ∈ store.slotSizes, data.length ≤ size.toNat - slotHeaderSize := by
  obtain ⟨last, hmem, hlast, -⟩ := h.exists_last
  rw [← hlast] at hlength
  exact ⟨last.slotSize, List.mem_map_of_mem hmem, hlength⟩

/-- A longer record is refused. -/
theorem Intact.put_of_long (h : Intact store) (hlength : store.maxRecordSize < data.length) :
    ShelfStore.put data store =
      { value := .error (.recordTooLarge data.length store.maxRecordSize), state := store } := by
  obtain ⟨last, -, hlast, hothers⟩ := h.exists_last
  have hnone : store.shelves[store.shelfFor data]? = none := by
    rw [shelfFor, List.getElem?_eq_none_iff, Nat.le_iff_lt_or_eq]
    refine Or.inr (List.findIdx_eq_length.mpr fun shelf hmem => decide_eq_false ?_).symm
    have hle := hothers shelf hmem
    omega
  exact put_of_none (List.ne_nil_of_length_pos (Nat.zero_lt_of_lt hlength)) hnone

/-- The length of a record is written in 32 bits. -/
theorem maxRecordSize_lt (store : ShelfStore) : store.maxRecordSize < 2 ^ 32 := by
  unfold maxRecordSize
  split
  · rename_i shelf _
    have hbound : shelf.slotSize.toNat < 2 ^ 32 := shelf.slotSize.toNat_lt
    exact Nat.lt_of_le_of_lt (Nat.sub_le _ _) hbound
  · decide

/-- The length of the longest record is a matter of the slot sizes. -/
theorem maxRecordSize_eq (store : ShelfStore) : store.maxRecordSize =
    (store.slotSizes.getLast?.map fun size => size.toNat - slotHeaderSize).getD 0 := by
  rw [maxRecordSize, slotSizes, List.getLast?_map]
  cases store.shelves.getLast? <;> rfl

/-- Stores of the same slot sizes take records of the same length. -/
theorem maxRecordSize_congr {other : ShelfStore} (hsizes : other.slotSizes = store.slotSizes) :
    other.maxRecordSize = store.maxRecordSize := by
  rw [maxRecordSize_eq, maxRecordSize_eq, hsizes]

/-- The shelf of a record is a matter of the slot sizes. -/
theorem shelfFor_eq (store : ShelfStore) (data : Bytes) : store.shelfFor data =
    store.slotSizes.findIdx fun size => data.length ≤ size.toNat - slotHeaderSize := by
  rw [shelfFor, slotSizes, List.findIdx_map]
  rfl

end BlobLimbo.ShelfStore
