import BlobLimbo.Proofs.Store.Footprint

/-!
# Stores for fewer and for more slot sizes

An id holds the number of its shelf, so records keep their ids as long as the list of slot sizes is
only cut off or made longer at its end. The first shelves of a store make a store of their own in
the same directory (`OpenAt.firstShelves`). For further slot sizes, whose files are missing, the
directory holds the same payloads as before (`OpenAt.payloads_of_missing`).
-/

namespace BlobLimbo.ShelfStore

variable {path : String} {sizes sizes' : List UInt32} {slotSize : UInt32} {count number : Nat}
  {store : ShelfStore} {id : SlotId}

/-- The store with some of its shelves, counted from the first. -/
def firstShelves (store : ShelfStore) (count : Nat) : ShelfStore :=
  { store with shelves := store.shelves.take count }

/-- The first shelves of a store have its records with the lowest ids. -/
theorem record?_firstShelves (store : ShelfStore) (count : Nat) (id : SlotId) :
    (store.firstShelves count).record? id =
      if shelfOf id < count then store.record? id else none := by
  rw [record?, record?, firstShelves, List.getElem?_take]
  split <;> rfl

/-- The number of a record's shelf is below the number of slot sizes. -/
theorem OpenAt.shelfOf_lt (h : OpenAt path sizes store) (hlive : store.record? id ≠ none) :
    shelfOf id < sizes.length := by
  obtain ⟨data, hdata⟩ := Option.ne_none_iff_exists'.mp hlive
  obtain ⟨shelf, hshelf, -⟩ := Option.bind_eq_some_iff.mp hdata
  exact (List.getElem?_eq_some_iff.mp (h.slotSize_of_shelf hshelf)).1

/-- The first shelves of a store are open in the same directory with the first slot sizes. -/
theorem OpenAt.firstShelves (h : OpenAt path sizes store) (hpos : 0 < count) :
    OpenAt path (sizes.take count) (store.firstShelves count) := by
  obtain ⟨hintact, rfl, rfl⟩ := h
  obtain ⟨hpairwise, hheader⟩ := layout_of_layoutError? hintact.layout
  have hsizes : (store.firstShelves count).slotSizes = store.slotSizes.take count := List.map_take
  have hne : store.slotSizes.take count ≠ [] := by
    rw [ne_eq, List.take_eq_nil_iff, not_or]
    refine ⟨Nat.ne_of_gt hpos, fun hnil => ?_⟩
    have hlayout := hintact.layout
    simp [hnil, layoutError?] at hlayout
  refine ⟨⟨?_, hintact.accepted, hintact.directory, fun shelf hmem => ?_⟩, rfl, hsizes⟩
  · rw [hsizes]
    exact layoutError?_eq_none hne (hpairwise.sublist (List.take_sublist _ _))
      fun slotSize hmem => hheader slotSize (List.mem_of_mem_take hmem)
  · exact hintact.attached shelf (List.mem_of_mem_take hmem)

/-- A slot size behind the first ones is none of them. -/
theorem not_mem_take (hlayout : layoutError? sizes = none) (hsize : sizes[number]? = some slotSize)
    (hle : count ≤ number) : slotSize ∉ sizes.take count := by
  intro hfirst
  refine List.disjoint_take_drop (nodup_of_layoutError? hlayout) (Nat.le_refl count) hfirst ?_
  rw [List.mem_iff_getElem?]
  exact ⟨number - count, by rw [List.getElem?_drop, Nat.add_sub_cancel' hle, hsize]⟩

section Missing

variable (h : OpenAt path sizes store)
  (hmissing : ∀ slotSize ∉ sizes, store.disk.content? (Path.place (shelfPath path slotSize)) = none)

include h hmissing

/-- Where the files of all other slot sizes are missing, the slots of any slot sizes can be
numbered. -/
theorem OpenAt.numberable_of_missing : Numberable path sizes' store.disk := by
  intro slotSize _ content hcontent
  by_cases hown : slotSize ∈ sizes
  · exact h.numberable slotSize hown content hcontent
  · simp [hmissing slotSize hown] at hcontent

/-- Where the files of further slot sizes are missing, these add no payloads. -/
theorem OpenAt.payloads_of_missing (hsizes : sizes = sizes'.take count)
    (hlayout : layoutError? sizes' = none) : payloads path sizes' store.disk = store.record? := by
  have hheader := (layout_of_layoutError? hlayout).2
  rw [← h.payloads_eq]
  funext id
  by_cases hfirst : shelfOf id < count
  · rw [payloads, payload?, payloads, payload?, hsizes, List.getElem?_take_of_lt hfirst]
  · have hnone : sizes[shelfOf id]? = none := by
      rw [hsizes, List.getElem?_take, if_neg hfirst]
    rw [payloads, payloads, payload?.eq_1 path sizes, hnone, Option.bind_none]
    cases hsize : sizes'[shelfOf id]? with
    | none => rw [payload?, hsize, Option.bind_none]
    | some slotSize =>
      have hfurther : slotSize ∉ sizes := hsizes ▸ not_mem_take hlayout hsize (Nat.not_lt.mp hfirst)
      exact payload?_of_missing hsize (hmissing slotSize hfurther)
        (hheader slotSize (List.mem_of_getElem? hsize)) _

end Missing

end BlobLimbo.ShelfStore
