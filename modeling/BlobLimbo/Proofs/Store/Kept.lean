import BlobLimbo.Proofs.Store.Shelves
import Mathlib.Data.Nat.Find

/-!
# What a store is for

Told without files, a store is a finite map from ids to records. `Kept.perform` says what each
request does to this map and what is answered. Only the map decides it: a new record gets the first
free slot of the first shelf whose slots it fits, and an id without a record is refused for where it
lies among the ids that have one.
-/

namespace BlobLimbo

open Std ShelfStore

/-- What can be asked of a store on disk. -/
inductive Request where
  /-- Keep a record. -/
  | put (data : Bytes)
  /-- Read the record under an id. -/
  | get (id : SlotId)
  /-- Give up the record under an id. -/
  | delete (id : SlotId)
  /-- Open the store again in its directory. -/
  | reopen

/-- What is answered. -/
inductive Answer where
  /-- The record is kept under an id. -/
  | stored (id : SlotId)
  /-- The record under the id. -/
  | found (data : Bytes)
  /-- The record is gone. -/
  | deleted
  /-- The store is open again, and these are its records. -/
  | reopened (records : List Record)
  /-- The request was refused. -/
  | refused (error : StoreError)

/-- The records a store keeps, by their ids. -/
abbrev Kept := ExtTreeMap SlotId Bytes

namespace Kept

variable {kept : Kept} {number slot : Nat}

/-- One more than the last slot of a shelf with a record, and zero when there is none. -/
def height (kept : Kept) (number : Nat) : Nat :=
  (kept.keys.filter (shelfOf · = number)).foldr (fun id height => max (slotOf id + 1) height) 0

/-- Below the height of a shelf there is a record in the slot or behind it. -/
theorem lt_height_iff :
    slot < kept.height number ↔ ∃ id ∈ kept, shelfOf id = number ∧ slot ≤ slotOf id := by
  have hmax : ∀ ids : List SlotId,
      slot < ids.foldr (fun id height => max (slotOf id + 1) height) 0 ↔
        ∃ id ∈ ids, slot ≤ slotOf id := by
    intro ids
    induction ids with
    | nil => simp
    | cons id ids ih =>
      rw [List.foldr_cons, lt_max_iff, ih, Nat.lt_succ_iff]
      simp
  rw [height, hmax]
  simp only [List.mem_filter, ExtTreeMap.mem_keys, decide_eq_true_eq, and_assoc]

/-- Some slot of every shelf has no record. -/
theorem exists_free (kept : Kept) (number : Nat) : ∃ slot, idOf number slot ∉ kept := by
  have hbound : ∀ ids : List SlotId, ∃ bound, ∀ id ∈ ids, id < bound := by
    intro ids
    induction ids with
    | nil => exact ⟨0, by simp⟩
    | cons id ids ih =>
      obtain ⟨bound, hids⟩ := ih
      refine ⟨max (id + 1) bound, List.forall_mem_cons.mpr ⟨?_, fun other hother => ?_⟩⟩
      · exact Nat.lt_of_lt_of_le (Nat.lt_succ_self id) (Nat.le_max_left _ _)
      · exact Nat.lt_of_lt_of_le (hids other hother) (Nat.le_max_right _ _)
  obtain ⟨bound, hids⟩ := hbound kept.keys
  refine ⟨bound, fun hmem => ?_⟩
  have hlt := hids _ (ExtTreeMap.mem_keys.mpr hmem)
  exact Nat.not_lt.mpr Nat.right_le_or hlt

/-- The first slot of a shelf without a record. -/
def firstFree (kept : Kept) (number : Nat) : Nat :=
  Nat.find (kept.exists_free number)

/-- Why there is no record under an id: there is no such shelf, its slot lies behind the last one
with a record, or its slot is free. -/
def refusal (sizes : List UInt32) (kept : Kept) (id : SlotId) : StoreError :=
  if sizes.length ≤ shelfOf id then .unknownShelf id
  else if kept.height (shelfOf id) ≤ slotOf id then .slotOutOfBounds id
  else .emptySlot id

/-- The longest record that fits the slots of the last shelf. -/
def longest (sizes : List UInt32) : Nat :=
  (sizes.getLast?.map fun size => size.toNat - slotHeaderSize).getD 0

/-- The first shelf whose slots a record fits. -/
def shelfFor (sizes : List UInt32) (data : Bytes) : Nat :=
  sizes.findIdx fun size => data.length ≤ size.toNat - slotHeaderSize

/-- What a request is answered, and what is kept after it. -/
def perform (sizes : List UInt32) (kept : Kept) : Request → Answer × Kept
  | .put data =>
    if data = [] then (.refused .emptyRecord, kept)
    else if longest sizes < data.length then
      (.refused (.recordTooLarge data.length (longest sizes)), kept)
    else
      let number := shelfFor sizes data
      let slot := kept.firstFree number
      if slot < 2 ^ 32 then (.stored (idOf number slot), kept.insert (idOf number slot) data)
      else (.refused (.shelfFull (sizes.getD number 0)), kept)
  | .get id =>
    match kept[id]? with
    | some data => (.found data, kept)
    | none => (.refused (kept.refusal sizes id), kept)
  | .delete id =>
    if id ∈ kept then (.deleted, kept.erase id) else (.refused (kept.refusal sizes id), kept)
  | .reopen => (.reopened kept.toList, kept)

/-- Records in the order of their ids list the map, if they are those of the map. -/
theorem eq_toList {records : List Record} (hsorted : records.Pairwise fun a b => a.1 < b.1)
    (hmem : ∀ id data, (id, data) ∈ records ↔ kept[id]? = some data) : records = kept.toList := by
  have hlisted : kept.toList.Pairwise fun a b => a.1 < b.1 :=
    ExtTreeMap.ordered_keys_toList.imp fun hlt => Nat.compare_eq_lt.mp hlt
  refine eq_of_ascending hsorted hlisted fun ⟨id, data⟩ => ?_
  rw [hmem, ExtTreeMap.mem_toList_iff_getElem?_eq_some]

/-- What some requests are answered, and what is kept after them. -/
def run (sizes : List UInt32) (kept : Kept) : List Request → List Answer × Kept
  | [] => ([], kept)
  | request :: requests =>
    let (answer, next) := kept.perform sizes request
    let (answers, last) := next.run sizes requests
    (answer :: answers, last)

end Kept

end BlobLimbo
