import BlobLimbo.Proofs.Shelf.Payload
import BlobLimbo.Proofs.Shelf.Taken

/-!
# Slots do not reach into each other

Nothing is asked here of the bytes in the file of a shelf: headers and records may be damaged in any
way. What the shelf remembers must only fit the length of the file (`Shaped`). Then reading goes by
the bytes of the slot that is read, inserting writes one slot that was not taken, and deleting
clears one header and cuts off free slots. So the bytes of a slot stay as they are until that slot
is freed (`serveAll_isolates`).
-/

namespace BlobLimbo.Shelf

open Std

variable {shelf next : Shelf} {content content' data : Bytes} {id slot : Nat}

/-- A shelf that fits the length of its file, whatever the file holds. The last slot is no gap. -/
structure Shaped (shelf : Shelf) (content : Bytes) : Prop where
  header : slotHeaderSize < shelf.slotSize.toNat
  length : content.length = shelf.slots * shelf.slotSize.toNat
  gap_lt : ∀ slot ∈ shelf.gaps, slot + 1 < shelf.slots

/-- The bytes of a slot. -/
abbrev slotBytes (shelf : Shelf) (content : Bytes) (slot : Nat) : Bytes :=
  content.region shelf.slotSize.toNat slot

/-- The length that the header of a slot announces. -/
def announced (bytes : Bytes) : Nat :=
  Bytes.toNat (bytes.take slotHeaderSize)

/-- What lies behind the header of a slot. -/
def behindHeader (bytes : Bytes) : Bytes :=
  bytes.drop slotHeaderSize

namespace Shaped

/-- The gaps are slots of the file. -/
theorem gap_lt_slots (h : Shaped shelf content) : ∀ slot ∈ shelf.gaps, slot < shelf.slots := by
  intro slot hgap
  have hlt := h.gap_lt slot hgap
  omega

/-- A slot of the file starts in it, and one behind the last slot starts where the file ends. -/
theorem offset_le (h : Shaped shelf content) (hslot : slot ≤ shelf.slots) :
    slot * shelf.slotSize.toNat ≤ content.length := by
  rw [h.length]
  exact Nat.mul_le_mul_right _ hslot

/-- A slot of the file ends in it. -/
theorem end_le (h : Shaped shelf content) (hslot : slot < shelf.slots) :
    slot * shelf.slotSize.toNat + shelf.slotSize.toNat ≤ content.length := by
  rw [h.length]
  exact Bytes.slot_end_le _ hslot

/-- A slot that is taken is read by its bytes. -/
theorem read_of_taken (h : Shaped shelf content) (htaken : shelf.Taken slot) (id : Nat) :
    shelf.read content id slot =
      match shelf.slotContent (shelf.slotBytes content slot) with
      | .free => .error (.emptySlot id)
      | .corrupt size => .error (.io (.corruptHeader slot size shelf.capacity))
      | .record data => .ok data := by
  have hend := h.end_le htaken.1
  have hheader := h.header
  have hcapacity : shelf.capacity = shelf.slotSize.toNat - slotHeaderSize := rfl
  have hoffset : shelf.offset slot = slot * shelf.slotSize.toNat := rfl
  have hfront := take_region (Nat.le_of_lt hheader) content slot
  have hwhole : ((content.drop (shelf.offset slot)).take slotHeaderSize).length =
      slotHeaderSize := by
    rw [List.length_take, List.length_drop]
    omega
  unfold Shelf.read slotContent
  rw [htaken.checkSlot, hfront]
  simp only [bind, Except.bind, hwhole, Nat.lt_irrefl, if_false, ← hoffset]
  split
  · rfl
  · split
    · rfl
    · rename_i hpos hfits
      -- The record ends inside the slot, so it lies in the region as a whole.
      generalize Bytes.toNat ((content.drop (shelf.offset slot)).take slotHeaderSize) = size
        at hpos hfits ⊢
      have hinside : slotHeaderSize + size ≤ shelf.slotSize.toNat := by omega
      have hlength : (((content.drop (shelf.offset slot)).drop slotHeaderSize).take size).length =
          size := by
        rw [List.length_take, List.length_drop, List.length_drop]
        omega
      rw [take_drop_region hinside, ← hoffset, ← List.drop_drop, hlength,
        if_neg (Nat.lt_irrefl _)]
      rfl

/-- A slot that is not taken is refused before the file is read. -/
theorem read_of_not_taken (htaken : ¬shelf.Taken slot) (id : Nat) (content content' : Bytes) :
    shelf.read content id slot = shelf.read content' id slot ∧
      ∃ error, shelf.read content id slot = .error error := by
  cases hcheck : shelf.checkSlot id slot with
  | ok value => exact absurd (taken_of_checkSlot hcheck) htaken
  | error error => exact ⟨by rw [Shelf.read, Shelf.read, hcheck]; rfl, error, by
      rw [Shelf.read, hcheck]; rfl⟩

end Shaped

/-- Reading goes by the bytes of the slot that is read. -/
structure ReadsOwnSlot (shelf : Shelf) (content : Bytes) : Prop where
  /-- Two files that agree on a slot are read alike there. -/
  read_congr : ∀ content', Shaped shelf content' → ∀ id slot,
    shelf.slotBytes content' slot = shelf.slotBytes content slot →
      shelf.read content' id slot = shelf.read content id slot
  /-- What is read has as many bytes as the header announces, at least one and no more than there is
  room for, and they are the bytes behind the header. -/
  data_eq : ∀ id slot data, shelf.read content id slot = .ok data →
    shelf.Taken slot ∧ 1 ≤ data.length ∧ data.length ≤ shelf.capacity ∧
      data.length = announced (shelf.slotBytes content slot) ∧
      data = (behindHeader (shelf.slotBytes content slot)).take data.length
  /-- A header of zero makes the slot an empty one. -/
  empty : ∀ id slot, shelf.Taken slot → announced (shelf.slotBytes content slot) = 0 →
    shelf.read content id slot = .error (.emptySlot id)
  /-- A header that announces more than there is room for makes the data invalid. -/
  invalid : ∀ id slot, shelf.Taken slot →
    shelf.capacity < announced (shelf.slotBytes content slot) →
      ∃ cause : IoError, cause.kind = .invalidData ∧
        shelf.read content id slot = .error (.io cause)
  /-- Every other header lets the slot be read. -/
  readable : ∀ id slot, shelf.Taken slot → 1 ≤ announced (shelf.slotBytes content slot) →
    announced (shelf.slotBytes content slot) ≤ shelf.capacity →
      ∃ data, shelf.read content id slot = .ok data

/-- Reading goes by the bytes of the slot that is read, whatever they are. -/
theorem Shaped.readsOwnSlot (h : Shaped shelf content) : ReadsOwnSlot shelf content where
  read_congr content' h' id slot hsame := by
    by_cases htaken : shelf.Taken slot
    · rw [h.read_of_taken htaken, h'.read_of_taken htaken, hsame]
    · exact (read_of_not_taken htaken id content' content).1
  data_eq id slot data hread := by
    by_cases htaken : shelf.Taken slot
    · rw [h.read_of_taken htaken] at hread
      split at hread
      · cases hread
      · cases hread
      · rename_i found hrecord
        obtain rfl := Except.ok.inj hread
        obtain ⟨hpos, hfits, hdata⟩ := slotContent_eq_record_iff.mp hrecord
        have hend := h.end_le htaken.1
        have hregion : (shelf.slotBytes content slot).length = shelf.slotSize.toNat := by
          apply Bytes.length_region
          rwa [Nat.succ_mul]
        have hlength : found.length = announced (shelf.slotBytes content slot) := by
          have hcapacity : shelf.capacity = shelf.slotSize.toNat - slotHeaderSize := rfl
          rw [← hdata, announced, List.length_take, List.length_drop, hregion]
          omega
        refine ⟨htaken, ?_, ?_, hlength, ?_⟩
        · rw [hlength]
          exact Nat.pos_of_ne_zero hpos
        · rw [hlength]
          exact hfits
        · rw [hlength]
          exact hdata.symm
    · obtain ⟨-, error, herror⟩ := read_of_not_taken htaken id content content
      rw [herror] at hread
      cases hread
  empty id slot htaken hzero := by
    rw [announced] at hzero
    rw [h.read_of_taken htaken, slotContent]
    simp only [hzero, if_true]
  invalid id slot htaken habove := by
    refine ⟨.corruptHeader slot (announced (shelf.slotBytes content slot)) shelf.capacity, rfl, ?_⟩
    rw [announced] at habove ⊢
    rw [h.read_of_taken htaken, slotContent]
    simp only [if_neg (Nat.ne_of_gt (Nat.zero_lt_of_lt habove)), if_pos habove]
  readable id slot htaken hpos hfits := by
    rw [announced] at hpos hfits
    rw [h.read_of_taken htaken, slotContent]
    simp only [if_neg (Nat.ne_of_gt hpos), if_neg (Nat.not_lt.mpr hfits)]
    exact ⟨_, rfl⟩

/-- A place lies in the first bytes of a slot. -/
def InFront (shelf : Shelf) (slot count place : Nat) : Prop :=
  shelf.offset slot ≤ place ∧ place < shelf.offset slot + count

/-- A slot keeps its bytes when no place in it changes. -/
theorem slotBytes_congr (hsize : next.slotSize = shelf.slotSize)
    (hsame : ∀ place, shelf.InFront slot shelf.slotSize.toNat place →
      content'[place]? = content[place]?) :
    next.slotBytes content' slot = shelf.slotBytes content slot := by
  apply List.ext_getElem?
  intro i
  rw [slotBytes, slotBytes, hsize, Bytes.getElem?_region, Bytes.getElem?_region]
  split
  · rename_i hi
    exact hsame _ ⟨Nat.le_add_right _ _, Nat.add_lt_add_left hi _⟩
  · rfl

/-- Different slots have no place in common. -/
theorem not_inFront_of_ne {other place count : Nat} (hne : other ≠ slot)
    (hcount : count ≤ shelf.slotSize.toNat)
    (hplace : shelf.InFront other shelf.slotSize.toNat place) :
    ¬shelf.InFront slot count place := by
  rintro ⟨hstart, hstop⟩
  obtain ⟨hstart', hstop'⟩ := hplace
  unfold offset at hstart hstop hstart' hstop'
  rcases Nat.lt_or_gt_of_ne hne with hlt | hgt
  · have hend := Bytes.slot_end_le shelf.slotSize.toNat hlt
    omega
  · have hend := Bytes.slot_end_le shelf.slotSize.toNat hgt
    omega

/-- What inserting a record into a slot changes. -/
structure Inserts (shelf : Shelf) (content data : Bytes) (slot : Nat) (next : Shelf)
    (content' : Bytes) : Prop where
  shaped : Shaped next content'
  slotSize_eq : next.slotSize = shelf.slotSize
  /-- The slot was not taken: it is a gap, or a new slot behind the last one. -/
  fresh : ¬shelf.Taken slot ∧ (slot ∈ shelf.gaps ∨ slot = shelf.slots)
  /-- It is taken from then on, and no other slot is taken or freed. -/
  taken_iff : ∀ other, next.Taken other ↔ other = slot ∨ shelf.Taken other
  /-- The file grows when the slot is a new one. -/
  slots_eq : next.slots = max shelf.slots (slot + 1)
  /-- The slot is written as a whole. -/
  written : next.slotBytes content' slot = shelf.slotImage data
  /-- Every byte outside the slot stays as it was. -/
  others : ∀ place, ¬shelf.InFront slot shelf.slotSize.toNat place →
    content'[place]? = content[place]?

/-- A record that is inserted changes the bytes of its slot alone. -/
theorem Shaped.inserts (h : Shaped shelf content)
    (hinsert : shelf.insert content data = .ok (slot, next, content')) :
    Inserts shelf content data slot next content' := by
  obtain ⟨hfresh, htaken⟩ := taken_of_insert h.gap_lt_slots hinsert
  obtain ⟨rfl, hplace⟩ := insert_cases hinsert
  have himage := length_slotImage shelf data
  have hslot : slot ∈ shelf.gaps ∨ slot = shelf.slots := by
    rcases hplace with ⟨hmin, -⟩ | ⟨-, -, rfl, -⟩
    · exact Or.inl (mem_gaps_of_min? hmin)
    · exact Or.inr rfl
  have hle : slot ≤ shelf.slots := by
    rcases hslot with hgap | rfl
    · exact Nat.le_of_lt (h.gap_lt_slots slot hgap)
    · exact Nat.le_refl _
  have hnext : next.slotSize = shelf.slotSize ∧ next.slots = max shelf.slots (slot + 1) ∧
      ∀ other ∈ next.gaps, other ∈ shelf.gaps := by
    rcases hplace with ⟨hmin, rfl⟩ | ⟨-, -, rfl, rfl⟩
    · have hlt := h.gap_lt_slots slot (mem_gaps_of_min? hmin)
      exact ⟨rfl, (Nat.max_eq_left hlt).symm, fun other hother => (mem_erase_gap.mp hother).1⟩
    · exact ⟨rfl, (Nat.max_eq_right (Nat.le_succ _)).symm, fun other hother => hother⟩
  obtain ⟨hsize, hslots, hgaps⟩ := hnext
  refine ⟨⟨?_, ?_, ?_⟩, hsize, ⟨hfresh, hslot⟩, htaken, hslots, ?_, ?_⟩
  · rw [hsize]
    exact h.header
  · rw [hsize, hslots]
    exact length_overwrite_slot h.length hle data
  · intro other hother
    have hlt := h.gap_lt other (hgaps other hother)
    rw [hslots]
    omega
  · rw [slotBytes, hsize]
    exact Bytes.region_overwrite_whole himage (h.offset_le hle)
  · intro place houtside
    unfold InFront offset at houtside
    rw [offset, Bytes.getElem?_overwrite (h.offset_le hle), himage]
    split
    · rfl
    · rw [if_neg (by omega)]

/-- What freeing a slot changes. -/
structure Frees (shelf : Shelf) (content : Bytes) (slot : Nat) (next : Shelf) (content' : Bytes) :
    Prop where
  shaped : Shaped next content'
  slotSize_eq : next.slotSize = shelf.slotSize
  /-- The slot was taken. -/
  taken : shelf.Taken slot
  /-- It is not taken from then on, and no other slot is taken or freed. -/
  taken_iff : ∀ other, next.Taken other ↔ other ≠ slot ∧ shelf.Taken other
  /-- The file is cut in front of free slots. -/
  slots_le : next.slots ≤ shelf.slots
  cut : ∀ other, next.slots ≤ other → other < shelf.slots → other = slot ∨ other ∈ shelf.gaps
  /-- In the part that stays, the header of the slot is zero. -/
  cleared : ∀ place < content'.length, shelf.InFront slot slotHeaderSize place →
    content'[place]? = some 0
  /-- Every other byte there stays as it was. -/
  others : ∀ place < content'.length, ¬shelf.InFront slot slotHeaderSize place →
    content'[place]? = content[place]?

/-- A zero header is zero throughout. -/
theorem getElem?_zeroHeader {i : Nat} (hi : i < slotHeaderSize) :
    (Bytes.ofNat slotHeaderSize 0)[i]? = some 0 := by
  have hzeros : Bytes.ofNat slotHeaderSize 0 = List.replicate slotHeaderSize 0 := by decide
  rw [hzeros, List.getElem?_replicate, if_pos hi]

/-- Freeing a slot changes its header alone, and cuts off free slots. -/
theorem Shaped.frees (h : Shaped shelf content)
    (hdelete : shelf.delete content id slot = .ok (next, content')) :
    Frees shelf content slot next content' := by
  have htaken := taken_of_delete_eq_ok hdelete
  have hcuts := cuts_of_delete h.gap_lt_slots hdelete
  have hend := h.end_le htaken.1
  have hheader := h.header
  have hcleared : (shelf.clearHeader content slot).length = content.length :=
    length_clearHeader hheader (by rwa [Nat.succ_mul])
  have hlength := h.length
  rw [← hcleared] at hlength
  have hcut : (trimTail { shelf with gaps := shelf.gaps.insert slot } _).2 = _ :=
    content_trimTail hlength (lt_slots_of_mem_insert h.gap_lt_slots htaken.1)
  rw [delete_eq_ok hdelete] at hcut
  dsimp only at hcut
  have hshort : next.slots * shelf.slotSize.toNat ≤ (shelf.clearHeader content slot).length := by
    rw [hlength]
    exact Nat.mul_le_mul_right _ hcuts.slots_le
  have hbyte : ∀ place < content'.length,
      content'[place]? = (shelf.clearHeader content slot)[place]? := by
    intro place hplace
    rw [hcut, List.length_take, Nat.min_eq_left hshort] at hplace
    rw [hcut, List.getElem?_take_of_lt hplace]
  have hzeros : (Bytes.ofNat slotHeaderSize 0).length = slotHeaderSize := Bytes.length_ofNat _ _
  refine ⟨⟨?_, ?_, ?_⟩, hcuts.slotSize_eq, htaken, taken_of_delete h.gap_lt_slots hdelete,
    hcuts.slots_le, hcuts.free, ?_, ?_⟩
  · rw [hcuts.slotSize_eq]
    exact hheader
  · rw [hcut, hcuts.slotSize_eq, List.length_take]
    exact Nat.min_eq_left hshort
  · intro other hother
    have hlt := ((hcuts.mem_gaps_iff other).mp hother).2
    have hne := hcuts.tidy other hother
    omega
  · intro place hplace hfront
    obtain ⟨hstart, hstop⟩ := hfront
    rw [hbyte place hplace, clearHeader, Bytes.getElem?_overwrite (by unfold offset; omega), hzeros,
      if_neg (by omega), if_pos hstop]
    exact getElem?_zeroHeader (by omega)
  · intro place hplace houtside
    unfold InFront at houtside
    rw [hbyte place hplace, clearHeader, Bytes.getElem?_overwrite (by unfold offset; omega), hzeros]
    split
    · rfl
    · rw [if_neg (by omega)]

/-- What is asked of a shelf. The ids are for the errors. -/
inductive Request where
  /-- Insert a record. -/
  | insert (data : Bytes)
  /-- Read a slot. -/
  | read (id slot : Nat)
  /-- Free a slot. -/
  | delete (id slot : Nat)

/-- Whether a request is to free a slot. -/
def Request.Deletes : Request → Nat → Prop
  | .delete _ slot, other => slot = other
  | _, _ => False

/-- A shelf and its file after a request. A request that fails changes nothing. -/
def serve (shelf : Shelf) (content : Bytes) : Request → Shelf × Bytes
  | .insert data =>
    match shelf.insert content data with
    | .ok (_, next, content') => (next, content')
    | .error _ => (shelf, content)
  | .read _ _ => (shelf, content)
  | .delete id slot =>
    match shelf.delete content id slot with
    | .ok result => result
    | .error _ => (shelf, content)

/-- A shelf and its file after some requests. -/
def serveAll (shelf : Shelf) (content : Bytes) : List Request → Shelf × Bytes
  | [] => (shelf, content)
  | request :: requests =>
    let (next, content') := shelf.serve content request
    next.serveAll content' requests

/-- A slot stays taken and keeps its bytes. -/
structure Spares (shelf : Shelf) (content : Bytes) (slot : Nat) (next : Shelf) (content' : Bytes) :
    Prop where
  taken : next.Taken slot
  slotSize_eq : next.slotSize = shelf.slotSize
  slotBytes_eq : next.slotBytes content' slot = shelf.slotBytes content slot

namespace Spares

variable {last : Shelf} {content'' : Bytes}

theorem refl (htaken : shelf.Taken slot) : Spares shelf content slot shelf content :=
  ⟨htaken, rfl, rfl⟩

theorem trans (h : Spares shelf content slot next content')
    (h' : Spares next content' slot last content'') : Spares shelf content slot last content'' :=
  ⟨h'.taken, h'.slotSize_eq.trans h.slotSize_eq, h'.slotBytes_eq.trans h.slotBytes_eq⟩

end Spares

/-- Inserting a record spares every slot that is taken. -/
theorem Inserts.spares {other : Nat} (h : Inserts shelf content data slot next content')
    (htaken : shelf.Taken other) : Spares shelf content other next content' := by
  have hne : other ≠ slot := by
    rintro rfl
    exact h.fresh.1 htaken
  refine ⟨(h.taken_iff other).mpr (Or.inr htaken), h.slotSize_eq, ?_⟩
  apply slotBytes_congr h.slotSize_eq
  intro place hplace
  exact h.others place (not_inFront_of_ne hne (Nat.le_refl _) hplace)

/-- Freeing a slot spares every other slot that is taken. -/
theorem Frees.spares {other : Nat} (h : Frees shelf content slot next content')
    (hheader : slotHeaderSize < shelf.slotSize.toNat) (htaken : shelf.Taken other)
    (hne : other ≠ slot) : Spares shelf content other next content' := by
  have htaken' := (h.taken_iff other).mpr ⟨hne, htaken⟩
  refine ⟨htaken', h.slotSize_eq, ?_⟩
  apply slotBytes_congr h.slotSize_eq
  intro place hplace
  have hend := h.shaped.end_le htaken'.1
  rw [h.slotSize_eq] at hend
  exact h.others place (Nat.lt_of_lt_of_le hplace.2 hend)
    (not_inFront_of_ne hne (Nat.le_of_lt hheader) hplace)

/-- A request keeps a shelf in shape, and spares every slot that is taken and that it does not
free. -/
theorem Shaped.serve (h : Shaped shelf content) (request : Request) :
    Shaped (shelf.serve content request).1 (shelf.serve content request).2 ∧
      ∀ slot, shelf.Taken slot → ¬request.Deletes slot →
        Spares shelf content slot (shelf.serve content request).1
          (shelf.serve content request).2 := by
  cases request with
  | insert data =>
    cases hinsert : shelf.insert content data with
    | error error =>
      simp only [Shelf.serve, hinsert]
      exact ⟨h, fun slot htaken _ => .refl htaken⟩
    | ok result =>
      have hinserts := h.inserts hinsert
      simp only [Shelf.serve, hinsert]
      exact ⟨hinserts.shaped, fun slot htaken _ => hinserts.spares htaken⟩
  | read id slot => exact ⟨h, fun slot htaken _ => .refl htaken⟩
  | delete id slot =>
    cases hdelete : shelf.delete content id slot with
    | error error =>
      simp only [Shelf.serve, hdelete]
      exact ⟨h, fun slot htaken _ => .refl htaken⟩
    | ok result =>
      have hfrees := h.frees hdelete
      simp only [Shelf.serve, hdelete]
      exact ⟨hfrees.shaped, fun other htaken hkept =>
        hfrees.spares h.header htaken (Ne.symm hkept)⟩

/-- Requests keep a shelf in shape, and spare every slot that is taken and that none of them
frees. -/
theorem Shaped.serveAll (h : Shaped shelf content) (requests : List Request) :
    Shaped (shelf.serveAll content requests).1 (shelf.serveAll content requests).2 ∧
      ∀ slot, shelf.Taken slot → (∀ request ∈ requests, ¬request.Deletes slot) →
        Spares shelf content slot (shelf.serveAll content requests).1
          (shelf.serveAll content requests).2 := by
  induction requests generalizing shelf content with
  | nil => exact ⟨h, fun slot htaken _ => .refl htaken⟩
  | cons request requests ih =>
    obtain ⟨hshaped, hspares⟩ := h.serve request
    obtain ⟨hlast, hrest⟩ := ih hshaped
    refine ⟨hlast, fun slot htaken hkept => ?_⟩
    rw [List.forall_mem_cons] at hkept
    have hfirst := hspares slot htaken hkept.1
    exact hfirst.trans (hrest slot hfirst.taken hkept.2)

/-- **Slots are isolated from each other.** On a shelf that fits the length of its file, whatever
bytes the file holds, reading goes by the bytes of the slot that is read; inserting a record changes
the bytes of its slot alone, which was not taken; freeing a slot changes its header alone and cuts
off free slots. So after any requests the shelf still fits its file, and a slot that was taken and
was not freed is taken and has its bytes. -/
theorem serveAll_isolates (h : Shaped shelf content) :
    ReadsOwnSlot shelf content ∧
      (∀ data slot next content', shelf.insert content data = .ok (slot, next, content') →
        Inserts shelf content data slot next content') ∧
      (∀ id slot next content', shelf.delete content id slot = .ok (next, content') →
        Frees shelf content slot next content') ∧
      ∀ requests, Shaped (shelf.serveAll content requests).1
          (shelf.serveAll content requests).2 ∧
        ∀ slot, shelf.Taken slot → (∀ request ∈ requests, ¬request.Deletes slot) →
          Spares shelf content slot (shelf.serveAll content requests).1
            (shelf.serveAll content requests).2 :=
  ⟨h.readsOwnSlot, fun _ _ _ _ => h.inserts, fun _ _ _ _ => h.frees, h.serveAll⟩

/-- A shelf of three slots of eight bytes, of which the middle one is free. -/
def damagedShelf : Shelf := { slotSize := 8, slots := 3, gaps := .ofList [1] }

/-- Its file: the header of the first slot announces too much, there are bytes left in the free
slot, and the last slot holds a record. -/
def damagedContent : Bytes :=
  [0, 0, 1, 44, 1, 2, 3, 4] ++ [255, 255, 255, 255, 5, 6, 7, 8] ++ [0, 0, 0, 2, 9, 10, 0, 0]

/-- The record in the last slot outlives insertions and the deletion of the damaged slot. -/
theorem serveAll_isolates_damagedShelf :
    Shaped damagedShelf damagedContent ∧ damagedShelf.Taken 2 ∧
      damagedShelf.read damagedContent 2 2 = .ok [9, 10] ∧
      Spares damagedShelf damagedContent 2
        (damagedShelf.serveAll damagedContent
          [.insert [11], .delete 0 0, .insert [12, 13], .insert [14]]).1
        (damagedShelf.serveAll damagedContent
          [.insert [11], .delete 0 0, .insert [12, 13], .insert [14]]).2 := by
  have hshaped : Shaped damagedShelf damagedContent := by
    refine ⟨by decide, by decide, fun slot hgap => ?_⟩
    have hslot : 1 = slot := by simpa [damagedShelf] using hgap
    subst hslot
    decide
  have htaken : damagedShelf.Taken 2 := by
    refine ⟨by decide, ?_⟩
    simp [damagedShelf]
  obtain ⟨hreads, -, -, hserves⟩ := serveAll_isolates hshaped
  obtain ⟨data, hdata⟩ := hreads.readable 2 2 htaken (by decide) (by decide)
  obtain ⟨-, -, -, hlength, hbytes⟩ := hreads.data_eq 2 2 data hdata
  refine ⟨hshaped, htaken, ?_, (hserves _).2 2 htaken ?_⟩
  · rw [hdata, hbytes, hlength]
    decide
  · simp [Request.Deletes]

end BlobLimbo.Shelf
