import BlobLimbo.Proofs.Store.Capacity
import BlobLimbo.Proofs.Store.Kept
import BlobLimbo.Proofs.Store.Openable

/-!
# The store on disk allocates slots

A store that is opened in a directory without shelf files answers every run of requests as the map
of its records says (`serveAll_allocates`), and at every point of the run the map tells its shelves
and the bytes of their files: which slots there are, which of them are free, and what the others
hold. The bytes of a free slot behind its header are the only trace of the past.
-/

namespace BlobLimbo.ShelfStore

open Std

variable {path : String} {sizes : List UInt32} {disk : Disk} {store : ShelfStore} {kept : Kept}
  {shelf old : OpenShelf} {next : Shelf} {number slot : Nat} {content data : Bytes} {id : SlotId}

/-- What a request is answered, from what an operation returns. -/
def answer {α : Type} (describe : α → Answer) : Except StoreError α → Answer
  | .ok value => describe value
  | .error error => .refused error

/-- A store serves a request. When it is opened again, its directory and slot sizes are given
again. -/
def serve (path : String) (sizes : List UInt32) (store : ShelfStore) :
    Request → Answer × ShelfStore
  | .put data =>
    let outcome := ShelfStore.put data store
    (answer .stored outcome.value, outcome.state)
  | .get id =>
    let outcome := ShelfStore.get id store
    (answer .found outcome.value, outcome.state)
  | .delete id =>
    let outcome := ShelfStore.delete id store
    (answer (fun _ => .deleted) outcome.value, outcome.state)
  | .reopen =>
    let opened := ShelfStore.open path sizes { disk := store.disk }
    match opened.value with
    | .ok next => (.reopened opened.state.records, next)
    | .error error => (.refused error, store)

/-- A store serves some requests. -/
def serveAll (path : String) (sizes : List UInt32) (store : ShelfStore) :
    List Request → List Answer × ShelfStore
  | [] => ([], store)
  | request :: requests =>
    let (answer, next) := serve path sizes store request
    let (answers, last) := serveAll path sizes next requests
    (answer :: answers, last)

/-- A store that is open keeps the records of a map, and its slots hold nothing but them. -/
structure Keeps (path : String) (sizes : List UInt32) (kept : Kept) (store : ShelfStore) :
    Prop where
  openAt : OpenAt path sizes store
  record?_eq : ∀ id, store.record? id = kept[id]?
  padded : ∀ shelf ∈ store.shelves, shelf.toShelf.Padded (store.disk.read shelf.handle)

/-- The slots of a shelf hold nothing but records when those of the shelf do that was replaced. -/
theorem Intact.padded_setShelf (h : Intact store) (hold : store.shelves[number]? = some old)
    (hnext : next.Padded content)
    (hpadded : ∀ shelf ∈ store.shelves, shelf.toShelf.Padded (store.disk.read shelf.handle)) :
    ∀ shelf ∈ (store.setShelf number old next content).shelves,
      shelf.toShelf.Padded ((store.setShelf number old next content).disk.read shelf.handle) := by
  intro shelf hmem
  obtain ⟨i, hshelf⟩ := List.mem_iff_getElem?.mp hmem
  rw [ShelfStore.setShelf, List.getElem?_set] at hshelf
  change shelf.toShelf.Padded ((store.disk.write old.handle content).read shelf.handle)
  split at hshelf
  · rw [if_pos (List.getElem?_eq_some_iff.mp hold).1, Option.some.injEq] at hshelf
    subst hshelf
    rw [(h.attached_of_getElem? hold).reaches.read_write]
    exact hnext
  · rename_i hne
    rw [h.read_write_of_ne hold (Ne.symm hne) hshelf]
    exact hpadded shelf (List.mem_of_getElem? hshelf)

namespace Keeps

/-- The records of a shelf are those of the map under its ids. -/
theorem shelf_record?_eq (h : Keeps path sizes kept store)
    (hshelf : store.shelves[number]? = some shelf) (hslot : slot < 2 ^ 32) :
    shelf.toShelf.record? (store.disk.read shelf.handle) slot = kept[idOf number slot]? := by
  rw [← h.record?_eq, record?_of_shelf (by rwa [shelfOf_idOf _ hslot]), slotOf_idOf _ hslot]

/-- There is a shelf for each slot size. -/
theorem length_shelves (h : Keeps path sizes kept store) : store.shelves.length = sizes.length := by
  rw [← h.openAt.sizes_eq, slotSizes, List.length_map]

/-- A slot of a shelf has a record when its id is in the map. -/
theorem record?_ne_none_iff (h : Keeps path sizes kept store)
    (hshelf : store.shelves[number]? = some shelf) (hslot : slot < 2 ^ 32) :
    shelf.toShelf.record? (store.disk.read shelf.handle) slot ≠ none ↔ idOf number slot ∈ kept := by
  rw [h.shelf_record?_eq hshelf hslot, ExtTreeMap.mem_iff_isSome_getElem?,
    Option.isSome_iff_ne_none]

/-- A shelf has as many slots as its last record in the map needs. -/
theorem slots_eq_height (h : Keeps path sizes kept store)
    (hshelf : store.shelves[number]? = some shelf) : shelf.slots = kept.height number := by
  obtain ⟨-, -, -, hlaid, hslots⟩ := h.openAt.intact.attached_of_getElem? hshelf
  apply Nat.le_antisymm
  · rw [hlaid.slots_le_iff]
    intro slot hlive
    have hslot : slot < 2 ^ 32 :=
      Nat.lt_of_lt_of_le (hlaid.record?_ne_none_iff.mp hlive).1 hslots
    rw [Kept.lt_height_iff]
    refine ⟨idOf number slot, (h.record?_ne_none_iff hshelf hslot).mp hlive, ?_⟩
    exact ⟨shelfOf_idOf number hslot, Nat.le_of_eq (slotOf_idOf number hslot).symm⟩
  · by_contra hhigher
    obtain ⟨id, hmem, rfl, hbehind⟩ := Kept.lt_height_iff.mp (Nat.not_le.mp hhigher)
    rw [← idOf_shelfOf id, ← h.record?_ne_none_iff hshelf (slotOf_lt id)] at hmem
    exact Nat.not_lt.mpr hbehind (hlaid.record?_ne_none_iff.mp hmem).1

/-- The slot that a shelf chooses for a record is the first free one. -/
theorem firstFree_eq_of_insert {result : Nat × Shelf × Bytes} (h : Keeps path sizes kept store)
    (hshelf : store.shelves[number]? = some shelf) (hslot : result.1 < 2 ^ 32)
    (hinsert : shelf.insert (store.disk.read shelf.handle) data = .ok result) :
    kept.firstFree number = result.1 := by
  have hlaid := (h.openAt.intact.attached_of_getElem? hshelf).laid
  obtain ⟨hnone, hbefore⟩ := hlaid.first_of_insert hinsert
  rw [Kept.firstFree, Nat.find_eq_iff]
  constructor
  · rw [← h.record?_ne_none_iff hshelf hslot]
    exact not_not.mpr hnone
  · intro slot hlt
    rw [not_not, ← h.record?_ne_none_iff hshelf (Nat.lt_trans hlt hslot)]
    exact hbefore slot hlt

/-- A shelf that takes no record has no slot left. -/
theorem le_firstFree_of_insert {error : StoreError} (h : Keeps path sizes kept store)
    (hshelf : store.shelves[number]? = some shelf)
    (hinsert : shelf.insert (store.disk.read shelf.handle) data = .error error) :
    2 ^ 32 ≤ kept.firstFree number ∧ error = .shelfFull shelf.slotSize := by
  obtain ⟨-, -, -, hlaid, hslots⟩ := h.openAt.intact.attached_of_getElem? hshelf
  have hfull : ∀ slot < 2 ^ 32,
      shelf.toShelf.record? (store.disk.read shelf.handle) slot ≠ none := by
    intro slot hslot hnone
    obtain ⟨result, hresult⟩ := hlaid.exists_insert_of_free hslot hnone data
    simp [hinsert] at hresult
  constructor
  · rw [Kept.firstFree, Nat.le_find_iff]
    intro slot hslot
    rw [not_not, ← h.record?_ne_none_iff hshelf hslot]
    exact hfull slot hslot
  · have hrefused := hlaid.insert_of_full hslots hfull data
    rw [hinsert] at hrefused
    exact Except.error.inj hrefused

/-- An id that is not in the map is refused for the place it leads to. -/
theorem refusal_eq (h : Keeps path sizes kept store) (id : SlotId) :
    kept.refusal sizes id =
      match store.shelves[shelfOf id]? with
      | none => .unknownShelf id
      | some shelf => if shelf.slots ≤ slotOf id then .slotOutOfBounds id else .emptySlot id := by
  rw [Kept.refusal, ← h.length_shelves]
  cases hshelf : store.shelves[shelfOf id]? with
  | none => rw [if_pos (List.getElem?_eq_none_iff.mp hshelf)]
  | some shelf =>
    have hlt := (List.getElem?_eq_some_iff.mp hshelf).1
    rw [if_neg (Nat.not_le.mpr hlt), ← h.slots_eq_height hshelf]

/-- An id that is not in the map is not read, and not deleted, and why is told by the map. -/
theorem value_of_none (h : Keeps path sizes kept store) (hnone : kept[id]? = none) :
    (ShelfStore.get id store).value = .error (kept.refusal sizes id) ∧
      (ShelfStore.delete id store).value = .error (kept.refusal sizes id) := by
  have hrefusal := h.refusal_eq id
  rw [← h.record?_eq] at hnone
  unfold ShelfStore.get ShelfStore.delete
  cases hshelf : store.shelves[shelfOf id]? with
  | none =>
    rw [hshelf] at hrefusal
    rw [hrefusal]
    exact ⟨rfl, rfl⟩
  | some shelf =>
    have hlaid := (h.openAt.intact.attached_of_getElem? hshelf).laid
    rw [record?_of_shelf hshelf] at hnone
    rw [hshelf] at hrefusal
    dsimp only at hrefusal ⊢
    rw [hrefusal, hlaid.read_of_none hnone, hlaid.delete_of_none hnone]
    exact ⟨rfl, rfl⟩

/-- Storing a record leaves nothing but records in the slots. -/
theorem padded_put (h : Keeps path sizes kept store) (data : Bytes) :
    ∀ shelf ∈ (ShelfStore.put data store).state.shelves,
      shelf.toShelf.Padded ((ShelfStore.put data store).state.disk.read shelf.handle) := by
  rcases put_cases store data with
    ⟨error, hfailed⟩ | ⟨shelf, slot, next, content, hdata, hshelf, hinsert, hdone⟩
  · rw [hfailed]
    exact h.padded
  · have hlaid := (h.openAt.intact.attached_of_getElem? hshelf).laid
    have hpadded := h.padded shelf (List.mem_of_getElem? hshelf)
    rw [hdone]
    exact h.openAt.intact.padded_setShelf hshelf
      (hpadded.insert hlaid hdata (length_le_capacity hshelf) hinsert) h.padded

/-- Deleting a record leaves nothing but records in the slots. -/
theorem padded_delete (h : Keeps path sizes kept store) (id : SlotId) :
    ∀ shelf ∈ (ShelfStore.delete id store).state.shelves,
      shelf.toShelf.Padded ((ShelfStore.delete id store).state.disk.read shelf.handle) := by
  rcases delete_cases store id with
    ⟨error, hfailed⟩ | ⟨shelf, next, content, hshelf, hdelete, hdone⟩
  · rw [hfailed]
    exact h.padded
  · have hlaid := (h.openAt.intact.attached_of_getElem? hshelf).laid
    have hpadded := h.padded shelf (List.mem_of_getElem? hshelf)
    rw [hdone]
    exact h.openAt.intact.padded_setShelf hshelf (hpadded.delete hlaid hdelete) h.padded

/-- Reading answers what the map says. -/
theorem get (h : Keeps path sizes kept store) (id : SlotId) :
    (serve path sizes store (.get id)).1 = (kept.perform sizes (.get id)).1 ∧
      Keeps path sizes (kept.perform sizes (.get id)).2 (serve path sizes store (.get id)).2 := by
  simp only [serve, Kept.perform, state_get]
  cases hfound : kept[id]? with
  | none =>
    rw [(h.value_of_none hfound).1]
    exact ⟨rfl, h⟩
  | some data =>
    rw [← h.record?_eq, ← h.openAt.intact.value_get_eq_ok_iff] at hfound
    rw [hfound]
    exact ⟨rfl, h⟩

/-- Deleting answers what the map says, and takes the record out of it. -/
theorem delete (h : Keeps path sizes kept store) (id : SlotId) :
    (serve path sizes store (.delete id)).1 = (kept.perform sizes (.delete id)).1 ∧
      Keeps path sizes (kept.perform sizes (.delete id)).2
        (serve path sizes store (.delete id)).2 := by
  simp only [serve, Kept.perform]
  by_cases hmem : id ∈ kept
  · have hlive : store.record? id ≠ none := by
      rwa [h.record?_eq, ← Option.isSome_iff_ne_none, ← ExtTreeMap.mem_iff_isSome_getElem?]
    have hdelete := h.openAt.intact.value_delete hlive
    obtain ⟨-, -, hrecords⟩ := h.openAt.intact.delete_ok hdelete
    rw [if_pos hmem, hdelete]
    refine ⟨rfl, h.openAt.delete id, fun other => ?_, h.padded_delete id⟩
    rw [hrecords, ExtTreeMap.getElem?_erase, Function.update_apply, h.record?_eq]
    simp only [LawfulEqCmp.compare_eq_iff_eq, eq_comm (a := id)]
  · have hnone : kept[id]? = none := ExtTreeMap.getElem?_eq_none hmem
    have hdelete := (h.value_of_none hnone).2
    rw [if_neg hmem, hdelete, state_delete_of_error hdelete]
    exact ⟨rfl, h⟩

/-- A record of a length that fits goes into the first free slot of its shelf, if that slot can be
numbered. -/
theorem put_of_fits (h : Keeps path sizes kept store) (hdata : data ≠ [])
    (hfits : data.length ≤ store.maxRecordSize) :
    (ShelfStore.put data store).value =
      if kept.firstFree (Kept.shelfFor sizes data) < 2 ^ 32 then
        .ok (idOf (Kept.shelfFor sizes data) (kept.firstFree (Kept.shelfFor sizes data)))
      else .error (.shelfFull (sizes.getD (Kept.shelfFor sizes data) 0)) := by
  have hnumber : store.shelfFor data = Kept.shelfFor sizes data := by
    rw [shelfFor_eq, h.openAt.sizes_eq]
    rfl
  obtain ⟨size, hmem, hlength⟩ := h.openAt.intact.exists_fitting hfits
  obtain ⟨fitting, hfitting, rfl⟩ := List.mem_map.mp hmem
  have hlt : store.shelfFor data < store.shelves.length :=
    List.findIdx_lt_length_of_exists ⟨fitting, hfitting, decide_eq_true hlength⟩
  obtain ⟨shelf, hshelf⟩ : ∃ shelf, store.shelves[store.shelfFor data]? = some shelf :=
    ⟨_, List.getElem?_eq_getElem hlt⟩
  obtain ⟨-, -, -, hlaid, hslots⟩ := h.openAt.intact.attached_of_getElem? hshelf
  rw [put_of_shelf hdata hshelf]
  cases hinsert : shelf.insert (store.disk.read shelf.handle) data with
  | error error =>
    rw [hnumber] at hshelf
    obtain ⟨hfull, rfl⟩ := h.le_firstFree_of_insert hshelf hinsert
    rw [if_neg (Nat.not_lt.mpr hfull), List.getD_eq_getElem?_getD,
      h.openAt.slotSize_of_shelf hshelf]
    rfl
  | ok result =>
    obtain ⟨-, -, hinside, hnumbers, -⟩ :=
      hlaid.insert_spec hdata (length_le_capacity hshelf) hinsert
    have hslot : result.1 < 2 ^ 32 := by omega
    rw [hnumber] at hshelf
    rw [h.firstFree_eq_of_insert hshelf hslot hinsert, if_pos hslot, hnumber]

/-- Storing a record answers what the map says, and adds the record to it. -/
theorem put (h : Keeps path sizes kept store) (data : Bytes) :
    (serve path sizes store (.put data)).1 = (kept.perform sizes (.put data)).1 ∧
      Keeps path sizes (kept.perform sizes (.put data)).2
        (serve path sizes store (.put data)).2 := by
  have hlongest : Kept.longest sizes = store.maxRecordSize := by
    rw [Kept.longest, maxRecordSize_eq, h.openAt.sizes_eq]
  have hrefused : ∀ {error}, (ShelfStore.put data store).value = .error error →
      Keeps path sizes kept (ShelfStore.put data store).state := by
    intro error herror
    rwa [state_put_of_error herror]
  simp only [serve, Kept.perform, hlongest]
  by_cases hdata : data = []
  · subst hdata
    exact ⟨rfl, h⟩
  · rw [if_neg hdata]
    by_cases hlong : store.maxRecordSize < data.length
    · rw [if_pos hlong, h.openAt.intact.put_of_long hlong]
      exact ⟨rfl, h⟩
    · have hput := h.put_of_fits hdata (Nat.not_lt.mp hlong)
      rw [if_neg hlong]
      by_cases hfree : kept.firstFree (Kept.shelfFor sizes data) < 2 ^ 32
      · rw [if_pos hfree] at hput
        obtain ⟨-, -, hrecords⟩ := h.openAt.intact.put_ok hput
        rw [if_pos hfree, hput]
        refine ⟨rfl, h.openAt.put data, fun other => ?_, h.padded_put data⟩
        rw [hrecords, ExtTreeMap.getElem?_insert, Function.update_apply, h.record?_eq]
        simp only [LawfulEqCmp.compare_eq_iff_eq, eq_comm (b := other)]
      · rw [if_neg hfree] at hput
        rw [if_neg hfree, hput]
        exact ⟨rfl, hrefused hput⟩

/-- Opening the store again lists the records of the map, and finds the store as it is. -/
theorem reopen (h : Keeps path sizes kept store) :
    serve path sizes store .reopen = (.reopened kept.toList, store) := by
  obtain ⟨records, hlists, hopen⟩ := open_of_intact h.openAt.intact
  rw [h.openAt.path_eq, h.openAt.sizes_eq] at hopen
  have hlayout := h.openAt.intact.layout
  rw [h.openAt.sizes_eq] at hlayout
  obtain ⟨-, -, hrecords⟩ := open_of_openable hlayout h.openAt.numberable h.openAt.openable
  have hsorted : (replayed path store.disk 0 sizes).Pairwise fun a b => a.1 < b.1 :=
    sorted_replayed h.openAt.header_lt h.openAt.numberable
  rw [← hrecords, hopen] at hsorted
  have hlisted : records = kept.toList := by
    refine Kept.eq_toList hsorted fun id data => ?_
    rw [hlists.mem_iff, ← h.record?_eq]
    rfl
  rw [serve, hopen, hlisted]

/-- A request is answered as the map says, and the map says what is kept after it. -/
theorem serve (h : Keeps path sizes kept store) (request : Request) :
    (serve path sizes store request).1 = (kept.perform sizes request).1 ∧
      Keeps path sizes (kept.perform sizes request).2 (serve path sizes store request).2 := by
  cases request with
  | put data => exact h.put data
  | get id => exact h.get id
  | delete id => exact h.delete id
  | reopen =>
    rw [h.reopen]
    exact ⟨rfl, h⟩

/-- A run is answered as the map says, and the map says what is kept after it. -/
theorem serveAll (h : Keeps path sizes kept store) (requests : List Request) :
    (serveAll path sizes store requests).1 = (kept.run sizes requests).1 ∧
      Keeps path sizes (kept.run sizes requests).2 (serveAll path sizes store requests).2 := by
  induction requests generalizing kept store with
  | nil => exact ⟨rfl, h⟩
  | cons request requests ih =>
    obtain ⟨hanswer, hnext⟩ := h.serve request
    obtain ⟨hanswers, hlast⟩ := ih hnext
    exact ⟨congrArg₂ List.cons hanswer hanswers, hlast⟩

/-- A request that is refused leaves the store and its files as they are. -/
theorem serve_of_refused (h : Keeps path sizes kept store) {request : Request} {error : StoreError}
    (hrefused : (ShelfStore.serve path sizes store request).1 = .refused error) :
    (ShelfStore.serve path sizes store request).2 = store := by
  have hvalue : ∀ {α : Type} {describe : α → Answer} {value : Except StoreError α},
      (∀ value, describe value ≠ .refused error) → answer describe value = .refused error →
        value = .error error := by
    intro α describe value hdescribe hanswer
    cases value with
    | ok value => exact absurd hanswer (hdescribe value)
    | error cause => rw [Answer.refused.inj hanswer]
  cases request with
  | put data => exact state_put_of_error (hvalue (by simp) hrefused)
  | get id => exact state_get store id
  | delete id => exact state_delete_of_error (hvalue (by simp) hrefused)
  | reopen => rw [h.reopen]

/-- A new record gets an id that is not in the map. -/
theorem not_mem_of_stored (h : Keeps path sizes kept store)
    (hstored : (ShelfStore.serve path sizes store (.put data)).1 = .stored id) : id ∉ kept := by
  have hput : (ShelfStore.put data store).value = .ok id := by
    change answer .stored (ShelfStore.put data store).value = .stored id at hstored
    cases hvalue : (ShelfStore.put data store).value with
    | ok value =>
      rw [hvalue] at hstored
      rw [Answer.stored.inj hstored]
    | error error => simp [hvalue, answer] at hstored
  have hfree := (h.openAt.intact.put_ok hput).2.1
  rw [h.record?_eq] at hfree
  rw [ExtTreeMap.mem_iff_isSome_getElem?, hfree]
  simp

end Keeps

/-- A map tells a shelf and the bytes of its file. -/
structure ShelfMirrors (kept : Kept) (number : Nat) (shelf : Shelf) (content : Bytes) : Prop where
  /-- There are slots up to the last record. -/
  slots : shelf.slots = kept.height number
  /-- The gaps are the slots in front of it without a record. -/
  gap_iff : ∀ slot, slot ∈ shelf.gaps ↔ slot < kept.height number ∧ idOf number slot ∉ kept
  /-- The file ends behind the last record. -/
  length : content.length = kept.height number * shelf.slotSize.toNat
  /-- A slot with a record holds its length, the record, and zeros. -/
  image : ∀ id data, shelfOf id = number → kept[id]? = some data →
    content.region shelf.slotSize.toNat (slotOf id) = shelf.slotImage data
  /-- The header of a gap is zero. -/
  free : ∀ slot < kept.height number, idOf number slot ∉ kept →
    (content.region shelf.slotSize.toNat slot).take slotHeaderSize =
      List.replicate slotHeaderSize 0

/-- A map tells the shelves of a store and the bytes of their files. -/
structure Mirrors (path : String) (sizes : List UInt32) (kept : Kept) (store : ShelfStore) :
    Prop where
  sizes_eq : store.slotSizes = sizes
  shelf : ∀ number shelf, store.shelves[number]? = some shelf →
    ShelfMirrors kept number shelf.toShelf (fileContent path store.disk shelf.slotSize)

/-- A store that keeps the records of a map has nothing else in its files. -/
theorem Keeps.mirrors (h : Keeps path sizes kept store) : Mirrors path sizes kept store := by
  refine ⟨h.openAt.sizes_eq, fun number shelf hshelf => ?_⟩
  obtain ⟨-, -, -, hlaid, hslots⟩ := h.openAt.intact.attached_of_getElem? hshelf
  obtain ⟨found, hfound, -, hread⟩ := h.openAt.exists_shelf (h.openAt.slotSize_of_shelf hshelf)
  obtain rfl : shelf = found := Option.some.inj (hshelf.symm.trans hfound)
  have hheight := h.slots_eq_height hshelf
  have hnone : ∀ {slot}, slot < kept.height number →
      (shelf.toShelf.record? (store.disk.read shelf.handle) slot = none ↔
        idOf number slot ∉ kept) := by
    intro slot hlt
    rw [← h.record?_ne_none_iff hshelf (by omega), not_not]
  rw [← hread]
  refine ⟨hheight, fun slot => ?_, ?_, ?_, fun slot hlt hfree => ?_⟩
  · rw [hlaid.mem_gaps_iff, hheight]
    exact and_congr_right hnone
  · rw [hlaid.length, hheight]
  · rintro id data rfl hdata
    refine h.padded shelf (List.mem_of_getElem? hshelf) _ _ ?_
    rwa [h.shelf_record?_eq hshelf (slotOf_lt id), idOf_shelfOf]
  · have hend := hlaid.end_le (hheight ▸ hlt)
    rw [Nat.succ_mul] at hend
    rw [Shelf.take_region (Nat.le_of_lt hlaid.header)]
    refine (hlaid.vacant ((hnone hlt).mpr hfree)).resolve_left fun hbehind => ?_
    have hheader := hlaid.header
    omega

/-- A store that is opened in a directory without shelf files keeps nothing. -/
theorem keeps_open (hlayout : layoutError? sizes = none) (hopenable : Openable path sizes disk)
    (hmissing : ∀ slotSize ∈ sizes,
      disk.content? (Path.place (shelfPath path slotSize)) = none) :
    ∃ store, (ShelfStore.open path sizes { disk }).value = .ok store ∧
      (ShelfStore.open path sizes { disk }).state.records = [] ∧ Keeps path sizes ∅ store := by
  have hslots : Numberable path sizes disk := by
    intro slotSize hmem content hcontent
    simp [hmissing slotSize hmem] at hcontent
  have hnone := payloads_of_missing hmissing (layout_of_layoutError? hlayout).2
  obtain ⟨store, hopen, hrecords⟩ := open_of_openable hlayout hslots hopenable
  obtain ⟨hopenAt, hlists⟩ := open_spec hslots hopen
  have hrecord : ∀ id, store.record? id = none := by
    rw [record?_open hslots hopen hrecords]
    exact hnone
  refine ⟨store, hopen, ?_, hopenAt, fun id => ?_, fun shelf hmem slot data hdata => ?_⟩
  · rw [List.eq_nil_iff_forall_not_mem]
    rintro ⟨id, data⟩ hmem
    have hdata := (hlists.mem_iff id data).mp hmem
    change store.record? id = some data at hdata
    simp [hrecord] at hdata
  · rw [hrecord, ExtTreeMap.getElem?_empty]
  · obtain ⟨number, hshelf⟩ := List.mem_iff_getElem?.mp hmem
    have hfound := hopenAt.intact.record?_of_slot hshelf hdata
    simp [hrecord] at hfound

/-- A store answers a run as the map of its records says, the map tells its files after the run, and
a next request that is refused changes nothing, while a next record gets an id that is free. -/
structure Allocates (path : String) (sizes : List UInt32) (store : ShelfStore)
    (requests : List Request) : Prop where
  answers : (store.serveAll path sizes requests).1 = (Kept.run sizes ∅ requests).1
  mirrors : Mirrors path sizes (Kept.run sizes ∅ requests).2
    (store.serveAll path sizes requests).2
  fresh : ∀ data id, ((store.serveAll path sizes requests).2.serve path sizes (.put data)).1 =
    .stored id → id ∉ (Kept.run sizes ∅ requests).2
  unchanged : ∀ request error,
    ((store.serveAll path sizes requests).2.serve path sizes request).1 = .refused error →
      ((store.serveAll path sizes requests).2.serve path sizes request).2 =
        (store.serveAll path sizes requests).2

/-- **Allocation.** For all slot sizes that can be used, and on every disk where the directory can
be opened and has no shelf files yet, a store is opened without records. Whatever it is asked from
then on, to keep, read and give up records and to be opened again, it allocates as the map of its
records says. -/
theorem serveAll_allocates (hlayout : layoutError? sizes = none)
    (hopenable : Openable path sizes disk)
    (hmissing : ∀ slotSize ∈ sizes,
      disk.content? (Path.place (shelfPath path slotSize)) = none) :
    ∃ store, (ShelfStore.open path sizes { disk }).value = .ok store ∧
      (ShelfStore.open path sizes { disk }).state.records = [] ∧
      ∀ requests, Allocates path sizes store requests := by
  obtain ⟨store, hopen, hrecords, hkeeps⟩ := keeps_open hlayout hopenable hmissing
  refine ⟨store, hopen, hrecords, fun requests => ?_⟩
  obtain ⟨hanswers, hlast⟩ := hkeeps.serveAll requests
  exact ⟨hanswers, hlast.mirrors, fun data id => hlast.not_mem_of_stored,
    fun request error => hlast.serve_of_refused⟩

/-- A store with two shelves is opened in a directory that is made for it. -/
theorem serveAll_allocates_two_shelves :
    ∃ store, (ShelfStore.open "store" [16, 64] { disk := {} }).value = .ok store ∧
      (ShelfStore.open "store" [16, 64] { disk := {} }).state.records = [] ∧
      ∀ requests, Allocates "store" [16, 64] store requests := by
  refine serveAll_allocates (by decide) ⟨by decide +kernel, ?_⟩ fun _ _ => Disk.content?_empty _
  rw [List.forall_mem_cons, List.forall_mem_singleton]
  exact ⟨⟨⟨["store", "shelf-00000016.dat"], 0⟩, by decide +kernel⟩,
    ⟨⟨["store", "shelf-00000064.dat"], 0⟩, by decide +kernel⟩⟩

end BlobLimbo.ShelfStore
