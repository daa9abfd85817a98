import BlobLimbo.Proofs.Disk.Files
import BlobLimbo.Proofs.Shelf.Changes
import BlobLimbo.Proofs.Store.Lawful
import BlobLimbo.Store.Shelves

/-!
# The store on disk is lawful

A store on disk is intact when its shelves lie tidily in files of their own, and their slots can be
numbered (`Intact`). An id leads to one slot of one shelf, so storing and deleting a record changes
the record of one id. Deletions of live records never fail.
-/

namespace BlobLimbo.ShelfStore

open Std

variable {store : ShelfStore} {shelf old : OpenShelf} {next : Shelf} {content data : Bytes}
  {number slot : Nat} {id : SlotId}

section Ids

/-- An id holds the slot number below the shelf number. -/
theorem idOf_eq (number : Nat) (hslot : slot < 2 ^ 32) :
    idOf number slot = number * 2 ^ 32 + slot := by
  rw [idOf, slotBits, ← Nat.shiftLeft_add_eq_or_of_lt hslot, Nat.shiftLeft_eq]

theorem shelfOf_eq (id : SlotId) : shelfOf id = id / 2 ^ 32 := by
  rw [shelfOf, slotBits, Nat.shiftRight_eq_div_pow]

theorem slotOf_eq (id : SlotId) : slotOf id = id % 2 ^ 32 := by
  rw [slotOf, slotBits, Nat.shiftLeft_eq, Nat.one_mul]

theorem slotOf_lt (id : SlotId) : slotOf id < 2 ^ 32 := by
  rw [slotOf_eq]
  exact Nat.mod_lt _ (by decide)

/-- An id leads to the shelf it was made for. -/
theorem shelfOf_idOf (number : Nat) (hslot : slot < 2 ^ 32) :
    shelfOf (idOf number slot) = number := by
  rw [shelfOf_eq, idOf_eq number hslot]
  omega

/-- An id leads to the slot it was made for. -/
theorem slotOf_idOf (number : Nat) (hslot : slot < 2 ^ 32) : slotOf (idOf number slot) = slot := by
  rw [slotOf_eq, idOf_eq number hslot]
  omega

/-- An id is that of the slot it leads to. -/
theorem idOf_shelfOf (id : SlotId) : idOf (shelfOf id) (slotOf id) = id := by
  rw [idOf_eq _ (slotOf_lt id), shelfOf_eq, slotOf_eq]
  exact Nat.div_add_mod' id (2 ^ 32)

end Ids

section Layout

variable {sizes : List UInt32}

/-- Slot sizes without unordered neighbours increase. -/
theorem pairwise_lt_of_firstUnordered (h : firstUnordered sizes = none) :
    sizes.Pairwise (· < ·) := by
  rw [← List.isChain_iff_pairwise]
  induction sizes with
  | nil => exact .nil
  | cons first sizes ih =>
    cases sizes with
    | nil => exact .singleton first
    | cons second sizes =>
      rw [firstUnordered] at h
      split at h
      · simp at h
      · rename_i hle
        exact .cons_cons (UInt32.not_le.mp hle) (ih h)

/-- Slot sizes that can be used increase, and every slot holds more than a header. -/
theorem layout_of_layoutError? (h : layoutError? sizes = none) :
    sizes.Pairwise (· < ·) ∧ ∀ size ∈ sizes, slotHeaderSize < size.toNat := by
  unfold layoutError? at h
  split at h
  · simp at h
  · simp at h
  · rename_i first rest hordered
    split at h
    · simp at h
    · rename_i hheader
      have hpairwise := pairwise_lt_of_firstUnordered hordered
      refine ⟨hpairwise, fun size hmem => ?_⟩
      rcases List.mem_cons.mp hmem with rfl | hmem
      · exact Nat.lt_of_not_le hheader
      · have hlt := List.rel_of_pairwise_cons hpairwise hmem
        rw [UInt32.lt_iff_toNat_lt] at hlt
        omega

/-- Slot sizes that can be used are different. -/
theorem nodup_of_layoutError? (h : layoutError? sizes = none) : sizes.Nodup :=
  (layout_of_layoutError? h).1.imp fun hlt heq => by
    subst heq
    exact UInt32.lt_irrefl _ hlt

/-- Increasing slot sizes have no unordered neighbours. -/
theorem firstUnordered_eq_none (h : sizes.Pairwise (· < ·)) : firstUnordered sizes = none := by
  induction sizes with
  | nil => rfl
  | cons first sizes ih =>
    rw [List.pairwise_cons] at h
    cases sizes with
    | nil => rfl
    | cons second sizes =>
      rw [firstUnordered, if_neg (UInt32.not_le.mpr (h.1 second List.mem_cons_self)), ih h.2]

/-- Increasing slot sizes can be used when every slot holds more than a header. -/
theorem layoutError?_eq_none (hne : sizes ≠ []) (hpairwise : sizes.Pairwise (· < ·))
    (hheader : ∀ size ∈ sizes, slotHeaderSize < size.toNat) : layoutError? sizes = none := by
  cases sizes with
  | nil => exact absurd rfl hne
  | cons first sizes =>
    have hfirst := Nat.not_le.mpr (hheader first List.mem_cons_self)
    simp only [layoutError?, firstUnordered_eq_none hpairwise, if_neg hfirst]

end Layout

/-- A shelf lies tidily in its file in a directory. -/
structure Attached (path : String) (disk : Disk) (shelf : OpenShelf) : Prop where
  accepted : Path.refusal? (shelfPath path shelf.slotSize) = none
  destination : disk.destination (Path.names (shelfPath path shelf.slotSize)) =
    .ok shelf.handle.path
  reaches : disk.Reaches shelf.handle
  laid : shelf.Laid (disk.read shelf.handle)
  slots_le : shelf.slots ≤ 2 ^ 32

/-- The store's directory is there, and every shelf lies tidily in its file. -/
structure Intact (store : ShelfStore) : Prop where
  layout : layoutError? store.slotSizes = none
  accepted : Path.refusal? store.path = none
  directory : ∃ place, store.disk.walk (Path.names store.path) = .ok place
  attached : ∀ shelf ∈ store.shelves, Attached store.path store.disk shelf

/-- The file of a shelf stands where the name of its slot size leads. -/
theorem Attached.place_eq {path : String} {disk : Disk} (h : Attached path disk shelf) :
    Path.place (shelfPath path shelf.slotSize) = shelf.handle.path :=
  Disk.place_of_destination h.destination

/-- The record an id leads to. -/
def record? (store : ShelfStore) (id : SlotId) : Option Bytes :=
  store.shelves[shelfOf id]?.bind fun shelf =>
    shelf.toShelf.record? (store.disk.read shelf.handle) (slotOf id)

/-- The record of an id lies on the shelf the id leads to. -/
theorem record?_of_shelf (hshelf : store.shelves[shelfOf id]? = some shelf) :
    store.record? id = shelf.toShelf.record? (store.disk.read shelf.handle) (slotOf id) := by
  rw [record?, hshelf, Option.bind_some]

/-- A shelf that is replaced by one of its slot size leaves the slot sizes as they are. -/
theorem slotSizes_setShelf (hold : store.shelves[number]? = some old)
    (hsize : next.slotSize = old.slotSize) (content : Bytes) :
    (store.setShelf number old next content).slotSizes = store.slotSizes := by
  obtain ⟨hlt, hget⟩ := List.getElem?_eq_some_iff.mp hold
  apply List.ext_getElem?
  intro i
  simp only [slotSizes, setShelf, List.getElem?_map, List.getElem?_set]
  split
  · rename_i heq
    subst heq
    simp [hlt, hget, hsize]
  · rfl

namespace Intact

/-- A shelf of an intact store. -/
theorem attached_of_getElem? (h : Intact store) (hshelf : store.shelves[number]? = some shelf) :
    Attached store.path store.disk shelf :=
  h.attached shelf (List.mem_of_getElem? hshelf)

/-- A record on a shelf is a record of the store. -/
theorem record?_of_slot (h : Intact store) (hshelf : store.shelves[number]? = some shelf)
    (hrecord : shelf.toShelf.record? (store.disk.read shelf.handle) slot = some data) :
    store.record? (idOf number slot) = some data := by
  have hslot : slot < 2 ^ 32 := Nat.lt_of_lt_of_le (Shelf.lt_slots_of_record? hrecord)
    (h.attached_of_getElem? hshelf).slots_le
  rw [record?_of_shelf (by rwa [shelfOf_idOf _ hslot]), slotOf_idOf _ hslot, hrecord]

/-- Different shelves lie in different files. -/
theorem apart (h : Intact store) {i j : Nat} {first second : OpenShelf}
    (hfirst : store.shelves[i]? = some first) (hsecond : store.shelves[j]? = some second)
    (hpath : first.handle.path = second.handle.path) : i = j := by
  have hsize : first.slotSize = second.slotSize := by
    apply Path.place_shelfFile_injective store.path
    dsimp only
    have hplace := (h.attached_of_getElem? hfirst).place_eq
    have hplace' := (h.attached_of_getElem? hsecond).place_eq
    rw [shelfPath] at hplace hplace'
    rw [hplace, hplace', hpath]
  have hnodup := nodup_of_layoutError? h.layout
  have hlt : i < store.slotSizes.length := by
    rw [slotSizes, List.length_map]
    exact (List.getElem?_eq_some_iff.mp hfirst).1
  have hsame : store.slotSizes[i]? = store.slotSizes[j]? := by
    rw [slotSizes, List.getElem?_map, List.getElem?_map, hfirst, hsecond]
    exact congrArg some hsize
  exact (List.getElem?_inj hlt hnodup).mp hsame

/-- Writing the file of one shelf leaves the files of the others alone. -/
theorem read_write_of_ne (h : Intact store) (hold : store.shelves[number]? = some old) {i : Nat}
    (hne : i ≠ number) (hshelf : store.shelves[i]? = some shelf) (content : Bytes) :
    (store.disk.write old.handle content).read shelf.handle = store.disk.read shelf.handle :=
  (h.attached_of_getElem? hold).reaches.read_write_of_ne (h.attached_of_getElem? hshelf).reaches
    (fun hpath => hne (h.apart hshelf hold hpath)) content

/-- Replacing a shelf and its file keeps a store intact. -/
theorem setShelf (h : Intact store) (hold : store.shelves[number]? = some old)
    (hlaid : next.Laid content) (hsize : next.slotSize = old.slotSize)
    (hslots : next.slots ≤ 2 ^ 32) : Intact (store.setShelf number old next content) := by
  obtain ⟨haccepted, hdestination, hreaches, -, -⟩ := h.attached_of_getElem? hold
  have hextends := hreaches.extends_write content
  refine ⟨?_, h.accepted, ?_, ?_⟩
  · rw [slotSizes_setShelf hold hsize]
    exact h.layout
  · obtain ⟨place, hwalk⟩ := h.directory
    exact ⟨place, hextends.walk hwalk⟩
  · intro shelf hmem
    obtain ⟨i, hshelf⟩ := List.mem_iff_getElem?.mp hmem
    rw [ShelfStore.setShelf, List.getElem?_set] at hshelf
    split at hshelf
    · rw [if_pos (List.getElem?_eq_some_iff.mp hold).1, Option.some.injEq] at hshelf
      subst hshelf
      refine ⟨?_, ?_, hreaches.extend hextends, ?_, hslots⟩
      · rw [hsize]
        exact haccepted
      · rw [hsize]
        exact hextends.destination hdestination
      · change next.Laid ((store.disk.write old.handle content).read old.handle)
        rw [hreaches.read_write]
        exact hlaid
    · rename_i hne
      obtain ⟨haccepted', hdestination', hreaches', hlaid', hslots'⟩ :=
        h.attached_of_getElem? hshelf
      refine ⟨haccepted', hextends.destination hdestination', hreaches'.extend hextends, ?_,
        hslots'⟩
      change shelf.Laid ((store.disk.write old.handle content).read shelf.handle)
      rw [h.read_write_of_ne hold (Ne.symm hne) hshelf]
      exact hlaid'

/-- Replacing a shelf and its file changes the records of that shelf only. -/
theorem record?_setShelf (h : Intact store) (hold : store.shelves[number]? = some old)
    (next : Shelf) (content : Bytes) (id : SlotId) :
    (store.setShelf number old next content).record? id =
      if shelfOf id = number then next.record? content (slotOf id) else store.record? id := by
  have hlt : number < store.shelves.length := (List.getElem?_eq_some_iff.mp hold).1
  by_cases hid : shelfOf id = number
  · have hshelf : (store.setShelf number old next content).shelves[shelfOf id]? =
        some { next with handle := old.handle } := by
      rw [ShelfStore.setShelf, hid, List.getElem?_set_self hlt]
    rw [if_pos hid, record?_of_shelf hshelf]
    change next.record? ((store.disk.write old.handle content).read old.handle) _ = _
    rw [(h.attached_of_getElem? hold).reaches.read_write]
  · have hshelf : (store.setShelf number old next content).shelves[shelfOf id]? =
        store.shelves[shelfOf id]? := by
      rw [ShelfStore.setShelf, List.getElem?_set_ne (Ne.symm hid)]
    rw [if_neg hid, record?, record?, hshelf]
    cases hfound : store.shelves[shelfOf id]? with
    | none => rfl
    | some shelf =>
      rw [Option.bind_some, Option.bind_some]
      change shelf.record? ((store.disk.write old.handle content).read shelf.handle) _ = _
      rw [h.read_write_of_ne hold hid hfound]

end Intact

/-- The first shelf whose slots a record fits. -/
def shelfFor (store : ShelfStore) (data : Bytes) : Nat :=
  store.shelves.findIdx fun shelf => data.length ≤ shelf.capacity

/-- A record fits the shelf that is chosen for it. -/
theorem length_le_capacity (hshelf : store.shelves[store.shelfFor data]? = some shelf) :
    data.length ≤ shelf.capacity := by
  rw [shelfFor] at hshelf
  obtain ⟨hlt, hget⟩ := List.getElem?_eq_some_iff.mp hshelf
  have hfits := List.findIdx_getElem (w := hlt)
  rw [hget] at hfits
  exact of_decide_eq_true hfits

/-- A record goes into the shelf that is chosen for it. -/
theorem put_of_shelf (hdata : data ≠ [])
    (hshelf : store.shelves[store.shelfFor data]? = some shelf) :
    put data store =
      match shelf.insert (store.disk.read shelf.handle) data with
      | .error error => { value := .error error, state := store }
      | .ok (slot, next, content) =>
        { value := .ok (idOf (store.shelfFor data) slot)
          state := store.setShelf (store.shelfFor data) shelf next content
          events := [.store (.stored (idOf (store.shelfFor data) slot) data.length)] } := by
  have hnonempty : data.isEmpty = false := List.isEmpty_eq_false_iff.mpr hdata
  rw [shelfFor] at hshelf
  simp only [put, hnonempty, hshelf, Bool.false_eq_true, if_false]
  rfl

/-- A record that fits no shelf is too large. -/
theorem put_of_none (hdata : data ≠ []) (hnone : store.shelves[store.shelfFor data]? = none) :
    put data store =
      { value := .error (.recordTooLarge data.length store.maxRecordSize), state := store } := by
  have hnonempty : data.isEmpty = false := List.isEmpty_eq_false_iff.mpr hdata
  rw [shelfFor] at hnone
  simp only [put, hnonempty, hnone, Bool.false_eq_true, if_false]
  rfl

/-- A record is refused, or inserted into the shelf that is chosen for it. -/
theorem put_cases (store : ShelfStore) (data : Bytes) :
    (∃ error, put data store = { value := .error error, state := store }) ∨
      ∃ shelf slot next content, data ≠ [] ∧ store.shelves[store.shelfFor data]? = some shelf ∧
        shelf.insert (store.disk.read shelf.handle) data = .ok (slot, next, content) ∧
        put data store =
          { value := .ok (idOf (store.shelfFor data) slot)
            state := store.setShelf (store.shelfFor data) shelf next content
            events := [.store (.stored (idOf (store.shelfFor data) slot) data.length)] } := by
  by_cases hdata : data = []
  · subst hdata
    exact Or.inl ⟨.emptyRecord, rfl⟩
  · cases hshelf : store.shelves[store.shelfFor data]? with
    | none => exact Or.inl ⟨_, put_of_none hdata hshelf⟩
    | some shelf =>
      rw [put_of_shelf hdata hshelf]
      cases hinsert : shelf.insert (store.disk.read shelf.handle) data with
      | error error => exact Or.inl ⟨error, rfl⟩
      | ok result =>
        exact Or.inr ⟨shelf, result.1, result.2.1, result.2.2, hdata, rfl, hinsert, rfl⟩

/-- A deletion fails, or deletes the slot the id leads to. -/
theorem delete_cases (store : ShelfStore) (id : SlotId) :
    (∃ error, delete id store = { value := .error error, state := store }) ∨
      ∃ shelf next content, store.shelves[shelfOf id]? = some shelf ∧
        shelf.delete (store.disk.read shelf.handle) id (slotOf id) = .ok (next, content) ∧
        delete id store =
          { value := .ok ()
            state := store.setShelf (shelfOf id) shelf next content
            events := [.store (.deleted id)] } := by
  unfold delete
  cases hshelf : store.shelves[shelfOf id]? with
  | none => exact Or.inl ⟨_, rfl⟩
  | some shelf =>
    dsimp only
    cases hdelete : shelf.delete (store.disk.read shelf.handle) id (slotOf id) with
    | error error => exact Or.inl ⟨_, rfl⟩
    | ok result => exact Or.inr ⟨shelf, result.1, result.2, rfl, hdelete, rfl⟩

/-- Reading leaves the store as it is. -/
theorem state_get (store : ShelfStore) (id : SlotId) : (get id store).state = store := by
  unfold get
  split <;> rfl

namespace Intact

/-- Reading gives the record. -/
theorem value_get_eq_ok_iff (h : Intact store) :
    (get id store).value = .ok data ↔ store.record? id = some data := by
  unfold get
  cases hshelf : store.shelves[shelfOf id]? with
  | none => simp [record?, hshelf]
  | some shelf =>
    rw [record?_of_shelf hshelf, ← (h.attached_of_getElem? hshelf).laid.read_eq_ok_iff id]
    rfl

/-- A record that is put gets an id of its own. -/
theorem put_ok (h : Intact store) (hput : (put data store).value = .ok id) :
    Intact (put data store).state ∧ store.record? id = none ∧
      (put data store).state.record? = Function.update store.record? id (some data) := by
  rcases put_cases store data with
    ⟨error, hfailed⟩ | ⟨shelf, slot, next, content, hdata, hshelf, hinsert, hdone⟩
  · simp [hfailed] at hput
  · rw [hdone, Except.ok.injEq] at hput
    rw [hdone]
    dsimp only
    subst hput
    obtain ⟨-, -, -, hlaid, hslots⟩ := h.attached_of_getElem? hshelf
    obtain ⟨hlaid', hsize, hlt, hslots', hfree, hrecords⟩ :=
      hlaid.insert_spec hdata (length_le_capacity hshelf) hinsert
    rw [Nat.max_eq_left hslots] at hslots'
    have hslot : slot < 2 ^ 32 := Nat.lt_of_lt_of_le hlt hslots'
    refine ⟨h.setShelf hshelf hlaid' hsize hslots', ?_, ?_⟩
    · have hfound : store.shelves[shelfOf (idOf (store.shelfFor data) slot)]? = some shelf := by
        rw [shelfOf_idOf _ hslot, hshelf]
      rw [record?_of_shelf hfound, slotOf_idOf _ hslot, hfree]
    · funext id
      rw [h.record?_setShelf hshelf, hrecords, Function.update_apply]
      by_cases hid : id = idOf (store.shelfFor data) slot
      · rw [if_pos hid, hid, shelfOf_idOf _ hslot, slotOf_idOf _ hslot, if_pos rfl, if_pos rfl]
      · rw [if_neg hid]
        split
        · rename_i hsame
          rw [if_neg, record?_of_shelf (hsame ▸ hshelf)]
          intro hslotOf
          apply hid
          rw [← idOf_shelfOf id, hsame, hslotOf]
        · rfl

/-- A record that is deleted is gone, and no other. -/
theorem delete_ok (h : Intact store) (hdelete : (delete id store).value = .ok ()) :
    Intact (delete id store).state ∧ store.record? id ≠ none ∧
      (delete id store).state.record? = Function.update store.record? id none := by
  rcases delete_cases store id with
    ⟨error, hfailed⟩ | ⟨shelf, next, content, hshelf, hdeleted, hdone⟩
  · simp [hfailed] at hdelete
  · rw [hdone]
    dsimp only
    obtain ⟨-, -, -, hlaid, hslots⟩ := h.attached_of_getElem? hshelf
    obtain ⟨hlaid', hsize, hslots', hlive, hrecords⟩ := hlaid.delete_spec hdeleted
    refine ⟨h.setShelf hshelf hlaid' hsize (Nat.le_trans hslots' hslots), ?_, ?_⟩
    · rwa [record?_of_shelf hshelf]
    · funext other
      rw [h.record?_setShelf hshelf, hrecords, Function.update_apply]
      by_cases hid : other = id
      · rw [if_pos hid, hid, if_pos rfl, if_pos rfl]
      · rw [if_neg hid]
        split
        · rename_i hsame
          rw [if_neg, record?_of_shelf (hsame ▸ hshelf)]
          intro hslotOf
          apply hid
          rw [← idOf_shelfOf other, hsame, hslotOf, idOf_shelfOf]
        · rfl

/-- A record that is there can be deleted. -/
theorem value_delete (h : Intact store) (hlive : store.record? id ≠ none) :
    (delete id store).value = .ok () := by
  unfold delete
  cases hshelf : store.shelves[shelfOf id]? with
  | none => simp [record?, hshelf] at hlive
  | some shelf =>
    rw [record?_of_shelf hshelf] at hlive
    obtain ⟨result, hresult⟩ := (h.attached_of_getElem? hshelf).laid.exists_delete id hlive
    dsimp only
    rw [hresult]

end Intact

/-- A record that is refused leaves the store as it is. -/
theorem state_put_of_error {error : StoreError} (herror : (put data store).value = .error error) :
    (put data store).state = store := by
  rcases put_cases store data with ⟨cause, hfailed⟩ | ⟨shelf, slot, next, content, -, -, -, hdone⟩
  · rw [hfailed]
  · simp [hdone] at herror

/-- A deletion that fails leaves the store as it is. -/
theorem state_delete_of_error {error : StoreError}
    (herror : (delete id store).value = .error error) : (delete id store).state = store := by
  rcases delete_cases store id with ⟨cause, hfailed⟩ | ⟨shelf, next, content, -, -, hdone⟩
  · rw [hfailed]
  · simp [hdone] at herror

/-- Storing a record keeps a store intact, whether or not it succeeds. -/
theorem Intact.put (h : Intact store) (data : Bytes) : Intact (put data store).state := by
  cases hput : (ShelfStore.put data store).value with
  | ok id => exact (h.put_ok hput).1
  | error error => rwa [state_put_of_error hput]

/-- Deleting a record keeps a store intact, whether or not it succeeds. -/
theorem Intact.delete (h : Intact store) (id : SlotId) : Intact (delete id store).state := by
  cases hdelete : (ShelfStore.delete id store).value with
  | ok value => exact (h.delete_ok hdelete).1
  | error error => rwa [state_delete_of_error hdelete]

instance : LawfulStore ShelfStore where
  Sound := Intact
  live := record?
  sound_put data h := h.put data
  sound_get id h := by
    change Intact (ShelfStore.get id _).state
    rwa [state_get]
  sound_delete id h := h.delete id
  put_ok h hput := (h.put_ok hput).2
  put_error _ herror := congrArg record? (state_put_of_error herror)
  get_ok h hget := h.value_get_eq_ok_iff.mp hget
  live_get id _ := congrArg record? (state_get _ id)
  delete_ok h hdelete := (h.delete_ok hdelete).2
  delete_error _ herror := congrArg record? (state_delete_of_error herror)

instance : AccountableStore ShelfStore where
  refused _ := []
  refused_put _ _ := rfl
  refused_get _ _ := rfl
  refused_delete_ok _ _ := rfl
  refused_delete_error {store} {id} {error} h hlive herror := by
    have hok := Intact.value_delete h hlive
    change (ShelfStore.delete id store).value = .error error at herror
    simp [hok] at herror

namespace Intact

/-- Storing a record keeps the directory and the slot sizes, and gives no shelf more than one new
slot. -/
theorem layout_put (h : Intact store) (data : Bytes) :
    (ShelfStore.put data store).state.path = store.path ∧
      (ShelfStore.put data store).state.slotSizes = store.slotSizes ∧
      ∀ shelf ∈ (ShelfStore.put data store).state.shelves, ∃ old ∈ store.shelves,
        shelf.slots ≤ old.slots + 1 := by
  rcases put_cases store data with
    ⟨error, hfailed⟩ | ⟨shelf, slot, next, content, hdata, hshelf, hinsert, hdone⟩
  · rw [hfailed]
    exact ⟨rfl, rfl, fun shelf hmem => ⟨shelf, hmem, Nat.le_succ _⟩⟩
  · obtain ⟨-, hsize, -⟩ := (h.attached_of_getElem? hshelf).laid.insert_spec hdata
      (length_le_capacity hshelf) hinsert
    rw [hdone]
    refine ⟨rfl, slotSizes_setShelf hshelf hsize content, fun changed hmem => ?_⟩
    rcases List.mem_or_eq_of_mem_set hmem with hmem | rfl
    · exact ⟨changed, hmem, Nat.le_succ _⟩
    · exact ⟨shelf, List.mem_of_getElem? hshelf, Shelf.slots_le_of_insert hinsert⟩

/-- Deleting a record keeps the directory and the slot sizes, and gives no shelf more slots. -/
theorem layout_delete (h : Intact store) (id : SlotId) :
    (ShelfStore.delete id store).state.path = store.path ∧
      (ShelfStore.delete id store).state.slotSizes = store.slotSizes ∧
      ∀ shelf ∈ (ShelfStore.delete id store).state.shelves, ∃ old ∈ store.shelves,
        shelf.slots ≤ old.slots := by
  rcases delete_cases store id with ⟨error, hfailed⟩ | ⟨old, next, content, hold, hdeleted, hdone⟩
  · rw [hfailed]
    exact ⟨rfl, rfl, fun shelf hmem => ⟨shelf, hmem, Nat.le_refl _⟩⟩
  · obtain ⟨-, hsize, hslots, -⟩ := (h.attached_of_getElem? hold).laid.delete_spec hdeleted
    rw [hdone]
    refine ⟨rfl, slotSizes_setShelf hold hsize content, fun shelf hmem => ?_⟩
    rcases List.mem_or_eq_of_mem_set hmem with hmem | rfl
    · exact ⟨shelf, hmem, Nat.le_refl _⟩
    · exact ⟨old, List.mem_of_getElem? hold, hslots⟩

end Intact

/-- A record that fits some slots is stored, as long as slots can be numbered. -/
theorem exists_put (hdata : data ≠ [])
    (hfits : ∃ size ∈ store.slotSizes, data.length ≤ size.toNat - slotHeaderSize)
    (hslots : ∀ shelf ∈ store.shelves, shelf.slots < 2 ^ 32) :
    ∃ id, (ShelfStore.put data store).value = .ok id := by
  obtain ⟨size, hsize, hlength⟩ := hfits
  obtain ⟨fitting, hmem, rfl⟩ := List.mem_map.mp hsize
  have hlt : store.shelfFor data < store.shelves.length :=
    List.findIdx_lt_length_of_exists ⟨fitting, hmem, decide_eq_true hlength⟩
  obtain ⟨shelf, hshelf⟩ : ∃ shelf, store.shelves[store.shelfFor data]? = some shelf :=
    ⟨_, List.getElem?_eq_getElem hlt⟩
  obtain ⟨result, hinsert⟩ := Shelf.Laid.exists_insert (hslots shelf (List.mem_of_getElem? hshelf))
    (store.disk.read shelf.handle) data
  refine ⟨idOf (store.shelfFor data) result.1, ?_⟩
  rw [put_of_shelf hdata hshelf, hinsert]

instance : ReliableStore ShelfStore where
  Calm _ := True
  Room store data := data ≠ [] ∧
    (∃ size ∈ store.slotSizes, data.length ≤ size.toNat - slotHeaderSize) ∧
      ∀ shelf ∈ store.shelves, shelf.slots < 2 ^ 32
  calm_put _ _ := trivial
  calm_get _ _ := trivial
  calm_delete _ _ := trivial
  room_get {store} {data} id _ hroom := by
    change _ ∧ (∃ size ∈ (ShelfStore.get id store).state.slotSizes, _) ∧
      ∀ shelf ∈ (ShelfStore.get id store).state.shelves, _
    rwa [state_get]
  room_delete {store} {data} id h hroom := by
    obtain ⟨hdata, hfits, hslots⟩ := hroom
    obtain ⟨-, hsizes, hfewer⟩ := Intact.layout_delete h id
    refine ⟨hdata, ?_, fun shelf hmem => ?_⟩
    · change ∃ size ∈ (ShelfStore.delete id store).state.slotSizes, _
      rwa [hsizes]
    · obtain ⟨old, hold, hle⟩ := hfewer shelf hmem
      exact Nat.lt_of_le_of_lt hle (hslots old hold)
  get_live h _ hlive := Intact.value_get_eq_ok_iff h |>.mpr hlive
  delete_live {store} {id} {data} h _ hlive := by
    refine Intact.value_delete h ?_
    change store.record? id = some data at hlive
    simp [hlive]
  put_room _ _ hroom := exists_put hroom.1 hroom.2.1 hroom.2.2

end BlobLimbo.ShelfStore
