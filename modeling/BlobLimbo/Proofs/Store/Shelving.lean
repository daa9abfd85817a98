import BlobLimbo.Proofs.Codec.Length
import BlobLimbo.Proofs.Layout
import BlobLimbo.Proofs.Store.Allocation

/-!
# One shelf for each number of blobs

The headers in an entry grow with the number of its blobs and with its block, but never by more than
is set aside for them, and never to the size of another blob. So the first shelf an entry fits is
the one for its number of blobs, whatever its owner, its block and its bytes are
(`OpenAt.shelfFor_eq`), and an entry of more blobs than the limbo allows fits none
(`OpenAt.maxRecordSize_lt`). A store that starts without records keeps each on the shelf that was
chosen for it (`upkeep_placed`).
-/

namespace BlobLimbo

/-- A sidecar of some number of blobs, with a commitment and a proof for each. -/
structure Sidecar.OfBlobs (n : Nat) (sidecar : Sidecar) : Prop where
  blobs_eq : sidecar.blobs.length = n
  commitments_eq : sidecar.commitments.length = n
  proofs_eq : sidecar.proofs.length = n

/-- A filled sidecar has as many commitments and proofs as blobs. -/
theorem Sidecar.ofBlobs_filled (seed : UInt8) (n : Nat) : (filled seed n).OfBlobs n :=
  ⟨List.length_replicate, List.length_replicate, List.length_replicate⟩

namespace Entry

variable {entry : Entry} {n : Nat}

/-- What an entry of `n` blobs takes, within 78 bytes. -/
theorem length_encode_of_blobs (h : entry.sidecar.OfBlobs n) :
    n * 131174 < entry.encode.length ∧ entry.encode.length ≤ 78 + n * 131174 := by
  have hperBlob : Layout.perBlob.toNat = 131174 := by decide
  have hlower := lt_length_encode_of_lengths h.blobs_eq h.commitments_eq h.proofs_eq
  have hupper := length_encode_le_of_lengths h.blobs_eq h.commitments_eq h.proofs_eq
  rw [hperBlob] at hlower hupper
  exact ⟨hlower, hupper⟩

end Entry

namespace Layout

/-- The number of the shelf for entries of some number of blobs. An entry without blobs shares the
first shelf with those of one blob. -/
def shelfNumber (blobs : Nat) : Nat := max blobs 1 - 1

/-- The slot sizes of a limbo are as they are meant to be, and a store can be opened with them. -/
structure Usable (maxBlobs : UInt32) (sizes : List UInt32) : Prop where
  /-- There is one for each number of blobs. -/
  length_eq : sizes.length = maxBlobs.toNat
  /-- None has wrapped around. -/
  toNat_eq : ∀ (number : Nat) (size : UInt32), sizes[number]? = some size →
    size.toNat = 1024 + (number + 1) * 131174
  increasing : sizes.Pairwise (· < ·)
  above_header : ∀ size ∈ sizes, slotHeaderSize < size.toNat
  accepted : ShelfStore.layoutError? sizes = none

variable {maxBlobs : UInt32} {sizes : List UInt32}

/-- For every allowed number of blobs there are slot sizes that can be used. -/
theorem exists_usable (hpos : 0 < maxBlobs) (hlimit : maxBlobs ≤ maxBlobsLimit) :
    ∃ sizes, slotSizes maxBlobs = .ok sizes ∧ Usable maxBlobs sizes := by
  obtain ⟨sizes, hsizes, hne, hpairwise, hroom⟩ := exists_slotSizes hpos hlimit
  have hheader : ∀ size ∈ sizes, slotHeaderSize < size.toNat :=
    fun size hmem => Nat.lt_trans (by decide) (hroom size hmem)
  refine ⟨sizes, hsizes, length_slotSizes hsizes, fun number size hsize => ?_, hpairwise, hheader,
    ShelfStore.layoutError?_eq_none hne hpairwise hheader⟩
  have hnumber : number < maxBlobs.toNat := by
    rw [← length_slotSizes hsizes]
    exact (List.getElem?_eq_some_iff.mp hsize).1
  have hmax := UInt32.le_iff_toNat_le.mp hlimit
  have hperBlob : perBlob.toNat = 131174 := by decide
  rw [getElem?_slotSizes hsizes hnumber, Option.some.injEq] at hsize
  rw [← hsize, toNat_slotSize (by omega), hperBlob]

namespace Usable

variable {length n : Nat} (h : Usable maxBlobs sizes)

include h

/-- The shelf for an allowed number of blobs exists. -/
theorem shelfNumber_lt (hpos : 0 < maxBlobs) (hn : n ≤ maxBlobs.toNat) :
    shelfNumber n < sizes.length := by
  have hmax := UInt32.lt_iff_toNat_lt.mp hpos
  rw [UInt32.toNat_zero] at hmax
  rw [h.length_eq, shelfNumber]
  omega

/-- A record about as long as `n` blobs fits the slots for `n` blobs first. -/
theorem findIdx_eq (hpos : 0 < maxBlobs) (hn : n ≤ maxBlobs.toNat) (hlower : n * 131174 < length)
    (hupper : length ≤ 78 + n * 131174) :
    (sizes.findIdx fun size => length ≤ size.toNat - slotHeaderSize) = shelfNumber n := by
  have hheader : slotHeaderSize = 4 := rfl
  have hlt := h.shelfNumber_lt hpos hn
  have hsize : ∀ (number : Nat) (hnumber : number < sizes.length),
      sizes[number].toNat = 1024 + (number + 1) * 131174 :=
    fun number hnumber => h.toNat_eq number _ (List.getElem?_eq_getElem hnumber)
  rw [List.findIdx_eq hlt]
  constructor
  · rw [decide_eq_true_iff, hsize _ hlt, shelfNumber]
    omega
  · intro number hnumber
    rw [decide_eq_false_iff_not, hsize number (Nat.lt_trans hnumber hlt)]
    rw [shelfNumber] at hnumber
    omega

end Usable

end Layout

namespace ShelfStore

variable {store : ShelfStore} {shelf : OpenShelf} {data : Bytes} {id : SlotId} {number : Nat}

/-- Every slot of a shelf that can be numbered has a record. -/
def Full (store : ShelfStore) (number : Nat) : Prop :=
  ∀ slot < 2 ^ 32, store.record? (idOf number slot) ≠ none

/-- A shelf with a free slot that can be numbered is not full. -/
theorem not_full_of_record?_eq_none (hnone : store.record? id = none) :
    ¬Full store (shelfOf id) := by
  intro hfull
  have hlive := hfull (slotOf id) (slotOf_lt id)
  rw [idOf_shelfOf] at hlive
  exact hlive hnone

/-- A slot of a shelf has the record its id leads to. -/
theorem record?_idOf (hshelf : store.shelves[number]? = some shelf) {slot : Nat}
    (hslot : slot < 2 ^ 32) : store.record? (idOf number slot) =
      shelf.toShelf.record? (store.disk.read shelf.handle) slot := by
  rw [record?_of_shelf (by rwa [shelfOf_idOf _ hslot]), slotOf_idOf _ hslot]

namespace Intact

variable (h : Intact store)

include h

/-- A record gets a slot on the shelf that is chosen for it. -/
theorem shelfOf_of_put (hput : (ShelfStore.put data store).value = .ok id) :
    shelfOf id = store.shelfFor data := by
  rcases put_cases store data with
    ⟨error, hfailed⟩ | ⟨shelf, slot, next, content, hdata, hshelf, hinsert, hdone⟩
  · simp [hfailed] at hput
  · obtain ⟨-, -, -, hlaid, hslots⟩ := h.attached_of_getElem? hshelf
    obtain ⟨-, -, hlt, hslots', -⟩ := hlaid.insert_spec hdata (length_le_capacity hshelf) hinsert
    rw [hdone, Except.ok.injEq] at hput
    rw [← hput, shelfOf_idOf _ (by omega)]

variable (hdata : data ≠ []) (hshelf : store.shelves[store.shelfFor data]? = some shelf)

include hdata hshelf

/-- A record is stored while its shelf is not full. -/
theorem exists_put_of_not_full (hfree : ¬Full store (store.shelfFor data)) :
    ∃ id, (ShelfStore.put data store).value = .ok id := by
  rw [Full] at hfree
  push Not at hfree
  obtain ⟨slot, hslot, hnone⟩ := hfree
  rw [record?_idOf hshelf hslot] at hnone
  obtain ⟨result, hinsert⟩ :=
    (h.attached_of_getElem? hshelf).laid.exists_insert_of_free hslot hnone data
  rw [put_of_shelf hdata hshelf, hinsert]
  exact ⟨_, rfl⟩

/-- It is refused when its shelf is full, even if larger slots are free. -/
theorem put_of_full (hfull : Full store (store.shelfFor data)) : ShelfStore.put data store =
    { value := .error (.shelfFull shelf.slotSize), state := store } := by
  obtain ⟨-, -, -, hlaid, hslots⟩ := h.attached_of_getElem? hshelf
  have hinsert := hlaid.insert_of_full hslots
    (fun slot hslot => record?_idOf hshelf hslot ▸ hfull slot hslot) data
  rw [put_of_shelf hdata hshelf, hinsert]

end Intact

namespace OpenAt

variable {path : String} {maxBlobs : UInt32} {sizes : List UInt32} {entry : Entry} {n : Nat}
  (h : OpenAt path sizes store) (husable : Layout.Usable maxBlobs sizes)
  (hblobs : entry.sidecar.OfBlobs n)

include h husable

/-- There is a shelf for each allowed number of blobs. -/
theorem exists_shelf_of_le (hpos : 0 < maxBlobs) (hn : n ≤ maxBlobs.toNat) :
    ∃ shelf, store.shelves[Layout.shelfNumber n]? = some shelf := by
  have hlt := husable.shelfNumber_lt hpos hn
  rw [← h.sizes_eq, slotSizes, List.length_map] at hlt
  exact ⟨_, List.getElem?_eq_getElem hlt⟩

include hblobs

/-- **An entry lands on the shelf of its blob count.** -/
theorem shelfFor_eq (hpos : 0 < maxBlobs) (hn : n ≤ maxBlobs.toNat) :
    store.shelfFor entry.encode = Layout.shelfNumber n := by
  obtain ⟨hlower, hupper⟩ := Entry.length_encode_of_blobs hblobs
  rw [ShelfStore.shelfFor_eq, h.sizes_eq]
  exact husable.findIdx_eq hpos hn hlower hupper

/-- The largest slots are too small for an entry of more blobs than are allowed. -/
theorem maxRecordSize_lt (hn : maxBlobs.toNat < n) :
    store.maxRecordSize < entry.encode.length := by
  obtain ⟨last, hmem, hlast, -⟩ := h.intact.exists_last
  obtain ⟨number, hnumber⟩ := List.mem_iff_getElem?.mp hmem
  have hsize : sizes[number]? = some last.slotSize := by
    rw [← h.sizes_eq, slotSizes, List.getElem?_map, hnumber]
    rfl
  have hlt := (List.getElem?_eq_some_iff.mp hsize).1
  have hbytes := husable.toNat_eq number _ hsize
  have hcapacity : last.capacity = last.slotSize.toNat - 4 := rfl
  obtain ⟨hlower, -⟩ := Entry.length_encode_of_blobs hblobs
  rw [husable.length_eq] at hlt
  have hmul : (number + 1) * 131174 + 131174 ≤ n * 131174 := by omega
  omega

end OpenAt

/-- What becomes of an entry of `n` blobs in a store for entries of up to `maxBlobs` blobs. -/
structure Shelves (maxBlobs : UInt32) (store : ShelfStore) (entry : Entry) (n : Nat) : Prop where
  /-- If so many blobs are allowed and their shelf is not full, it is stored there and can be read
  again. -/
  stored : n ≤ maxBlobs.toNat → ¬Full store (Layout.shelfNumber n) →
    ∃ id, (put entry.encode store).value = .ok id ∧ shelfOf id = Layout.shelfNumber n ∧
      (get id (put entry.encode store).state).value = .ok entry.encode
  /-- If the shelf is full, it is refused for that. -/
  full : n ≤ maxBlobs.toNat → Full store (Layout.shelfNumber n) →
    ∃ size, put entry.encode store = { value := .error (.shelfFull size), state := store }
  /-- If it has more blobs, it is refused for its length. -/
  tooLarge : maxBlobs.toNat < n → put entry.encode store =
    { value := .error (.recordTooLarge entry.encode.length store.maxRecordSize), state := store }

/-- An entry of `n` blobs in a store with the slot sizes of a limbo. -/
theorem OpenAt.shelves {path : String} {maxBlobs : UInt32} {sizes : List UInt32} {entry : Entry}
    {n : Nat} (h : OpenAt path sizes store) (husable : Layout.Usable maxBlobs sizes)
    (hpos : 0 < maxBlobs) (hblobs : entry.sidecar.OfBlobs n) : Shelves maxBlobs store entry n where
  stored hn hfree := by
    have hnumber := h.shelfFor_eq husable hblobs hpos hn
    obtain ⟨shelf, hshelf⟩ := h.exists_shelf_of_le husable hpos hn
    rw [← hnumber] at hshelf hfree ⊢
    obtain ⟨id, hput⟩ := h.intact.exists_put_of_not_full entry.encode_ne_nil hshelf hfree
    obtain ⟨hintact, -, hrecords⟩ := h.intact.put_ok hput
    refine ⟨id, hput, h.intact.shelfOf_of_put hput, ?_⟩
    rw [hintact.value_get_eq_ok_iff, hrecords, Function.update_self]
  full hn hfull := by
    have hnumber := h.shelfFor_eq husable hblobs hpos hn
    obtain ⟨shelf, hshelf⟩ := h.exists_shelf_of_le husable hpos hn
    rw [← hnumber] at hshelf hfull
    exact ⟨shelf.slotSize, h.intact.put_of_full entry.encode_ne_nil hshelf hfull⟩
  tooLarge hn := h.intact.put_of_long (h.maxRecordSize_lt husable hblobs hn)

section Serving

variable {path : String} {sizes : List UInt32}

/-- A store stays open where it is when it serves a request. -/
theorem OpenAt.serve (h : OpenAt path sizes store) (request : Request) :
    OpenAt path sizes (store.serve path sizes request).2 := by
  cases request with
  | put data => exact h.put data
  | get id =>
    change OpenAt path sizes (ShelfStore.get id store).state
    rwa [state_get]
  | delete id => exact h.delete id
  | reopen =>
    obtain ⟨records, -, hopen⟩ := open_of_intact h.intact
    rw [h.path_eq, h.sizes_eq] at hopen
    rw [ShelfStore.serve, hopen]
    exact h

/-- A store stays open where it is when it serves some requests. -/
theorem OpenAt.serveAll (h : OpenAt path sizes store) (requests : List Request) :
    OpenAt path sizes (store.serveAll path sizes requests).2 := by
  induction requests generalizing store with
  | nil => exact h
  | cons request requests ih => exact ih (h.serve request)

end Serving

/-- The stores with some slot sizes keep entries apart by the number of their blobs: one is opened
wherever the system lets it be, and whatever it has served, it shelves every entry. -/
def ShelvesByBlobs (maxBlobs : UInt32) (sizes : List UInt32) : Prop :=
  ∀ path disk, Numberable path sizes disk → Openable path sizes disk →
    ∃ store, (ShelfStore.open path sizes { disk }).value = .ok store ∧
      ∀ requests entry n, entry.sidecar.OfBlobs n →
        Shelves maxBlobs (store.serveAll path sizes requests).2 entry n

/-- Stores with the slot sizes of a limbo keep entries apart. -/
theorem shelvesByBlobs {maxBlobs : UInt32} {sizes : List UInt32}
    (husable : Layout.Usable maxBlobs sizes) (hpos : 0 < maxBlobs) :
    ShelvesByBlobs maxBlobs sizes := by
  intro path disk hslots hopenable
  obtain ⟨store, hopen, -⟩ := open_of_openable husable.accepted hslots hopenable
  have hopenAt := (open_spec hslots hopen).1
  exact ⟨store, hopen, fun requests entry n hblobs =>
    (hopenAt.serveAll requests).shelves husable hpos hblobs⟩

section Placed

/-- Every record is on the shelf that is chosen for it. -/
def Placed (store : ShelfStore) : Prop :=
  ∀ id data, store.record? id = some data → shelfOf id = store.shelfFor data

/-- A store without records has none on a wrong shelf. -/
theorem placed_of_empty (hnone : ∀ id, store.record? id = none) : Placed store := by
  intro id data hdata
  simp [hnone] at hdata

/-- Which shelf is chosen is told by the slot sizes. -/
theorem shelfFor_congr {other : ShelfStore} (hsizes : other.slotSizes = store.slotSizes)
    (data : Bytes) : other.shelfFor data = store.shelfFor data := by
  rw [shelfFor_eq, shelfFor_eq, hsizes]

/-- Records that were there stay on their shelves, so that only new ones are to be looked at. -/
theorem Placed.of_new {later : ShelfStore} (h : Placed store)
    (hsizes : later.slotSizes = store.slotSizes)
    (hnew : ∀ id data, later.record? id = some data →
      store.record? id = some data ∨ shelfOf id = store.shelfFor data) : Placed later := by
  intro id data hdata
  rw [shelfFor_congr hsizes]
  exact (hnew id data hdata).elim (h id data) fun hshelf => hshelf

/-- Records stay on the shelves that were chosen for them. -/
theorem upkeep_placed (path : String) (sizes : List UInt32) :
    Upkeep fun _ store => OpenAt path sizes store ∧ Placed store where
  put _ data store h := by
    have hopenAt := h.1.put data
    refine ⟨hopenAt, h.2.of_new (hopenAt.sizes_eq.trans h.1.sizes_eq.symm) ?_⟩
    intro id data' hdata'
    change (ShelfStore.put data store).state.record? id = some data' at hdata'
    cases hput : (ShelfStore.put data store).value with
    | error error =>
      rw [state_put_of_error hput] at hdata'
      exact Or.inl hdata'
    | ok slot =>
      rw [(h.1.intact.put_ok hput).2.2, Function.update_apply] at hdata'
      split at hdata'
      · rename_i hid
        rw [hid, ← Option.some.inj hdata']
        exact Or.inr (h.1.intact.shelfOf_of_put hput)
      · exact Or.inl hdata'
  get _ id store h := by
    change OpenAt path sizes (ShelfStore.get id store).state ∧
      Placed (ShelfStore.get id store).state
    rwa [state_get]
  delete _ slot store h := by
    have hopenAt := h.1.delete slot
    refine ⟨hopenAt, h.2.of_new (hopenAt.sizes_eq.trans h.1.sizes_eq.symm) ?_⟩
    intro id data hdata
    change (ShelfStore.delete slot store).state.record? id = some data at hdata
    cases hdelete : (ShelfStore.delete slot store).value with
    | error error =>
      rw [state_delete_of_error hdelete] at hdata
      exact Or.inl hdata
    | ok value =>
      rw [(h.1.intact.delete_ok hdelete).2.2, Function.update_apply] at hdata
      split at hdata
      · cases hdata
      · exact Or.inl hdata
  mono _ _ h := h

end Placed

end ShelfStore

end BlobLimbo
