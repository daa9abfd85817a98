import BlobLimbo.Proofs.Limbo.Recovery
import BlobLimbo.Proofs.Limbo.Upkeep
import BlobLimbo.Proofs.Shelf.Allocation
import BlobLimbo.Proofs.Shelf.Opening
import BlobLimbo.Proofs.Store.Shelves

/-!
# Opening a store on disk

A store that is opened in whatever directory is intact, and lists its records (`open_spec`). An
intact store is found again as it is by opening its directory, which changes nothing on the disk
(`open_of_intact`).
-/

namespace BlobLimbo.ShelfStore

open Std

variable {path : String} {number : Nat} {slotSize : UInt32} {sizes : List UInt32} {replay : Replay}
  {shelf : OpenShelf} {shelves : List OpenShelf} {store : ShelfStore}

/-- A shelf file of a directory holds no more slots than can be numbered. -/
def NumberableFile (path : String) (disk : Disk) (slotSize : UInt32) : Prop :=
  ∀ content, disk.content? (Path.place (shelfPath path slotSize)) = some content →
    content.length / slotSize.toNat ≤ 2 ^ 32

/-- The shelf files of a directory hold no more slots than can be numbered. -/
def Numberable (path : String) (sizes : List UInt32) (disk : Disk) : Prop :=
  ∀ slotSize ∈ sizes, NumberableFile path disk slotSize

/-- The records of a shelf, under their ids. -/
def RecordsOf (number : Nat) (disk : Disk) (shelf : OpenShelf) (records : List Record) : Prop :=
  (records.map Prod.fst).Nodup ∧
    ∀ (id : SlotId) (data : Bytes), (id, data) ∈ records ↔
      shelfOf id = number ∧ shelf.toShelf.record? (disk.read shelf.handle) (slotOf id) = some data

/-- The records that are found in the slots of a shelf are its records. -/
theorem recordsOf_map (number : Nat) {disk : Disk} {found : List (Nat × Bytes)}
    (hslots : shelf.slots ≤ 2 ^ 32) (hnodup : (found.map Prod.fst).Nodup)
    (hfound : ∀ slot data, (slot, data) ∈ found ↔
      shelf.toShelf.record? (disk.read shelf.handle) slot = some data) :
    RecordsOf number disk shelf (found.map fun (slot, data) => (idOf number slot, data)) := by
  have hlt : ∀ slot data, (slot, data) ∈ found → slot < 2 ^ 32 := fun slot data hmem =>
    Nat.lt_of_lt_of_le (Shelf.lt_slots_of_record? ((hfound slot data).mp hmem)) hslots
  constructor
  · rw [List.map_map]
    refine List.Nodup.map_on ?_ (List.Nodup.of_map _ hnodup)
    rintro ⟨slot, data⟩ hmem ⟨slot', data'⟩ hmem' hid
    have hslot : slot = slot' := by
      have hslotOf := congrArg slotOf hid
      simp only [Function.comp_apply] at hslotOf
      rwa [slotOf_idOf _ (hlt slot data hmem), slotOf_idOf _ (hlt slot' data' hmem')] at hslotOf
    exact List.inj_on_of_nodup_map hnodup hmem hmem' hslot
  · intro id data
    simp only [List.mem_map, Prod.mk.injEq, Prod.exists]
    constructor
    · rintro ⟨slot, data', hmem, rfl, rfl⟩
      have hslot := hlt slot data' hmem
      rw [shelfOf_idOf _ hslot, slotOf_idOf _ hslot]
      exact ⟨rfl, (hfound slot data').mp hmem⟩
    · rintro ⟨rfl, hrecord⟩
      exact ⟨slotOf id, data, (hfound _ _).mpr hrecord, idOf_shelfOf id, rfl⟩

/-- The records of some shelves, numbered from a number on, under their ids. -/
def RecordsFrom (number : Nat) (disk : Disk) (shelves : List OpenShelf) (records : List Record) :
    Prop :=
  (records.map Prod.fst).Nodup ∧
    ∀ (id : SlotId) (data : Bytes), (id, data) ∈ records ↔
      ∃ (i : Nat) (shelf : OpenShelf), shelves[i]? = some shelf ∧ shelfOf id = number + i ∧
        shelf.toShelf.record? (disk.read shelf.handle) (slotOf id) = some data

/-- The records of a shelf are the same while its file is. -/
theorem RecordsOf.congr {disk later : Disk} {records : List Record}
    (h : RecordsOf number disk shelf records)
    (hread : later.read shelf.handle = disk.read shelf.handle) :
    RecordsOf number later shelf records := by
  rw [RecordsOf, hread]
  exact h

/-- The records of one more shelf come in front. -/
theorem RecordsFrom.cons {disk : Disk} {records records' : List Record}
    (h : RecordsOf number disk shelf records)
    (h' : RecordsFrom (number + 1) disk shelves records') :
    RecordsFrom number disk (shelf :: shelves) (records ++ records') := by
  obtain ⟨hnodup, hmem⟩ := h
  obtain ⟨hnodup', hmem'⟩ := h'
  constructor
  · rw [List.map_append, List.nodup_append]
    refine ⟨hnodup, hnodup', ?_⟩
    intro id hid id' hid' heq
    obtain ⟨record, hrecord, rfl⟩ := List.mem_map.mp hid
    obtain ⟨record', hrecord', rfl⟩ := List.mem_map.mp hid'
    obtain ⟨i, -, -, hshelfOf', -⟩ := (hmem' _ _).mp hrecord'
    have hshelfOf := ((hmem _ _).mp hrecord).1
    rw [heq, hshelfOf'] at hshelfOf
    omega
  · intro id data
    rw [List.mem_append, hmem, hmem']
    constructor
    · rintro (⟨hshelfOf, hrecord⟩ | ⟨i, found, hfound, hshelfOf, hrecord⟩)
      · exact ⟨0, shelf, rfl, hshelfOf, hrecord⟩
      · exact ⟨i + 1, found, hfound, by omega, hrecord⟩
    · rintro ⟨i, found, hfound, hshelfOf, hrecord⟩
      cases i with
      | zero =>
        rw [List.getElem?_cons_zero, Option.some.injEq] at hfound
        subst hfound
        exact Or.inl ⟨hshelfOf, hrecord⟩
      | succ i => exact Or.inr ⟨i, found, hfound, by omega, hrecord⟩

/-- A shelf is opened on its file, which may be made for it. No other file is touched. -/
theorem openShelf_spec (hheader : slotHeaderSize < slotSize.toNat)
    (hslots : NumberableFile path replay.disk slotSize)
    (hok : (openShelf path number slotSize replay).value = .ok shelf) :
    shelf.slotSize = slotSize ∧
      Attached path (openShelf path number slotSize replay).state.disk shelf ∧
      replay.disk.Extends (openShelf path number slotSize replay).state.disk ∧
      (∀ place, place ≠ shelf.handle.path →
        (openShelf path number slotSize replay).state.disk.node? place = replay.disk.node? place) ∧
      ∃ records, (openShelf path number slotSize replay).state.records = replay.records ++ records ∧
        RecordsOf number (openShelf path number slotSize replay).state.disk shelf records := by
  unfold openShelf at hok ⊢
  dsimp only at hok ⊢
  cases hopen : replay.disk.openFile (shelfPath path slotSize) with
  | mk disk result =>
    cases result with
    | error cause => simp [hopen] at hok
    | ok handle =>
      simp only [hopen, Except.ok.injEq] at hok ⊢
      subst hok
      obtain ⟨haccepted, hdestination, hextends, hreaches, hread, hothers⟩ :=
        Disk.openFile_spec hopen
      obtain ⟨hlaid, hsize, hcount, hnodup, hrecords⟩ :=
        Shelf.open_spec (disk.read handle) hheader
      have hplace := Disk.place_of_destination hdestination
      have hwrite := hreaches.extends_write (Shelf.open slotSize (disk.read handle)).content
      have hnumber : (Shelf.open slotSize (disk.read handle)).shelf.slots ≤ 2 ^ 32 := by
        refine Nat.le_trans hcount ?_
        rw [hread]
        cases hcontent : replay.disk.content? handle.path with
        | none => simp
        | some content => exact hslots content (by rw [Path.place, hplace, hcontent])
      refine ⟨hsize, ⟨?_, ?_, hreaches.extend hwrite, ?_, hnumber⟩, hextends.trans hwrite, ?_, ?_⟩
      · rw [hsize]
        exact haccepted
      · rw [hsize]
        exact (hextends.trans hwrite).destination hdestination
      · rw [hreaches.read_write]
        exact hlaid
      · intro place hne
        rw [Disk.node?_write hreaches, if_neg hne]
        exact hothers place hne
      · refine ⟨_, rfl, recordsOf_map number hnumber hnodup ?_⟩
        dsimp only
        rw [hreaches.read_write]
        exact hrecords

/-- A shelf stays attached while its file is left alone. -/
theorem Attached.congr {disk later : Disk} (h : Attached path disk shelf)
    (hextends : disk.Extends later)
    (hnode : later.node? shelf.handle.path = disk.node? shelf.handle.path) :
    Attached path later shelf := by
  refine ⟨h.accepted, hextends.destination h.destination, h.reaches.extend hextends, ?_, h.slots_le⟩
  rw [h.reaches.read_congr hnode]
  exact h.laid

/-- A shelf file stays numberable while it is left alone. -/
theorem NumberableFile.congr {disk later : Disk} (h : NumberableFile path disk slotSize)
    (hnode : later.node? (Path.place (shelfPath path slotSize)) =
      disk.node? (Path.place (shelfPath path slotSize))) : NumberableFile path later slotSize := by
  intro content hcontent
  apply h content
  rw [Disk.content?, hnode] at hcontent
  exact hcontent

/-- The shelf files of different slot sizes stand at different places. -/
theorem place_shelfPath_ne (path : String) {smaller larger : UInt32} (hlt : smaller < larger) :
    Path.place (shelfPath path smaller) ≠ Path.place (shelfPath path larger) := by
  intro hplace
  rw [Path.place_shelfFile_injective path hplace] at hlt
  exact UInt32.lt_irrefl _ hlt

/-- Opening a shelf leaves the files of larger slot sizes alone. -/
theorem node?_openShelf_of_lt {larger : UInt32} (hheader : slotHeaderSize < slotSize.toNat)
    (hslots : NumberableFile path replay.disk slotSize)
    (hok : (openShelf path number slotSize replay).value = .ok shelf) (hlt : slotSize < larger) :
    (openShelf path number slotSize replay).state.disk.node?
        (Path.place (shelfPath path larger)) =
      replay.disk.node? (Path.place (shelfPath path larger)) := by
  obtain ⟨hsize, hattached, -, hsame, -⟩ := openShelf_spec hheader hslots hok
  apply hsame
  rw [← hattached.place_eq, hsize]
  exact (place_shelfPath_ne path hlt).symm

/-- The shelf files that are still to be opened stay numberable. -/
theorem Numberable.openShelf (hslots : Numberable path (slotSize :: sizes) replay.disk)
    (hlayout : ∀ larger ∈ sizes, slotSize < larger) (hheader : slotHeaderSize < slotSize.toNat)
    (hok : (openShelf path number slotSize replay).value = .ok shelf) :
    Numberable path sizes (ShelfStore.openShelf path number slotSize replay).state.disk :=
  fun larger hmem => (hslots larger (List.mem_cons_of_mem _ hmem)).congr
    (node?_openShelf_of_lt hheader (hslots slotSize List.mem_cons_self) hok (hlayout larger hmem))

/-- The shelves are opened on different files, and no other file is touched. -/
theorem openShelves_spec (hlayout : sizes.Pairwise (· < ·))
    (hheader : ∀ slotSize ∈ sizes, slotHeaderSize < slotSize.toNat)
    (hslots : Numberable path sizes replay.disk)
    (hok : (openShelves path number sizes replay).value = .ok shelves) :
    (shelves.map fun shelf => shelf.slotSize) = sizes ∧
      (∀ shelf ∈ shelves, Attached path (openShelves path number sizes replay).state.disk shelf) ∧
      replay.disk.Extends (openShelves path number sizes replay).state.disk ∧
      (∀ place, (∀ slotSize ∈ sizes, place ≠ Path.place (shelfPath path slotSize)) →
        (openShelves path number sizes replay).state.disk.node? place =
          replay.disk.node? place) ∧
      ∃ records, (openShelves path number sizes replay).state.records =
          replay.records ++ records ∧
        RecordsFrom number (openShelves path number sizes replay).state.disk shelves records := by
  induction sizes generalizing number replay shelves with
  | nil =>
    obtain rfl : [] = shelves := Except.ok.inj hok
    have hnone : RecordsFrom number replay.disk [] [] := ⟨List.nodup_nil, by simp⟩
    exact ⟨rfl, by simp, .refl _, fun _ _ => rfl, [], (List.append_nil _).symm, hnone⟩
  | cons slotSize sizes ih =>
    rw [List.pairwise_cons] at hlayout
    rw [List.forall_mem_cons] at hheader
    obtain ⟨shelf, hshelf, hrest, hstate⟩ := Action.of_bind_eq_ok hok
    obtain ⟨others, hothers, hlast, hstate'⟩ := Action.of_bind_eq_ok hrest
    obtain rfl : shelf :: others = shelves := Except.ok.inj hlast
    obtain ⟨hsize, hattached, hextends, hsame, records, hrecords, hfound⟩ :=
      openShelf_spec hheader.1 (hslots slotSize List.mem_cons_self) hshelf
    have hplace : Path.place (shelfPath path slotSize) = shelf.handle.path := by
      rw [← hsize]
      exact hattached.place_eq
    have hne : ∀ other ∈ sizes, shelf.handle.path ≠ Path.place (shelfPath path other) := by
      intro other hother
      rw [← hplace]
      exact place_shelfPath_ne path (hlayout.1 other hother)
    have hslots' := hslots.openShelf hlayout.1 hheader.1 hshelf
    obtain ⟨hsizes, hattached', hextends', hsame', records', hrecords', hfound'⟩ :=
      ih hlayout.2 hheader.2 hslots' hothers
    have hfinal : (openShelves path number (slotSize :: sizes) replay).state =
        (openShelves path (number + 1) sizes (openShelf path number slotSize replay).state).state :=
      hstate.trans hstate'
    have hkept := hsame' shelf.handle.path hne
    rw [hfinal]
    refine ⟨by rw [List.map_cons, hsize, hsizes], ?_, hextends.trans hextends', ?_, ?_⟩
    · rw [List.forall_mem_cons]
      exact ⟨hattached.congr hextends' hkept, hattached'⟩
    · intro place hplaces
      rw [List.forall_mem_cons, hplace] at hplaces
      rw [hsame' place hplaces.2, hsame place hplaces.1]
    · refine ⟨records ++ records', by rw [hrecords', hrecords, List.append_assoc], ?_⟩
      exact RecordsFrom.cons (hfound.congr (hattached.reaches.read_congr hkept)) hfound'

/-- An intact store is open in a directory with some slot sizes. -/
structure OpenAt (path : String) (sizes : List UInt32) (store : ShelfStore) : Prop where
  intact : Intact store
  path_eq : store.path = path
  sizes_eq : store.slotSizes = sizes

section Open

variable {disk : Disk}

/-- Opening a store makes its directory and opens the shelves of its slot sizes. -/
theorem open_eq_ok (hok : (ShelfStore.open path sizes { disk }).value = .ok store) :
    layoutError? sizes = none ∧ (makeDirectory path { disk }).value = .ok () ∧
      (openShelves path 0 sizes (makeDirectory path { disk }).state).value = .ok store.shelves ∧
      (ShelfStore.open path sizes { disk }).state =
        (openShelves path 0 sizes (makeDirectory path { disk }).state).state ∧
      store.path = path ∧
      store.disk = (openShelves path 0 sizes (makeDirectory path { disk }).state).state.disk := by
  unfold ShelfStore.open at hok ⊢
  cases hlayout : layoutError? sizes with
  | some error =>
    rw [hlayout] at hok
    simp at hok
  | none =>
    rw [hlayout] at hok
    dsimp only at hok ⊢
    obtain ⟨made, hmade, hopened, hstate⟩ := Action.of_bind_eq_ok hok
    obtain ⟨shelves, hshelves, hlast, hstate'⟩ := Action.of_bind_eq_ok hopened
    obtain rfl := Except.ok.inj hlast
    exact ⟨rfl, hmade, hshelves, hstate.trans hstate', rfl, rfl⟩

/-- A directory is made by a path the system accepts. -/
theorem accepted_of_makeDirectory {made : Unit}
    (hok : (makeDirectory path replay).value = .ok made) : Path.refusal? path = none := by
  cases hrefusal : Path.refusal? path with
  | none => rfl
  | some error => simp [makeDirectory, Disk.makeDirectories, hrefusal, Except.mapError] at hok

/-- The directory of attached shelves is there. -/
theorem exists_walk (hsizes : (shelves.map fun shelf => shelf.slotSize) = sizes)
    (hlayout : layoutError? sizes = none)
    (hattached : ∀ shelf ∈ shelves, Attached path disk shelf) :
    ∃ place, disk.walk (Path.names path) = .ok place := by
  cases shelves with
  | nil =>
    rw [List.map_nil] at hsizes
    simp [← hsizes, layoutError?] at hlayout
  | cons shelf shelves =>
    have hdestination := (hattached shelf List.mem_cons_self).destination
    rw [shelfPath, Path.names_shelfFile, Disk.destination_concat_eq_ok_iff] at hdestination
    obtain ⟨above, hwalk, -⟩ := hdestination
    exact ⟨above, hwalk⟩

/-- Making the directory leaves the shelf files as they are. -/
theorem Numberable.makeDirectory (hslots : Numberable path sizes disk) :
    Numberable path sizes (makeDirectory path { disk }).state.disk := by
  intro slotSize hmem content hcontent
  exact hslots slotSize hmem content
    ((Disk.content?_makeDirectories disk path _).symm.trans hcontent)

/-- Whatever the files of a directory hold, a store that is opened in it is intact and lists its
records. -/
theorem open_spec (hslots : Numberable path sizes disk)
    (hok : (ShelfStore.open path sizes { disk }).value = .ok store) :
    OpenAt path sizes store ∧
      Limbo.Lists store (ShelfStore.open path sizes { disk }).state.records := by
  obtain ⟨hlayout, hmade, hshelves, hstate, hpath, hdisk⟩ := open_eq_ok hok
  obtain ⟨hpairwise, hheader⟩ := layout_of_layoutError? hlayout
  obtain ⟨hsizes, hattached, -, -, records, hrecords, hnodup, hmem⟩ :=
    openShelves_spec hpairwise hheader hslots.makeDirectory hshelves
  rw [← hdisk] at hattached hmem
  subst hpath
  have hreplayed : (ShelfStore.open store.path sizes { disk }).state.records = records := by
    rw [hstate]
    exact hrecords.trans (List.nil_append records)
  refine ⟨⟨⟨?_, accepted_of_makeDirectory hmade, ?_, hattached⟩, rfl, hsizes⟩, ⟨?_, ?_⟩⟩
  · change layoutError? (store.shelves.map fun shelf => shelf.slotSize) = none
    rwa [hsizes]
  · exact exists_walk hsizes hlayout hattached
  · rwa [hreplayed]
  · intro id data
    rw [hreplayed, hmem]
    change _ ↔ record? store id = some data
    simp only [record?, Option.bind_eq_some_iff, Nat.zero_add]
    constructor
    · rintro ⟨i, shelf, hshelf, rfl, hrecord⟩
      exact ⟨shelf, hshelf, hrecord⟩
    · rintro ⟨shelf, hshelf, hrecord⟩
      exact ⟨shelfOf id, shelf, hshelf, rfl, hrecord⟩

/-- A shelf is found again in its file, which stays as it is. -/
theorem openShelf_of_attached (h : Attached path disk shelf) (number : Nat)
    (records : List Record) :
    ∃ found, openShelf path number shelf.slotSize { disk, records } =
      { value := .ok shelf, state := { disk, records := found } } := by
  obtain ⟨haccepted, hdestination, hreaches, hlaid, -⟩ := h
  obtain ⟨hshelf, hcontent, hcorrupt⟩ := Shelf.open_of_laid hlaid
  have hwhole : (disk.read shelf.handle).length % shelf.slotSize.toNat = 0 := by
    rw [hlaid.length, Nat.mul_mod_left]
  unfold openShelf
  simp only [Disk.openFile_of_reaches haccepted hdestination hreaches, hshelf, hcontent, hcorrupt,
    hreaches.write_read, hwhole]
  exact ⟨_, rfl⟩

/-- Shelves are found again in their files, which stay as they are. -/
theorem openShelves_of_attached (h : ∀ shelf ∈ shelves, Attached path disk shelf) (number : Nat)
    (records : List Record) :
    ∃ found, openShelves path number (shelves.map fun shelf => shelf.slotSize) { disk, records } =
      { value := .ok shelves, state := { disk, records := found } } := by
  induction shelves generalizing number records with
  | nil => exact ⟨records, rfl⟩
  | cons shelf shelves ih =>
    rw [List.forall_mem_cons] at h
    obtain ⟨first, hfirst⟩ := openShelf_of_attached h.1 number records
    obtain ⟨found, hfound⟩ := ih h.2 (number + 1) first
    refine ⟨found, ?_⟩
    rw [List.map_cons, openShelves, Action.bind_of_ok (by rw [hfirst]), hfirst,
      Action.bind_of_ok (by rw [hfound]), hfound]
    rfl

/-- The files of an intact store hold no more slots than can be numbered. -/
theorem Intact.numberable (h : Intact store) :
    Numberable store.path store.slotSizes store.disk := by
  intro slotSize hmem content hcontent
  obtain ⟨shelf, hshelf, rfl⟩ := List.mem_map.mp hmem
  have hattached := h.attached shelf hshelf
  have hlaid := hattached.laid
  have hpos : 0 < shelf.slotSize.toNat := Nat.zero_lt_of_lt hlaid.header
  obtain ⟨bytes, hnode⟩ := hattached.reaches
  rw [hattached.place_eq, Disk.content?, hnode] at hcontent
  dsimp only at hcontent
  rw [← Option.some.inj hcontent, ← Disk.read_of_node? hnode, hlaid.length,
    Nat.mul_div_cancel _ hpos]
  exact hattached.slots_le

/-- An intact store is found again in its directory with its records, and nothing changes on the
disk. -/
theorem open_of_intact (h : Intact store) :
    ∃ records, Limbo.Lists store records ∧
      ShelfStore.open store.path store.slotSizes { disk := store.disk } =
        { value := .ok store
          state := { disk := store.disk, records }
          events := [.store (.opened store.path store.shelves.length records.length)] } := by
  obtain ⟨place, hwalk⟩ := h.directory
  have hmade : makeDirectory store.path { disk := store.disk } =
      { value := .ok (), state := { disk := store.disk } } := by
    rw [makeDirectory, Disk.makeDirectories_of_walk h.accepted hwalk]
    rfl
  obtain ⟨records, hshelves⟩ := openShelves_of_attached h.attached 0 []
  rw [← slotSizes] at hshelves
  have hopen : ShelfStore.open store.path store.slotSizes { disk := store.disk } =
      { value := .ok store
        state := { disk := store.disk, records }
        events := [.store (.opened store.path store.shelves.length records.length)] } := by
    rw [ShelfStore.open, h.layout]
    dsimp only
    rw [Action.bind_of_ok (by rw [hmade]), hmade, Action.bind_of_ok (by rw [hshelves]), hshelves]
    rfl
  have hlists := (open_spec h.numberable (by rw [hopen])).2
  rw [hopen] at hlists
  exact ⟨records, hlists, hopen⟩

end Open

namespace OpenAt

/-- The slot size of a shelf is the one at its place. -/
theorem slotSize_of_shelf (h : OpenAt path sizes store)
    (hshelf : store.shelves[number]? = some shelf) : sizes[number]? = some shelf.slotSize := by
  rw [← h.sizes_eq, slotSizes, List.getElem?_map, hshelf]
  rfl

/-- The slots of a store that is open hold more than a header. -/
theorem header_lt (h : OpenAt path sizes store) :
    ∀ slotSize ∈ sizes, slotHeaderSize < slotSize.toNat := by
  have hlayout := h.intact.layout
  rw [h.sizes_eq] at hlayout
  exact (layout_of_layoutError? hlayout).2

/-- The slots of a store that is open can be numbered. -/
theorem numberable (h : OpenAt path sizes store) : Numberable path sizes store.disk := by
  have hnumberable := h.intact.numberable
  rwa [h.path_eq, h.sizes_eq] at hnumberable

end OpenAt

/-- No shelf of a store has more than some number of slots. -/
def SlotsWithin (slots : Nat) (store : ShelfStore) : Prop :=
  ∀ shelf ∈ store.shelves, shelf.slots ≤ slots

/-- An intact store without records has no slots. -/
theorem Intact.slotsWithin_zero (h : Intact store) (hnone : ∀ id, store.record? id = none) :
    SlotsWithin 0 store := by
  intro shelf hmem
  obtain ⟨number, hshelf⟩ := List.mem_iff_getElem?.mp hmem
  rw [(h.attached shelf hmem).laid.slots_le_iff]
  intro slot hlive
  obtain ⟨data, hdata⟩ := Option.ne_none_iff_exists'.mp hlive
  have hrecord := h.record?_of_slot hshelf hdata
  simp [hnone] at hrecord

/-- A store stays open where it is when a record is put. -/
theorem OpenAt.put (h : OpenAt path sizes store) (data : Bytes) :
    OpenAt path sizes (ShelfStore.put data store).state := by
  obtain ⟨hpath, hsizes, -⟩ := h.intact.layout_put data
  exact ⟨h.intact.put data, hpath.trans h.path_eq, hsizes.trans h.sizes_eq⟩

/-- A store stays open where it is when a record is deleted. -/
theorem OpenAt.delete (h : OpenAt path sizes store) (id : SlotId) :
    OpenAt path sizes (ShelfStore.delete id store).state := by
  obtain ⟨hpath, hsizes, -⟩ := h.intact.layout_delete id
  exact ⟨h.intact.delete id, hpath.trans h.path_eq, hsizes.trans h.sizes_eq⟩

/-- A store stays open where it is, and a record takes one new slot at most. -/
theorem upkeep_openAt (path : String) (sizes : List UInt32) :
    Upkeep fun slots store => OpenAt path sizes store ∧ SlotsWithin slots store where
  put slots data store h := by
    obtain ⟨-, -, hslots⟩ := h.1.intact.layout_put data
    refine ⟨h.1.put data, fun shelf hmem => ?_⟩
    obtain ⟨old, hold, hle⟩ := hslots shelf hmem
    exact Nat.le_trans hle (Nat.succ_le_succ (h.2 old hold))
  get slots id store h := by
    change OpenAt path sizes (ShelfStore.get id store).state ∧
      SlotsWithin slots (ShelfStore.get id store).state
    rwa [state_get]
  delete slots id store h := by
    obtain ⟨-, -, hslots⟩ := h.1.intact.layout_delete id
    refine ⟨h.1.delete id, fun shelf hmem => ?_⟩
    obtain ⟨old, hold, hle⟩ := hslots shelf hmem
    exact Nat.le_trans hle (h.2 old hold)
  mono slots store h := ⟨h.1, fun shelf hmem => Nat.le_succ_of_le (h.2 shelf hmem)⟩

/-- The slots of an intact store can be numbered. -/
theorem Intact.slotsWithin (h : Intact store) : SlotsWithin (2 ^ 32) store :=
  fun shelf hmem => (h.attached shelf hmem).slots_le

end BlobLimbo.ShelfStore
