import BlobLimbo.Proofs.Store.Openable

/-!
# What a store touches

Opening a store in a directory and using it there takes nothing away from the disk, and leaves what
is not one of its shelf files as it was (`Spares`). So the directory stays open to stores of other
slot sizes (`Openable.of_spares`).
-/

namespace BlobLimbo.ShelfStore

variable {path : String} {sizes sizes' : List UInt32} {number : Nat} {id : SlotId} {data : Bytes}
  {store : ShelfStore} {earlier disk later : Disk}

/-- A disk has all that stood on an earlier one, and at the places that are not those of the shelf
files of a directory it is the same. -/
structure Spares (path : String) (sizes : List UInt32) (earlier disk : Disk) : Prop where
  extended : earlier.Extends disk
  node?_eq : ∀ place, (∀ slotSize ∈ sizes, place ≠ Path.place (shelfPath path slotSize)) →
    disk.node? place = earlier.node? place

namespace Spares

theorem refl (path : String) (sizes : List UInt32) (disk : Disk) : Spares path sizes disk disk :=
  ⟨.refl disk, fun _ _ => rfl⟩

theorem trans (h : Spares path sizes earlier disk) (h' : Spares path sizes disk later) :
    Spares path sizes earlier later :=
  ⟨h.extended.trans h'.extended, fun place hplace =>
    (h'.node?_eq place hplace).trans (h.node?_eq place hplace)⟩

end Spares

/-- Replacing a shelf touches no file but that of the shelf. -/
theorem OpenAt.spares_setShelf {old : OpenShelf} (h : OpenAt path sizes store)
    (hold : store.shelves[number]? = some old) (next : Shelf) (content : Bytes) :
    Spares path sizes store.disk (store.setShelf number old next content).disk := by
  have hattached := h.intact.attached_of_getElem? hold
  have hmem : old.slotSize ∈ sizes := List.mem_of_getElem? (h.slotSize_of_shelf hold)
  refine ⟨hattached.reaches.extends_write content, fun place hplace => ?_⟩
  have hne : place ≠ old.handle.path := by
    rw [← hattached.place_eq, h.path_eq]
    exact hplace _ hmem
  rw [setShelf, Disk.node?_write hattached.reaches, if_neg hne]

/-- Storing a record touches no file but those of the shelves. -/
theorem OpenAt.spares_put (h : OpenAt path sizes store) (data : Bytes) :
    Spares path sizes store.disk (ShelfStore.put data store).state.disk := by
  rcases put_cases store data with
    ⟨error, hfailed⟩ | ⟨shelf, slot, next, content, -, hshelf, -, hdone⟩
  · rw [hfailed]
    exact .refl path sizes store.disk
  · rw [hdone]
    exact h.spares_setShelf hshelf next content

/-- Deleting a record touches no file but those of the shelves. -/
theorem OpenAt.spares_delete (h : OpenAt path sizes store) (id : SlotId) :
    Spares path sizes store.disk (ShelfStore.delete id store).state.disk := by
  rcases delete_cases store id with ⟨error, hfailed⟩ | ⟨shelf, next, content, hshelf, -, hdone⟩
  · rw [hfailed]
    exact .refl path sizes store.disk
  · rw [hdone]
    exact h.spares_setShelf hshelf next content

/-- Opening a store makes its directory, and from then on touches no file but those of its
shelves. -/
theorem spares_open (hslots : Numberable path sizes disk)
    (hok : (ShelfStore.open path sizes { disk }).value = .ok store) :
    Spares path sizes (disk.makeDirectories path).1 store.disk := by
  obtain ⟨hlayout, -, hshelves, -, -, hdisk⟩ := open_eq_ok hok
  obtain ⟨hpairwise, hheader⟩ := layout_of_layoutError? hlayout
  obtain ⟨-, -, hextends, hsame, -⟩ :=
    openShelves_spec hpairwise hheader hslots.makeDirectory hshelves
  rw [hdisk]
  exact ⟨hextends, hsame⟩

/-- A store stays open where it is, and touches nothing else. -/
theorem upkeep_spares (path : String) (sizes : List UInt32) (earlier : Disk) :
    Upkeep fun _ store => OpenAt path sizes store ∧ Spares path sizes earlier store.disk where
  put _ data _ h := ⟨h.1.put data, h.2.trans (h.1.spares_put data)⟩
  get _ id store h := by
    change OpenAt path sizes (ShelfStore.get id store).state ∧
      Spares path sizes earlier (ShelfStore.get id store).state.disk
    rwa [state_get]
  delete _ id _ h := ⟨h.1.delete id, h.2.trans (h.1.spares_delete id)⟩
  mono _ _ h := h

/-- The files of a disk that are not shelf files of a directory are as they were on an earlier
disk. -/
def KeepsOthers (path : String) (sizes : List UInt32) (earlier disk : Disk) : Prop :=
  ∀ place, (∀ slotSize ∈ sizes, place ≠ Path.place (shelfPath path slotSize)) →
    disk.content? place = earlier.content? place

/-- Making a directory changes no file, and what else is spared are the other files. -/
theorem Spares.keepsOthers (h : Spares path sizes (earlier.makeDirectories path).1 disk) :
    KeepsOthers path sizes earlier disk := fun place hplace =>
  (Disk.content?_congr (h.node?_eq place hplace)).trans
    (Disk.content?_makeDirectories earlier path place)

/-- A directory that can be opened still can after a store was used in it, also for slot sizes that
the store does not have. -/
theorem Openable.of_spares (h : Openable path sizes' disk) (hopenAt : OpenAt path sizes store)
    (hspares : Spares path sizes (disk.makeDirectories path).1 store.disk) :
    Openable path sizes' store.disk := by
  have hmade := hopenAt.openable.directory
  obtain ⟨place, hwalk⟩ := hopenAt.intact.directory
  have hdirectory : (store.disk.makeDirectories path).1 = store.disk := by
    rw [hopenAt.path_eq] at hwalk
    rw [Disk.makeDirectories_of_walk (hopenAt.path_eq ▸ hopenAt.intact.accepted) hwalk]
  refine ⟨hmade, fun slotSize hmem => ?_⟩
  by_cases hown : slotSize ∈ sizes
  · exact hopenAt.openable.files slotSize hown
  · rw [hdirectory]
    refine Disk.exists_openFile_congr (h.files slotSize hmem) hspares.extended ?_
    refine hspares.node?_eq _ fun other hother hplace => hown ?_
    rwa [Path.place_shelfFile_injective path hplace]

end BlobLimbo.ShelfStore
