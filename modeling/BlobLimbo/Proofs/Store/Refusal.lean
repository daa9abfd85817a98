import BlobLimbo.Proofs.Store.Capacity
import BlobLimbo.Proofs.Store.Openable

/-!
# Slot sizes a store refuses

Slot sizes that cannot be used have one of three faults, and the first of them is the one reported
(`LayoutFault`). A store is refused with this fault exactly when its slot sizes have it, and then
nothing is made, read or reported. Slot sizes without a fault increase throughout and leave room in
every slot; with them only the file system can keep a store from being opened
(`checksLayout_open`).
-/

namespace BlobLimbo

/-- A failure that is about the slot sizes of a store. -/
def StoreError.IsLayout : StoreError → Prop
  | .noShelves | .slotSizeTooSmall _ | .unorderedSlotSizes _ _ => True
  | _ => False

namespace ShelfStore

variable {path : String} {sizes : List UInt32} {disk : Disk} {store : ShelfStore}
  {previous next : UInt32} {error : StoreError}

/-- Two slot sizes follow each other at a place of a list. -/
def Neighbours (sizes : List UInt32) (place : Nat) (previous next : UInt32) : Prop :=
  sizes[place]? = some previous ∧ sizes[place + 1]? = some next

/-- All neighbours increase. -/
def Increases (sizes : List UInt32) : Prop :=
  ∀ place previous next, Neighbours sizes place previous next → previous < next

/-- Why slot sizes cannot be used. Two faults at once count as the one that is named first here, and
of several unordered neighbours the first ones count. -/
inductive LayoutFault (sizes : List UInt32) : StoreError → Prop where
  /-- There are none. -/
  | noShelves (hempty : sizes = []) : LayoutFault sizes .noShelves
  /-- Two neighbours do not increase. -/
  | unordered {place : Nat} {previous next : UInt32}
      (hpair : Neighbours sizes place previous next) (hle : next ≤ previous)
      (hfirst : ∀ earlier < place, ∀ a b, Neighbours sizes earlier a b → a < b) :
      LayoutFault sizes (.unorderedSlotSizes previous next)
  /-- The smallest slots hold no more than a header. -/
  | tooSmall {first : UInt32} (hfirst : sizes.head? = some first) (hordered : Increases sizes)
      (hsmall : first.toNat ≤ slotHeaderSize) : LayoutFault sizes (.slotSizeTooSmall first)

section Neighbours

variable {first second : UInt32} {rest : List UInt32}

@[simp] theorem neighbours_zero :
    Neighbours (first :: second :: rest) 0 previous next ↔ first = previous ∧ second = next := by
  simp [Neighbours]

@[simp] theorem neighbours_succ {place : Nat} :
    Neighbours (first :: rest) (place + 1) previous next ↔ Neighbours rest place previous next := by
  simp [Neighbours]

/-- The neighbours that are found are the first ones that do not increase. -/
theorem firstUnordered_eq_some_iff : firstUnordered sizes = some (previous, next) ↔
    ∃ place, Neighbours sizes place previous next ∧ next ≤ previous ∧
      ∀ earlier < place, ∀ a b, Neighbours sizes earlier a b → a < b := by
  induction sizes with
  | nil => simp [firstUnordered, Neighbours]
  | cons first sizes ih =>
    cases sizes with
    | nil => simp [firstUnordered, Neighbours]
    | cons second rest =>
      rw [firstUnordered]
      split
      · rename_i hle
        constructor
        · intro hsome
          obtain ⟨rfl, rfl⟩ := Prod.mk.inj (Option.some.inj hsome)
          exact ⟨0, neighbours_zero.mpr ⟨rfl, rfl⟩, hle, fun earlier hlt => by omega⟩
        · rintro ⟨place, hpair, -, hfirst⟩
          cases place with
          | zero =>
            obtain ⟨rfl, rfl⟩ := neighbours_zero.mp hpair
            rfl
          | succ place =>
            have hlt := hfirst 0 (by omega) first second (neighbours_zero.mpr ⟨rfl, rfl⟩)
            exact absurd hlt (UInt32.not_lt.mpr hle)
      · rename_i hlt
        rw [UInt32.not_le] at hlt
        rw [ih]
        constructor
        · rintro ⟨place, hpair, hle, hfirst⟩
          refine ⟨place + 1, neighbours_succ.mpr hpair, hle, fun earlier hearlier a b hab => ?_⟩
          cases earlier with
          | zero =>
            obtain ⟨rfl, rfl⟩ := neighbours_zero.mp hab
            exact hlt
          | succ earlier => exact hfirst earlier (by omega) a b (neighbours_succ.mp hab)
        · rintro ⟨place, hpair, hle, hfirst⟩
          cases place with
          | zero =>
            obtain ⟨rfl, rfl⟩ := neighbours_zero.mp hpair
            exact absurd hlt (UInt32.not_lt.mpr hle)
          | succ place =>
            refine ⟨place, neighbours_succ.mp hpair, hle, fun earlier hearlier a b hab => ?_⟩
            exact hfirst (earlier + 1) (by omega) a b (neighbours_succ.mpr hab)

/-- No neighbours are found when all of them increase. -/
theorem firstUnordered_eq_none_iff : firstUnordered sizes = none ↔ Increases sizes := by
  constructor
  · intro hnone place previous next hpair
    have hpairwise := pairwise_lt_of_firstUnordered hnone
    obtain ⟨hplace, rfl⟩ := List.getElem?_eq_some_iff.mp hpair.1
    obtain ⟨hnext, rfl⟩ := List.getElem?_eq_some_iff.mp hpair.2
    exact List.pairwise_iff_getElem.mp hpairwise place (place + 1) hplace hnext (by omega)
  · intro hincreases
    rw [Option.eq_none_iff_forall_ne_some]
    rintro ⟨previous, next⟩ hsome
    obtain ⟨place, hpair, hle, -⟩ := firstUnordered_eq_some_iff.mp hsome
    exact absurd (hincreases place previous next hpair) (UInt32.not_lt.mpr hle)

end Neighbours

/-- The fault that is found is the one the slot sizes have. -/
theorem layoutError?_eq_some_iff : layoutError? sizes = some error ↔ LayoutFault sizes error := by
  constructor
  · intro hsome
    unfold layoutError? at hsome
    split at hsome
    · obtain rfl := Option.some.inj hsome
      exact .noShelves rfl
    · rename_i previous next hunordered
      obtain rfl := Option.some.inj hsome
      obtain ⟨place, hpair, hle, hfirst⟩ := firstUnordered_eq_some_iff.mp hunordered
      exact .unordered hpair hle hfirst
    · rename_i first rest hordered
      split at hsome
      · rename_i hsmall
        obtain rfl := Option.some.inj hsome
        exact .tooSmall rfl (firstUnordered_eq_none_iff.mp hordered) hsmall
      · simp at hsome
  · intro hfault
    cases hfault with
    | noShelves hempty =>
      subst hempty
      rfl
    | unordered hpair hle hfirst =>
      have hfound := firstUnordered_eq_some_iff.mpr ⟨_, hpair, hle, hfirst⟩
      cases sizes with
      | nil => simp [Neighbours] at hpair
      | cons first rest => simp only [layoutError?, hfound]
    | tooSmall hfirst hordered hsmall =>
      have hnone := firstUnordered_eq_none_iff.mpr hordered
      obtain ⟨rest, rfl⟩ := List.head?_eq_some_iff.mp hfirst
      simp only [layoutError?, hnone, if_pos hsmall]

/-- The first unordered neighbours count, although other neighbours are unordered as well and the
first slot size is too small. -/
example : layoutError? [4, 64, 64, 8] = some (.unorderedSlotSizes 64 64) := by decide

/-- Slot sizes without a fault pass the check. -/
theorem layoutError?_eq_none_iff :
    layoutError? sizes = none ↔ ∀ error, ¬LayoutFault sizes error := by
  rw [Option.eq_none_iff_forall_ne_some]
  exact forall_congr' fun error => not_congr layoutError?_eq_some_iff

/-- With a fault nothing is done. -/
theorem LayoutFault.open_eq (h : LayoutFault sizes error) (replay : Replay) :
    ShelfStore.open path sizes replay = { value := .error error, state := replay } := by
  rw [ShelfStore.open, layoutError?_eq_some_iff.mpr h]
  rfl

/-- Shelves fail to be opened when the file system fails. -/
theorem openShelves_error {replay : Replay} {number : Nat}
    (herror : (openShelves path number sizes replay).value = .error error) :
    ∃ cause, error = .io cause := by
  induction sizes generalizing number replay with
  | nil => cases herror
  | cons slotSize sizes ih =>
    rw [openShelves] at herror
    cases hshelf : (openShelf path number slotSize replay).value with
    | error cause =>
      rw [Action.bind_of_error hshelf, Except.error.injEq] at herror
      subst herror
      unfold openShelf at hshelf
      dsimp only at hshelf
      split at hshelf
      · rename_i failure _
        exact ⟨failure, (Except.error.inj hshelf).symm⟩
      · cases hshelf
    | ok shelf =>
      rw [Action.bind_of_ok hshelf, Outcome.value_after] at herror
      cases hshelves : (openShelves path (number + 1) sizes
          (openShelf path number slotSize replay).state).value with
      | error cause =>
        rw [Action.bind_of_error hshelves, Except.error.injEq] at herror
        subst herror
        exact ih hshelves
      | ok shelves =>
        rw [Action.bind_of_ok hshelves] at herror
        cases herror

/-- A shelf that is opened is the one found in the bytes of its file. -/
theorem exists_content_of_openShelf {replay : Replay} {number : Nat} {slotSize : UInt32}
    {shelf : OpenShelf} (hok : (openShelf path number slotSize replay).value = .ok shelf) :
    ∃ content, shelf.toShelf = (Shelf.open slotSize content).shelf := by
  unfold openShelf at hok
  dsimp only at hok
  split at hok
  · cases hok
  · rw [← Except.ok.inj hok]
    exact ⟨_, rfl⟩

/-- The shelves that are opened have the slot sizes that were asked for. -/
theorem slotSizes_openShelves {replay : Replay} {number : Nat} {shelves : List OpenShelf}
    (hok : (openShelves path number sizes replay).value = .ok shelves) :
    (shelves.map fun shelf => shelf.slotSize) = sizes := by
  induction sizes generalizing number replay shelves with
  | nil =>
    obtain rfl := Except.ok.inj hok
    rfl
  | cons slotSize sizes ih =>
    obtain ⟨shelf, hshelf, hrest, -⟩ := Action.of_bind_eq_ok hok
    obtain ⟨others, hothers, hlast, -⟩ := Action.of_bind_eq_ok hrest
    obtain rfl := Except.ok.inj hlast
    obtain ⟨content, hcontent⟩ := exists_content_of_openShelf hshelf
    have hsize : shelf.slotSize = slotSize := congrArg Shelf.slotSize hcontent
    rw [List.map_cons, hsize, ih hothers]

/-- With slot sizes that can be used, a store fails to be opened when the file system fails. -/
theorem open_error (hlayout : layoutError? sizes = none)
    (herror : (ShelfStore.open path sizes { disk }).value = .error error) :
    ∃ cause, error = .io cause := by
  unfold ShelfStore.open at herror
  rw [hlayout] at herror
  dsimp only at herror
  cases hmade : (makeDirectory path { disk }).value with
  | error cause =>
    rw [Action.bind_of_error hmade, Except.error.injEq] at herror
    subst herror
    unfold makeDirectory at hmade
    dsimp only at hmade
    cases hresult : (disk.makeDirectories path).2 with
    | error failure =>
      rw [hresult] at hmade
      exact ⟨failure, (Except.error.inj hmade).symm⟩
    | ok value =>
      rw [hresult] at hmade
      cases hmade
  | ok value =>
    rw [Action.bind_of_ok hmade, Outcome.value_after] at herror
    cases hshelves : (openShelves path 0 sizes (makeDirectory path { disk }).state).value with
    | error cause =>
      rw [Action.bind_of_error hshelves, Except.error.injEq] at herror
      subst herror
      exact openShelves_error hshelves
    | ok shelves =>
      rw [Action.bind_of_ok hshelves] at herror
      cases herror

/-- A store has the slot sizes it was opened with, and their capacities. -/
structure Uses (sizes : List UInt32) (store : ShelfStore) : Prop where
  /-- Its shelves have these slot sizes, in this order. -/
  slotSizes_eq : store.slotSizes = sizes
  /-- Every shelf has room for a byte. -/
  capacity_pos : ∀ shelf ∈ store.shelves, 1 ≤ shelf.capacity
  /-- The longest record fills a slot of the last size but for the header. -/
  maxRecordSize_eq : ∃ last, sizes.getLast? = some last ∧
    store.maxRecordSize + slotHeaderSize = last.toNat

/-- A store that was opened has the slot sizes it was opened with. -/
theorem uses_of_open (hok : (ShelfStore.open path sizes { disk }).value = .ok store) :
    Uses sizes store := by
  obtain ⟨hlayout, -, hshelves, -⟩ := open_eq_ok hok
  have hsizes : store.slotSizes = sizes := slotSizes_openShelves hshelves
  have hheader := (layout_of_layoutError? hlayout).2
  refine ⟨hsizes, fun shelf hmem => ?_, ?_⟩
  · have hsize : shelf.slotSize ∈ sizes := by
      rw [← hsizes]
      exact List.mem_map_of_mem hmem
    have hroom := hheader _ hsize
    rw [Shelf.capacity]
    omega
  · have hne : sizes ≠ [] := by
      rintro rfl
      cases hlayout
    have hlast := List.getLast?_eq_some_getLast hne
    have hroom := hheader _ (List.getLast_mem hne)
    refine ⟨sizes.getLast hne, hlast, ?_⟩
    rw [ShelfStore.maxRecordSize_eq, hsizes, hlast]
    exact Nat.sub_add_cancel (Nat.le_of_lt hroom)

/-- How the slot sizes decide over opening a store. -/
structure ChecksLayout (path : String) (sizes : List UInt32) (disk : Disk) : Prop where
  /-- A store is refused for its slot sizes exactly with the fault they have. -/
  refused_iff : ∀ error : StoreError, error.IsLayout →
    ((ShelfStore.open path sizes { disk }).value = .error error ↔ LayoutFault sizes error)
  /-- With a fault nothing is made on disk, no record is replayed and nothing is reported. -/
  refused_early : ∀ error, LayoutFault sizes error →
    ShelfStore.open path sizes { disk } = { value := .error error, state := { disk } }
  /-- Slot sizes without a fault increase throughout, and every slot holds more than a header. -/
  usable : (∀ error, ¬LayoutFault sizes error) →
    sizes ≠ [] ∧ sizes.Pairwise (· < ·) ∧ ∀ size ∈ sizes, slotHeaderSize + 1 ≤ size.toNat
  /-- Then a store with these slot sizes is opened unless the file system fails. -/
  opened : (∀ error, ¬LayoutFault sizes error) →
    (∃ store, (ShelfStore.open path sizes { disk }).value = .ok store ∧ Uses sizes store) ∨
      ∃ cause, (ShelfStore.open path sizes { disk }).value = .error (.io cause)
  /-- Where the system lets the directory and the files be opened, it does not fail. -/
  exists_open : (∀ error, ¬LayoutFault sizes error) → Numberable path sizes disk →
    Openable path sizes disk → ∃ store, (ShelfStore.open path sizes { disk }).value = .ok store

/-- Slot sizes are checked before a store is opened. -/
theorem checksLayout_open (path : String) (sizes : List UInt32) (disk : Disk) :
    ChecksLayout path sizes disk where
  refused_iff error hlayout := by
    constructor
    · intro herror
      cases hfault : layoutError? sizes with
      | none =>
        obtain ⟨cause, rfl⟩ := open_error hfault herror
        exact absurd hlayout not_false
      | some fault =>
        have hhas := layoutError?_eq_some_iff.mp hfault
        rw [hhas.open_eq, Except.error.injEq] at herror
        rwa [← herror]
    · intro hfault
      rw [hfault.open_eq]
  refused_early error hfault := hfault.open_eq _
  usable hnone := by
    have hlayout := layoutError?_eq_none_iff.mpr hnone
    refine ⟨?_, layout_of_layoutError? hlayout⟩
    rintro rfl
    exact hnone _ (.noShelves rfl)
  opened hnone := by
    have hlayout := layoutError?_eq_none_iff.mpr hnone
    cases hopen : (ShelfStore.open path sizes { disk }).value with
    | ok store => exact Or.inl ⟨store, rfl, uses_of_open hopen⟩
    | error error =>
      obtain ⟨cause, rfl⟩ := open_error hlayout hopen
      exact Or.inr ⟨cause, rfl⟩
  exists_open hnone hslots hopenable := by
    obtain ⟨store, hstore, -⟩ :=
      open_of_openable (layoutError?_eq_none_iff.mpr hnone) hslots hopenable
    exact ⟨store, hstore⟩

/-- A deletion fails for a reason that is not about the slot sizes. -/
theorem not_isLayout_of_delete {id : SlotId}
    (herror : (ShelfStore.delete id store).value = .error error) : ¬error.IsLayout := by
  unfold ShelfStore.delete at herror
  split at herror
  · rw [Action.fail_apply, Except.error.injEq] at herror
    exact herror ▸ not_false
  · split at herror
    · rename_i hdelete
      rw [Action.fail_apply, Except.error.injEq] at herror
      subst herror
      unfold Shelf.delete Shelf.checkSlot at hdelete
      split at hdelete
      · exact Except.error.inj hdelete ▸ not_false
      · split at hdelete
        · exact Except.error.inj hdelete ▸ not_false
        · cases hdelete
    · cases herror

end ShelfStore

end BlobLimbo
