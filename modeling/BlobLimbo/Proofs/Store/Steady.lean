import BlobLimbo.Proofs.Shelf.Taken
import BlobLimbo.Proofs.Store.Shelves
import BlobLimbo.Proofs.Store.Watched

/-!
# Stores somebody else writes into

Which slots of a store are taken is told by what its shelves remember of them, not by the bytes of
their files. So it stays true when somebody else writes into these files: a slot that is taken can
be freed, a new record gets a slot that is not taken, and only freeing a slot makes it available
again (`SteadyStore`).
-/

namespace BlobLimbo

open Std

namespace Disk

/-- Writes bytes into the file at a place, from an offset on. A write that would make the file
longer is left out, and so is one to a place without a file. -/
def overwrite (disk : Disk) (place : Path) (offset : Nat) (data : Bytes) : Disk :=
  match disk.nodes[place]? with
  | some (.file serial content) =>
    if offset + data.length ≤ content.length then
      { disk with
        nodes := disk.nodes.insert place (.file serial (content.overwrite offset data)) }
    else disk
  | _ => disk

end Disk

/-- A store whose files somebody else can write into. -/
class ExposedStore (S : Type) extends SlotStore S where
  /-- Writes bytes into the file at a place, from an offset on, without making it longer. -/
  overwrite : S → Path → Nat → Bytes → S

instance : ExposedStore ShelfStore where
  overwrite store place offset data :=
    { store with disk := store.disk.overwrite place offset data }

instance {S : Type} [ExposedStore S] : ExposedStore (Watched S) where
  overwrite watched place offset data :=
    watched.withStore (ExposedStore.overwrite watched.store place offset data)

open SlotStore ExposedStore

/-- A store that knows which of its slots are taken, whatever is written into its files. -/
class SteadyStore (S : Type) extends ExposedStore S where
  /-- The states that the operations keep to. -/
  Steady : S → Prop
  /-- The slot of an id is taken. -/
  Taken : S → SlotId → Prop
  /-- A new record gets a slot that was not taken. -/
  put_ok : ∀ {store : S} {data : Bytes} {id : SlotId}, Steady store →
    (put data store).value = .ok id →
      Steady (put data store).state ∧ ¬Taken store id ∧
        ∀ other, Taken (put data store).state other ↔ other = id ∨ Taken store other
  put_error : ∀ {store : S} {data : Bytes} {error : StoreError},
    (put data store).value = .error error → (put data store).state = store
  state_get : ∀ (store : S) (id : SlotId), (get id store).state = store
  /-- A slot that is taken can be freed, and no other slot is freed with it. -/
  delete_taken : ∀ {store : S} {id : SlotId}, Steady store → Taken store id →
    (delete id store).value = .ok () ∧ Steady (delete id store).state ∧
      ∀ other, Taken (delete id store).state other ↔ other ≠ id ∧ Taken store other
  steady_overwrite : ∀ {store : S} (place : Path) (offset : Nat) (data : Bytes), Steady store →
    Steady (overwrite store place offset data)
  taken_overwrite : ∀ (store : S) (place : Path) (offset : Nat) (data : Bytes) (id : SlotId),
    Taken (overwrite store place offset data) id ↔ Taken store id

namespace ShelfStore

variable {store : ShelfStore} {shelf old : OpenShelf} {next : Shelf} {content data : Bytes}
  {number : Nat} {id : SlotId}

/-- The slot of an id is taken on the shelf the id leads to. -/
def Taken (store : ShelfStore) (id : SlotId) : Prop :=
  ∃ shelf, store.shelves[shelfOf id]? = some shelf ∧ shelf.toShelf.Taken (slotOf id)

/-- On every shelf the gaps are slots of the file, and all slots can be numbered. -/
def Numbered (store : ShelfStore) : Prop :=
  ∀ shelf ∈ store.shelves, shelf.toShelf.Numbered

/-- The shelves of an intact store are numbered. -/
theorem Intact.numbered (h : Intact store) : store.Numbered := fun shelf hmem =>
  (h.attached shelf hmem).laid.numbered (h.attached shelf hmem).slots_le

/-- The slots of the live records of an intact store are taken. -/
theorem Intact.taken (h : Intact store) (hlive : store.record? id ≠ none) : store.Taken id := by
  obtain ⟨data, hdata⟩ := Option.ne_none_iff_exists'.mp hlive
  obtain ⟨shelf, hshelf, hrecord⟩ := Option.bind_eq_some_iff.mp hdata
  have hlaid := (h.attached_of_getElem? hshelf).laid
  exact ⟨shelf, hshelf, hlaid.record?_ne_none_iff.mp (by simp [hrecord])⟩

/-- A shelf is replaced by one that is numbered. -/
theorem Numbered.setShelf (h : store.Numbered) (hnext : next.Numbered) :
    (store.setShelf number old next content).Numbered := by
  intro shelf hmem
  rcases List.mem_or_eq_of_mem_set hmem with hmem | rfl
  · exact h shelf hmem
  · exact hnext

/-- Replacing a shelf changes which slots of that shelf are taken, and of no other. -/
theorem taken_setShelf (hold : store.shelves[number]? = some old) :
    (store.setShelf number old next content).Taken id ↔
      if shelfOf id = number then next.Taken (slotOf id) else store.Taken id := by
  have hlt : number < store.shelves.length := (List.getElem?_eq_some_iff.mp hold).1
  simp only [Taken, ShelfStore.setShelf]
  split
  · rename_i hid
    rw [hid, List.getElem?_set_self hlt]
    simp
  · rename_i hid
    rw [List.getElem?_set_ne (Ne.symm hid)]

/-- The slots of a shelf that are taken, by their ids. -/
theorem taken_iff_of_shelf (hshelf : store.shelves[shelfOf id]? = some shelf) :
    store.Taken id ↔ shelf.toShelf.Taken (slotOf id) := by
  simp [Taken, hshelf]

/-- Storing a record takes one more slot. -/
theorem Numbered.put_ok (h : store.Numbered) (hput : (put data store).value = .ok id) :
    (put data store).state.Numbered ∧ ¬store.Taken id ∧
      ∀ other, (put data store).state.Taken other ↔ other = id ∨ store.Taken other := by
  rcases put_cases store data with
    ⟨error, hfailed⟩ | ⟨shelf, slot, next, content, -, hshelf, hinsert, hdone⟩
  · simp [hfailed] at hput
  · rw [hdone, Except.ok.injEq] at hput
    subst hput
    rw [hdone]
    dsimp only
    obtain ⟨hnext, hslot, hfree, htaken⟩ := (h shelf (List.mem_of_getElem? hshelf)).insert hinsert
    refine ⟨h.setShelf hnext, ?_, fun other => ?_⟩
    · rwa [taken_iff_of_shelf (by rwa [shelfOf_idOf _ hslot]), slotOf_idOf _ hslot]
    · rw [taken_setShelf hshelf, htaken]
      split
      · rename_i hsame
        rw [← taken_iff_of_shelf (hsame ▸ hshelf), ← hsame]
        refine or_congr_left ⟨fun heq => ?_, fun heq => ?_⟩
        · rw [← heq, idOf_shelfOf]
        · rw [heq, slotOf_idOf _ hslot]
      · rename_i hother
        have hne : other ≠ idOf (store.shelfFor data) slot := by
          rintro rfl
          exact hother (shelfOf_idOf _ hslot)
        rw [or_iff_right hne]

/-- A slot that is taken can be freed, and no other slot is freed with it. -/
theorem Numbered.delete_taken (h : store.Numbered) (htaken : store.Taken id) :
    (delete id store).value = .ok () ∧ (delete id store).state.Numbered ∧
      ∀ other, (delete id store).state.Taken other ↔ other ≠ id ∧ store.Taken other := by
  obtain ⟨shelf, hshelf, hslot⟩ := htaken
  obtain ⟨⟨next, content⟩, hdelete⟩ :=
    hslot.exists_delete (store.disk.read shelf.handle) id
  have hdone : delete id store =
      { value := .ok ()
        state := store.setShelf (shelfOf id) shelf next content
        events := [.store (.deleted id)] } := by
    rw [delete]
    simp only [hshelf, hdelete]
  obtain ⟨hnext, hfreed⟩ := (h shelf (List.mem_of_getElem? hshelf)).delete hdelete
  rw [hdone]
  refine ⟨rfl, h.setShelf hnext, fun other => ?_⟩
  rw [taken_setShelf hshelf, hfreed]
  split
  · rename_i hsame
    rw [← taken_iff_of_shelf (hsame ▸ hshelf)]
    refine and_congr_left fun _ => not_congr ⟨fun heq => ?_, fun heq => by rw [heq]⟩
    rw [← idOf_shelfOf other, hsame, heq, idOf_shelfOf]
  · rename_i hother
    have hne : other ≠ id := fun heq => hother (by rw [heq])
    rw [and_iff_right hne]

instance : SteadyStore ShelfStore where
  Steady := Numbered
  Taken := Taken
  put_ok h hput := h.put_ok hput
  put_error := state_put_of_error
  state_get := state_get
  delete_taken h htaken := h.delete_taken htaken
  steady_overwrite _ _ _ h := h
  taken_overwrite _ _ _ _ _ := Iff.rfl

end ShelfStore

namespace Watched

variable {S : Type} [SteadyStore S]

instance : SteadyStore (Watched S) where
  Steady watched := SteadyStore.Steady watched.store ∧ watched.refused = []
  Taken watched := SteadyStore.Taken watched.store
  put_ok h hput :=
    have hstep := SteadyStore.put_ok h.1 hput
    ⟨⟨hstep.1, h.2⟩, hstep.2⟩
  put_error {watched} {_} {_} herror :=
    congrArg (withStore watched) (SteadyStore.put_error herror)
  state_get watched id := congrArg (withStore watched) (SteadyStore.state_get watched.store id)
  delete_taken h htaken :=
    have hstep := SteadyStore.delete_taken h.1 htaken
    ⟨hstep.1, ⟨hstep.2.1, (refused_delete_of_ok hstep.1).trans h.2⟩, hstep.2.2⟩
  steady_overwrite place offset data h :=
    ⟨SteadyStore.steady_overwrite place offset data h.1, h.2⟩
  taken_overwrite watched place offset data id :=
    SteadyStore.taken_overwrite watched.store place offset data id

end Watched

end BlobLimbo
