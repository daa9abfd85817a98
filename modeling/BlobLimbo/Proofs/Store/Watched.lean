import BlobLimbo.Proofs.Store.Lawful

/-!
# Watched stores

A store together with a note of every deletion it refused. The note is only written, never read, so
a watched store does what the store does.
-/

namespace BlobLimbo

/-- A store and the ids of the deletions that failed. -/
structure Watched (S : Type) where
  /-- The store. -/
  store : S
  /-- The ids whose deletion failed, first one first. -/
  refused : List SlotId := []

namespace Watched

variable {S : Type}

/-- Replaces the store. -/
def withStore (watched : Watched S) (store : S) : Watched S :=
  { watched with store }

/-- Deletes a record and notes a failure. -/
def delete [SlotStore S] (id : SlotId) : Action StoreError (Watched S) Unit := fun watched =>
  let outcome := SlotStore.delete id watched.store
  outcome.mapState fun store =>
    { store, refused := if outcome.value.isOk then watched.refused else watched.refused ++ [id] }

instance [SlotStore S] : SlotStore (Watched S) where
  put data := (SlotStore.put data).within store withStore
  get id := (SlotStore.get id).within store withStore
  delete := delete
  close := SlotStore.close.within store withStore

instance [LawfulStore S] : LawfulStore (Watched S) where
  Sound watched := LawfulStore.Sound watched.store
  live watched := LawfulStore.live watched.store
  sound_put data hsound := LawfulStore.sound_put data hsound
  sound_get id hsound := LawfulStore.sound_get id hsound
  sound_delete id hsound := LawfulStore.sound_delete id hsound
  put_ok hsound hok := LawfulStore.put_ok hsound hok
  put_error hsound herror := LawfulStore.put_error hsound herror
  get_ok hsound hok := LawfulStore.get_ok hsound hok
  live_get id hsound := LawfulStore.live_get id hsound
  delete_ok hsound hok := LawfulStore.delete_ok hsound hok
  delete_error hsound herror := LawfulStore.delete_error hsound herror

/-- A successful deletion is not noted. -/
theorem refused_delete_of_ok [SlotStore S] {watched : Watched S} {id : SlotId}
    (hok : (SlotStore.delete id watched.store).value = .ok ()) :
    (delete id watched).state.refused = watched.refused := by
  simp [delete, hok, Except.isOk, Except.toBool]

/-- A failed deletion is noted. -/
theorem refused_delete_of_error [SlotStore S] {watched : Watched S} {id : SlotId}
    {error : StoreError} (herror : (SlotStore.delete id watched.store).value = .error error) :
    (delete id watched).state.refused = watched.refused ++ [id] := by
  simp [delete, herror, Except.isOk, Except.toBool]

instance [LawfulStore S] : AccountableStore (Watched S) where
  refused := refused
  refused_put _ _ := rfl
  refused_get _ _ := rfl
  refused_delete_ok _ hok := refused_delete_of_ok hok
  refused_delete_error _ _ herror := refused_delete_of_error herror

end Watched

end BlobLimbo
