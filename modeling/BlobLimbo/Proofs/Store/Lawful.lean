import BlobLimbo.Store.Basic
import BlobLimbo.Proofs.Action
import Mathlib.Logic.Function.Basic

/-!
# Lawful stores

A store is understood by the records that are live in it. A lawful store hands out ids that are
not live, gives up and reads only live records, and changes nothing when it fails; which of its
operations fail is left open. An accountable store knows the live records it refused to give up. A
reliable store says more: where nothing is meant to fail and there is room, the operations on live
records succeed.
-/

namespace BlobLimbo

open SlotStore

/-- A store whose operations do to the live records what they say, or nothing. -/
class LawfulStore (S : Type) extends SlotStore S where
  /-- The states that the operations keep to. -/
  Sound : S → Prop
  /-- The live record under an id. -/
  live : S → SlotId → Option Bytes
  sound_put : ∀ {store : S} (data : Bytes), Sound store → Sound (put data store).state
  sound_get : ∀ {store : S} (id : SlotId), Sound store → Sound (get id store).state
  sound_delete : ∀ {store : S} (id : SlotId), Sound store → Sound (delete id store).state
  /-- A new record gets an id that was not live, and is live from then on. -/
  put_ok : ∀ {store : S} {data : Bytes} {id : SlotId}, Sound store →
    (put data store).value = .ok id →
      live store id = none ∧
        live (put data store).state = Function.update (live store) id (some data)
  put_error : ∀ {store : S} {data : Bytes} {error : StoreError}, Sound store →
    (put data store).value = .error error → live (put data store).state = live store
  /-- Only live records are read. -/
  get_ok : ∀ {store : S} {id : SlotId} {data : Bytes}, Sound store →
    (get id store).value = .ok data → live store id = some data
  /-- Reading changes nothing. -/
  live_get : ∀ {store : S} (id : SlotId), Sound store →
    live (get id store).state = live store
  /-- Only live records are given up, and they are not live from then on. -/
  delete_ok : ∀ {store : S} {id : SlotId}, Sound store → (delete id store).value = .ok () →
    live store id ≠ none ∧ live (delete id store).state = Function.update (live store) id none
  delete_error : ∀ {store : S} {id : SlotId} {error : StoreError}, Sound store →
    (delete id store).value = .error error → live (delete id store).state = live store

/-- A store that keeps account of the live records whose deletion failed. -/
class AccountableStore (S : Type) extends LawfulStore S where
  /-- The ids under which a live record was not given up. -/
  refused : S → List SlotId
  refused_put : ∀ {store : S} (data : Bytes), Sound store →
    refused (put data store).state = refused store
  refused_get : ∀ {store : S} (id : SlotId), Sound store →
    refused (get id store).state = refused store
  refused_delete_ok : ∀ {store : S} {id : SlotId}, Sound store →
    (delete id store).value = .ok () → refused (delete id store).state = refused store
  refused_delete_error : ∀ {store : S} {id : SlotId} {error : StoreError}, Sound store →
    live store id ≠ none → (delete id store).value = .error error →
      refused (delete id store).state = refused store ++ [id]

/-- A store whose operations on live records succeed while it is calm. -/
class ReliableStore (S : Type) extends LawfulStore S where
  /-- No operation is meant to fail. -/
  Calm : S → Prop
  /-- The store has room for a record. -/
  Room : S → Bytes → Prop
  calm_put : ∀ {store : S} (data : Bytes), Calm store → Calm (put data store).state
  calm_get : ∀ {store : S} (id : SlotId), Calm store → Calm (get id store).state
  calm_delete : ∀ {store : S} (id : SlotId), Calm store → Calm (delete id store).state
  /-- Reading and giving up records takes away no room. -/
  room_get : ∀ {store : S} {data : Bytes} (id : SlotId), Sound store → Room store data →
    Room (get id store).state data
  room_delete : ∀ {store : S} {data : Bytes} (id : SlotId), Sound store → Room store data →
    Room (delete id store).state data
  get_live : ∀ {store : S} {id : SlotId} {data : Bytes}, Sound store → Calm store →
    live store id = some data → (get id store).value = .ok data
  delete_live : ∀ {store : S} {id : SlotId} {data : Bytes}, Sound store → Calm store →
    live store id = some data → (delete id store).value = .ok ()
  put_room : ∀ {store : S} {data : Bytes}, Sound store → Calm store → Room store data →
    ∃ id, (put data store).value = .ok id

/-- Records in the order of their ids are told by which they are. -/
theorem eq_of_ascending {records others : List Record}
    (h : records.Pairwise fun a b => a.1 < b.1) (hothers : others.Pairwise fun a b => a.1 < b.1)
    (hmem : ∀ record, record ∈ records ↔ record ∈ others) : records = others := by
  have hnodup : ∀ {records : List Record}, (records.Pairwise fun a b => a.1 < b.1) →
      records.Nodup := by
    refine fun hsorted => List.nodup_iff_pairwise_ne.mpr (hsorted.imp ?_)
    rintro a b hlt rfl
    exact Nat.lt_irrefl _ hlt
  have hperm : records.Perm others :=
    (List.perm_ext_iff_of_nodup (hnodup h) (hnodup hothers)).mpr hmem
  exact hperm.eq_of_pairwise (fun a b _ _ hlt hgt => absurd hgt (Nat.lt_asymm hlt)) h hothers

end BlobLimbo
