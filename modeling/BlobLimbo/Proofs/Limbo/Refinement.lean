import BlobLimbo.Proofs.Limbo.Holdings
import Mathlib.Data.List.Perm.Basic

/-!
# A limbo over a reliable store is a finite map

`Holds` relates a map from transactions to blocks and sidecars to a limbo over a reliable store.
While nothing fails and the store has room, every call replies what the map says and keeps to the
relation (`Holds.perform`).
-/

namespace BlobLimbo

open Std

namespace Limbo

open SlotStore LawfulStore ReliableStore

variable {S : Type} [ReliableStore S] {limbo : Limbo S}
  {owner tx : TxHash} {block : UInt64} {sidecar : Sidecar} {id : SlotId}

/-- On a calm store an entry is always taken. -/
theorem take_of_calm (hsound : Sound limbo.store) (hcalm : Calm limbo.store)
    (hentry : EntryAt (live limbo.store) id ⟨owner, block, sidecar⟩) :
    (take id limbo).value = .ok ⟨owner, block, sidecar⟩ ∧
      (take id limbo).state.index = limbo.index.remove owner block id ∧
      Sound (take id limbo).state.store ∧ Calm (take id limbo).state.store ∧
      live (take id limbo).state.store = Function.update (live limbo.store) id none ∧
      ∀ data, Room limbo.store data → Room (take id limbo).state.store data := by
  have hentry' := hentry
  obtain ⟨data, hlive, -⟩ := hentry'
  have hget := get_live hsound hcalm hlive
  have hsoundGet := sound_get id hsound
  have hcalmGet := calm_get id hcalm
  have hliveGet := live_get id hsound
  have hdelete := delete_live hsoundGet hcalmGet (by rw [hliveGet, hlive])
  rcases take_cases hsound hentry with ⟨cause, herror, -⟩ | ⟨cause, herror, -⟩ | ⟨-, heffect⟩
  · simp [hget] at herror
  · simp [hdelete] at herror
  · obtain ⟨hvalue, hstore, hindex⟩ := effect_eq_iff.mp heffect
    rw [hvalue, hstore, hindex]
    refine ⟨rfl, rfl, sound_delete id hsoundGet, calm_delete id hcalmGet, ?_, ?_⟩
    · rw [(delete_ok hsoundGet hdelete).2, hliveGet]
    · exact fun data hroom => room_delete id hsoundGet (room_get id hsound hroom)

/-- On a calm store a tracked transaction is handed back with the sidecar of its entry. -/
theorem pull_of_calm (hsound : Sound limbo.store) (hcalm : Calm limbo.store)
    (hslot : limbo.index.slotOf tx = some id)
    (hentry : EntryAt (live limbo.store) id ⟨tx, block, sidecar⟩) :
    (pull tx limbo).value = .ok sidecar := by
  obtain ⟨hvalue, -, -⟩ := effect_eq_iff.mp (effect_pull_of_tracked hslot)
  rw [hvalue, (take_of_calm hsound hcalm hentry).1]
  rfl

/-- A sweep of a calm store deletes every record. -/
theorem deleteEvicted_of_calm {store : S} (hsound : Sound store) (hcalm : Calm store)
    {evicted : List Evicted} (hnodup : (evicted.map Evicted.id).Nodup)
    (hlive : ∀ slot ∈ evicted, live store slot.id ≠ none) :
    (deleteEvicted store evicted).value = [] ∧ Calm (deleteEvicted store evicted).state := by
  induction evicted generalizing store with
  | nil => exact ⟨rfl, hcalm⟩
  | cons slot evicted ih =>
    rw [List.map_cons, List.nodup_cons] at hnodup
    rw [List.forall_mem_cons] at hlive
    obtain ⟨data, hdata⟩ := Option.ne_none_iff_exists'.mp hlive.1
    have hdelete := delete_live hsound hcalm hdata
    obtain ⟨-, hgone⟩ := delete_ok hsound hdelete
    rw [deleteEvicted_cons_of_ok hdelete, Outcome.value_after, Outcome.state_after]
    refine ih (sound_delete slot.id hsound) (calm_delete slot.id hcalm) hnodup.2 ?_
    intro other hother
    have hne : other.id ≠ slot.id := fun hid => hnodup.1 (hid ▸ List.mem_map_of_mem hother)
    rw [hgone, Function.update_of_ne hne]
    exact hlive.2 other hother

/-- A sweep of a calm store evicts every slot at or below the finalized block together with its
record, and touches no other. -/
theorem finalize_of_calm {stranded : List SlotId} (hsound : Sound limbo.store)
    (hcalm : Calm limbo.store) (h : Accounted limbo.index (live limbo.store) stranded)
    (finalized : UInt64) :
    (finalize (some finalized) limbo).value =
        .swept (limbo.index.splitFinalized finalized).1.length [] ∧
      (finalize (some finalized) limbo).state.index = (limbo.index.splitFinalized finalized).2 ∧
      Sound (finalize (some finalized) limbo).state.store ∧
      Calm (finalize (some finalized) limbo).state.store ∧
      Accounted (limbo.index.splitFinalized finalized).2
        (live (finalize (some finalized) limbo).state.store) stranded ∧
      ∀ id, live (finalize (some finalized) limbo).state.store id =
        if id ∈ (limbo.index.splitFinalized finalized).1.map Evicted.id then none
        else live limbo.store id := by
  have hnodup := h.consistent.grounded.nodup_evicted finalized
  obtain ⟨hnone, hcalm'⟩ :=
    deleteEvicted_of_calm hsound hcalm hnodup (h.live_of_evicted finalized)
  obtain ⟨hsound', -, hlive⟩ := deleteEvicted_spec hsound hnodup
  obtain ⟨hvalue, hstore, hindex⟩ := effect_eq_iff.mp (effect_finalize_some limbo finalized)
  rw [hvalue, hstore, hindex, hnone]
  simp only [hnone, failedIds, List.map_nil, List.not_mem_nil, not_false_eq_true, true_and] at hlive
  have hrefused : ∀ id ∈ ([] : List SlotId),
      ∃ slot ∈ (limbo.index.splitFinalized finalized).1, slot.id = id := by simp
  have hswept := h.sweep finalized hrefused (by simpa [List.mem_map] using hlive)
  rw [List.append_nil] at hswept
  exact ⟨rfl, rfl, hsound', hcalm', hswept, hlive⟩

end Limbo

/-- A limbo over a reliable store holds what a map says. -/
structure Holds {S : Type} [ReliableStore S] (held : Holdings) (store : S) (index : Index) :
    Prop where
  sound : LawfulStore.Sound store
  calm : ReliableStore.Calm store
  accounted : Accounted index (LawfulStore.live store) []
  held_iff : ∀ (tx : TxHash) (block : UInt64) (sidecar : Sidecar),
    held[tx]? = some (block, sidecar) ↔ ∃ id, index.slots[id]? = some ⟨tx, block⟩ ∧
      EntryAt (LawfulStore.live store) id ⟨tx, block, sidecar⟩

namespace Holds

open Limbo LawfulStore ReliableStore

variable {S : Type} [ReliableStore S] {held : Holdings} {store : S} {index : Index}
  {tx : TxHash} {block : UInt64} {sidecar : Sidecar} {id : SlotId}

/-- A limbo in order over a calm store holds what the entries in its slots say. -/
theorem exists_of_accounted (hsound : Sound store) (hcalm : Calm store)
    (haccounted : Accounted index (live store) []) : ∃ held, Holds held store index := by
  let found (id : SlotId) : Option (UInt64 × Sidecar) :=
    ((live store id).bind fun data => (Entry.decode data).toOption).map fun entry =>
      (entry.block, entry.sidecar)
  have hfound : ∀ {id : SlotId} {entry : Entry}, EntryAt (live store) id entry →
      found id = some (entry.block, entry.sidecar) := by
    rintro id entry ⟨data, hdata, hdecode⟩
    simp [found, hdata, hdecode, Except.toOption]
  refine ⟨index.owners.filterMap fun _ id => found id, hsound, hcalm, haccounted, ?_⟩
  intro tx block sidecar
  rw [ExtTreeMap.getElem?_filterMap', Option.bind_eq_some_iff]
  constructor
  · rintro ⟨id, hslot, hid⟩
    obtain ⟨block', sidecar', hknown, hentry⟩ := haccounted.slot_of_owner hslot
    rw [hfound hentry, Option.some.injEq, Prod.mk.injEq] at hid
    obtain ⟨rfl, rfl⟩ := hid
    exact ⟨id, hknown, hentry⟩
  · rintro ⟨id, hknown, hentry⟩
    exact ⟨id, (haccounted.consistent.owner_iff tx id).mpr ⟨block, hknown⟩, hfound hentry⟩

/-- A transaction that is held has a slot with its entry. -/
theorem slot_of_held (h : Holds held store index) (hheld : held[tx]? = some (block, sidecar)) :
    ∃ id, index.slotOf tx = some id ∧ index.slots[id]? = some ⟨tx, block⟩ ∧
      EntryAt (live store) id ⟨tx, block, sidecar⟩ := by
  obtain ⟨id, hslot, hentry⟩ := (h.held_iff tx block sidecar).mp hheld
  exact ⟨id, (h.accounted.consistent.owner_iff tx id).mpr ⟨block, hslot⟩, hslot, hentry⟩

/-- A transaction that is not held has no slot. -/
theorem slotOf_eq_none (h : Holds held store index) (hheld : held[tx]? = none) :
    index.slotOf tx = none := by
  rw [Option.eq_none_iff_forall_ne_some]
  intro id hslot
  obtain ⟨block, sidecar, hslot', hentry⟩ := h.accounted.slot_of_owner hslot
  rw [(h.held_iff tx block sidecar).mpr ⟨id, hslot', hentry⟩] at hheld
  simp at hheld

/-- A transaction is held when it has a slot. -/
theorem contains_eq (h : Holds held store index) (tx : TxHash) :
    index.contains tx = held.contains tx := by
  cases hheld : held[tx]? with
  | none =>
    have hslot := h.slotOf_eq_none hheld
    rw [Index.contains, ExtTreeMap.contains_eq_isSome_getElem?,
      ExtTreeMap.contains_eq_isSome_getElem?, hheld]
    rw [Index.slotOf] at hslot
    rw [hslot]
    rfl
  | some entry =>
    obtain ⟨id, hslot, -⟩ := h.slot_of_held hheld
    rw [Index.contains, ExtTreeMap.contains_eq_isSome_getElem?,
      ExtTreeMap.contains_eq_isSome_getElem?, hheld]
    rw [Index.slotOf] at hslot
    rw [hslot]
    rfl

variable {limbo : Limbo S}

/-- The slot of a transaction that is held is the one of its entry. -/
theorem slot_unique (h : Holds held store index) {block' : UInt64}
    (hslot : index.slots[id]? = some ⟨tx, block⟩) {id' : SlotId}
    (hslot' : index.slots[id']? = some ⟨tx, block'⟩) : id' = id :=
  h.accounted.consistent.slot_unique hslot hslot'

/-- What is held once the slot of a transaction is given up. -/
theorem erase_iff (h : Holds held store index) (hknown : index.slots[id]? = some ⟨tx, block⟩)
    (tx' : TxHash) (block' : UInt64) (sidecar' : Sidecar) :
    (held.erase tx)[tx']? = some (block', sidecar') ↔
      ∃ id', (index.slots.erase id)[id']? = some ⟨tx', block'⟩ ∧
        EntryAt (Function.update (live store) id none) id' ⟨tx', block', sidecar'⟩ := by
  simp only [ExtTreeMap.getElem?_erase, LawfulEqCmp.compare_eq_iff_eq]
  by_cases htx : tx = tx'
  · subst htx
    simp only [if_true, reduceCtorEq, false_iff, not_exists, not_and]
    intro id' hid'
    split at hid'
    · simp at hid'
    · rename_i hne
      exact absurd (h.slot_unique hknown hid').symm hne
  · rw [if_neg htx, h.held_iff]
    constructor
    · rintro ⟨id', hid', hentry'⟩
      have hne : id ≠ id' := by
        rintro rfl
        rw [hknown] at hid'
        simp only [Option.some.injEq, Tracked.mk.injEq] at hid'
        exact htx hid'.1
      exact ⟨id', by rw [if_neg hne, hid'],
        hentry'.congr (by rw [Function.update_of_ne (Ne.symm hne)])⟩
    · rintro ⟨id', hid', hentry'⟩
      split at hid'
      · simp at hid'
      · exact ⟨id', hid', hentry'.of_update_none⟩

/-- What is held once an unused slot is given to a transaction that is not held. -/
theorem insert_iff (h : Holds held store index) (hheld : held[tx]? = none) {data : Bytes}
    (hfresh : index.slots[id]? = none)
    (hentry : EntryAt (Function.update (live store) id (some data)) id ⟨tx, block, sidecar⟩)
    (tx' : TxHash) (block' : UInt64) (sidecar' : Sidecar) :
    (held.insert tx (block, sidecar))[tx']? = some (block', sidecar') ↔
      ∃ id', (index.slots.insert id ⟨tx, block⟩)[id']? = some ⟨tx', block'⟩ ∧
        EntryAt (Function.update (live store) id (some data)) id' ⟨tx', block', sidecar'⟩ := by
  simp only [ExtTreeMap.getElem?_insert, LawfulEqCmp.compare_eq_iff_eq]
  by_cases htx : tx = tx'
  · subst htx
    simp only [if_true, Option.some.injEq, Prod.mk.injEq]
    constructor
    · rintro ⟨rfl, rfl⟩
      exact ⟨id, by simp, hentry⟩
    · rintro ⟨id', hid', hentry'⟩
      split at hid'
      · rename_i heq
        subst heq
        have hsame := hentry.unique hentry'
        simp only [Entry.mk.injEq] at hsame
        exact ⟨hsame.2.1.symm, hsame.2.2.symm⟩
      · have hslotOf := (h.accounted.consistent.owner_iff tx id').mpr ⟨block', hid'⟩
        have hnone := h.slotOf_eq_none hheld
        rw [Index.slotOf] at hnone
        simp [hnone] at hslotOf
  · rw [if_neg htx, h.held_iff]
    constructor
    · rintro ⟨id', hid', hentry'⟩
      have hne : id' ≠ id := by
        rintro rfl
        simp [hfresh] at hid'
      refine ⟨id', by rw [if_neg (Ne.symm hne), hid'], hentry'.congr ?_⟩
      rw [Function.update_of_ne hne]
    · rintro ⟨id', hid', hentry'⟩
      split at hid'
      · simp only [Option.some.injEq, Tracked.mk.injEq] at hid'
        exact absurd hid'.1 htx
      · rename_i hne
        refine ⟨id', hid', hentry'.congr ?_⟩
        rw [Function.update_of_ne (Ne.symm hne)]

/-- Taking the entry of a transaction that is held. -/
theorem take (h : Holds held limbo.store limbo.index) (hheld : held[tx]? = some (block, sidecar))
    (hslot : limbo.index.slotOf tx = some id) :
    (Limbo.take id limbo).value = .ok ⟨tx, block, sidecar⟩ ∧
      Holds (held.erase tx) (Limbo.take id limbo).state.store (Limbo.take id limbo).state.index ∧
      ∀ data, Room limbo.store data → Room (Limbo.take id limbo).state.store data := by
  obtain ⟨id', hslot', hknown, hentry⟩ := h.slot_of_held hheld
  rw [hslot, Option.some.injEq] at hslot'
  subst hslot'
  obtain ⟨hvalue, hindex, hsound, hcalm, hlive, hroom⟩ := take_of_calm h.sound h.calm hentry
  obtain ⟨-, hslots⟩ := h.accounted.consistent.remove hknown
  refine ⟨hvalue, ⟨hsound, hcalm, ?_, ?_⟩, hroom⟩
  · rw [hindex, hlive]
    exact h.accounted.drop hknown
  · rw [hindex, hlive, hslots]
    exact h.erase_iff hknown

/-- Storing an entry for a transaction that is not held. -/
theorem insert (h : Holds held limbo.store limbo.index) (hheld : held[tx]? = none)
    (hlength : (Entry.encode ⟨tx, block, sidecar⟩).length < 2 ^ 64)
    (hroom : Room limbo.store (Entry.encode ⟨tx, block, sidecar⟩)) :
    (Limbo.insert ⟨tx, block, sidecar⟩ limbo).value = .ok () ∧
      Holds (held.insert tx (block, sidecar))
        (Limbo.insert ⟨tx, block, sidecar⟩ limbo).state.store
        (Limbo.insert ⟨tx, block, sidecar⟩ limbo).state.index := by
  obtain ⟨id, hput⟩ := put_room h.sound h.calm hroom
  rcases insert_cases h.sound h.accounted (h.slotOf_eq_none hheld) (fun _ _ => hlength) with
    ⟨cause, herror, -⟩ | ⟨id', next, hput', heffect, hfresh, hslots, hentry, haccounted⟩
  · simp [hput] at herror
  · obtain ⟨hvalue, hstore, hindex⟩ := effect_eq_iff.mp heffect
    rw [hvalue, hstore, hindex]
    refine ⟨rfl, sound_put _ h.sound, calm_put _ h.calm, haccounted, ?_⟩
    have hlive := (put_ok h.sound hput').2
    rw [hlive] at hentry
    rw [hlive, hslots]
    exact h.insert_iff hheld hfresh hentry

/-- As many slots are evicted as transactions are held at or below the finalized block. -/
theorem length_evicted (h : Holds held store index) (finalized : UInt64) :
    (index.splitFinalized finalized).1.length = (held.final finalized).size := by
  have hconsistent := h.accounted.consistent
  have hgrounded := hconsistent.grounded
  have hnodup : ((index.splitFinalized finalized).1.map Evicted.owner).Nodup := by
    rw [List.Nodup, List.pairwise_map]
    have hids := hgrounded.nodup_evicted finalized
    rw [List.Nodup, List.pairwise_map] at hids
    refine hids.imp_of_mem ?_
    intro slot slot' hslot hslot' hne howner
    obtain ⟨hknown, -⟩ := (hgrounded.mem_evicted_iff finalized).mp hslot
    obtain ⟨hknown', -⟩ := (hgrounded.mem_evicted_iff finalized).mp hslot'
    rw [howner] at hknown
    exact hne (hconsistent.slot_unique hknown hknown').symm
  have hperm : ((index.splitFinalized finalized).1.map Evicted.owner).Perm
      (held.final finalized).keys := by
    rw [List.perm_ext_iff_of_nodup hnodup ExtTreeMap.nodup_keys]
    intro tx
    rw [List.mem_map, ExtTreeMap.mem_keys, ExtTreeMap.mem_iff_isSome_getElem?,
      Option.isSome_iff_exists]
    constructor
    · rintro ⟨slot, hslot, rfl⟩
      obtain ⟨hknown, hle⟩ := (hgrounded.mem_evicted_iff finalized).mp hslot
      obtain ⟨sidecar, hentry⟩ := h.accounted.stored slot.id _ hknown
      have hheld := (h.held_iff slot.owner slot.block sidecar).mpr ⟨slot.id, hknown, hentry⟩
      exact ⟨(slot.block, sidecar), Holdings.getElem?_final.mpr ⟨hheld, hle⟩⟩
    · rintro ⟨⟨block, sidecar⟩, hfinal⟩
      obtain ⟨hheld, hle⟩ := Holdings.getElem?_final.mp hfinal
      obtain ⟨id, -, hknown, -⟩ := h.slot_of_held hheld
      exact ⟨⟨id, tx, block⟩, (hgrounded.mem_evicted_iff finalized).mpr ⟨hknown, hle⟩, rfl⟩
  rw [← List.length_map Evicted.owner, hperm.length_eq, ExtTreeMap.length_keys]

/-- Evicting what is final. -/
theorem finalize (h : Holds held limbo.store limbo.index) (finalized : UInt64) :
    (Limbo.finalize (some finalized) limbo).value =
        .swept (held.final finalized).size [] ∧
      Holds (held.pending finalized) (Limbo.finalize (some finalized) limbo).state.store
        (Limbo.finalize (some finalized) limbo).state.index := by
  obtain ⟨hvalue, hindex, hsound, hcalm, haccounted, hlive⟩ :=
    finalize_of_calm h.sound h.calm h.accounted finalized
  rw [hvalue, hindex, h.length_evicted]
  refine ⟨rfl, hsound, hcalm, haccounted, ?_⟩
  intro tx block sidecar
  simp only [Holdings.getElem?_pending, h.held_iff,
    h.accounted.consistent.grounded.slots_splitFinalized]
  have hkept : ∀ id, limbo.index.slots[id]? = some ⟨tx, block⟩ → finalized < block →
      live (Limbo.finalize (some finalized) limbo).state.store id = live limbo.store id := by
    intro id hslot hlt
    rw [hlive, if_neg]
    exact fun hmem => h.accounted.not_evicted hslot hlt (List.mem_map.mp hmem)
  constructor
  · rintro ⟨⟨id, hslot, hentry⟩, hlt⟩
    exact ⟨id, ⟨hslot, hlt⟩, hentry.congr (hkept id hslot hlt)⟩
  · rintro ⟨id, ⟨hslot, hlt⟩, hentry⟩
    exact ⟨⟨id, hslot, hentry.congr (hkept id hslot hlt).symm⟩, hlt⟩

/-- Pushing a transaction. -/
theorem push (h : Holds held limbo.store limbo.index)
    (hlength : (Entry.encode ⟨tx, block, sidecar⟩).length < 2 ^ 64)
    (hroom : Room limbo.store (Entry.encode ⟨tx, block, sidecar⟩)) :
    (limbo.perform (.push tx block sidecar)).value = (held.perform (.push tx block sidecar)).1 ∧
      Holds (held.perform (.push tx block sidecar)).2
        (limbo.perform (.push tx block sidecar)).state.store
        (limbo.perform (.push tx block sidecar)).state.index := by
  have hcontains := h.contains_eq tx
  by_cases hmem : tx ∈ held
  · have htracked : limbo.contains tx = true := by
      rw [Limbo.contains, hcontains, ExtTreeMap.contains_iff_mem]
      exact hmem
    obtain ⟨hvalue, hstore, hindex⟩ :=
      effect_eq_iff.mp (effect_push_of_tracked block sidecar htracked)
    simp only [Limbo.perform, Holdings.perform, if_pos hmem, Outcome.value_map, Outcome.state_map,
      hvalue, hstore, hindex]
    exact ⟨trivial, h⟩
  · have huntracked : limbo.contains tx = false := by
      rw [Limbo.contains, hcontains, ← Bool.not_eq_true, ExtTreeMap.contains_iff_mem]
      exact hmem
    obtain ⟨hvalue, hstore, hindex⟩ :=
      effect_eq_iff.mp (effect_push_of_untracked block sidecar huntracked)
    obtain ⟨hok, hholds⟩ := h.insert (ExtTreeMap.getElem?_eq_none hmem) hlength hroom
    simp only [Limbo.perform, Holdings.perform, if_neg hmem, Outcome.value_map, Outcome.state_map,
      hvalue, hstore, hindex, hok]
    exact ⟨trivial, hholds⟩

/-- Pulling a transaction. -/
theorem pull (h : Holds held limbo.store limbo.index) :
    (limbo.perform (.pull tx)).value = (held.perform (.pull tx)).1 ∧
      Holds (held.perform (.pull tx)).2 (limbo.perform (.pull tx)).state.store
        (limbo.perform (.pull tx)).state.index := by
  cases hheld : held[tx]? with
  | none =>
    obtain ⟨hvalue, hstore, hindex⟩ :=
      effect_eq_iff.mp (effect_pull_of_untracked (h.slotOf_eq_none hheld))
    simp only [Limbo.perform, Holdings.perform, hheld, Outcome.value_map, Outcome.state_map,
      hvalue, hstore, hindex]
    exact ⟨trivial, h⟩
  | some entry =>
    obtain ⟨block, sidecar⟩ := entry
    obtain ⟨id, hslot, -⟩ := h.slot_of_held hheld
    obtain ⟨hvalue, hstore, hindex⟩ := effect_eq_iff.mp (effect_pull_of_tracked hslot)
    obtain ⟨hok, hholds, -⟩ := h.take hheld hslot
    simp only [Limbo.perform, Holdings.perform, hheld, Outcome.value_map, Outcome.state_map,
      hvalue, hstore, hindex, hok]
    exact ⟨rfl, hholds⟩

/-- Moving a transaction to another block. The entry that is stored anew needs room. -/
theorem update (h : Holds held limbo.store limbo.index)
    (hlength : ∀ source sidecar, held[tx]? = some (source, sidecar) →
      (Entry.encode ⟨tx, block, sidecar⟩).length < 2 ^ 64)
    (hroom : ∀ source sidecar, held[tx]? = some (source, sidecar) →
      Room limbo.store (Entry.encode ⟨tx, block, sidecar⟩)) :
    (limbo.perform (.update tx block)).value = (held.perform (.update tx block)).1 ∧
      Holds (held.perform (.update tx block)).2 (limbo.perform (.update tx block)).state.store
        (limbo.perform (.update tx block)).state.index := by
  cases hheld : held[tx]? with
  | none =>
    obtain ⟨hvalue, hstore, hindex⟩ :=
      effect_eq_iff.mp (effect_update_of_untracked block (h.slotOf_eq_none hheld))
    simp only [Limbo.perform, Holdings.perform, hheld, Outcome.value_map, Outcome.state_map,
      hvalue, hstore, hindex]
    exact ⟨trivial, h⟩
  | some entry =>
    obtain ⟨source, sidecar⟩ := entry
    obtain ⟨id, hslot, hknown, -⟩ := h.slot_of_held hheld
    have hsource : (limbo.index.slot id).map Tracked.block = some source := by
      rw [Index.slot, hknown]
      rfl
    by_cases hsame : source = block
    · rw [hsame] at hsource
      obtain ⟨hvalue, hstore, hindex⟩ :=
        effect_eq_iff.mp (effect_update_of_unchanged hslot hsource)
      simp only [Limbo.perform, Holdings.perform, hheld, if_pos hsame, Outcome.value_map,
        Outcome.state_map, hvalue, hstore, hindex]
      exact ⟨trivial, h⟩
    · have hblock : (limbo.index.slot id).map Tracked.block ≠ some block := by
        rw [hsource, ne_eq, Option.some.injEq]
        exact hsame
      obtain ⟨htake, hholds, hkept⟩ := h.take hheld hslot
      obtain ⟨hvalue, hstore, hindex⟩ :=
        effect_eq_iff.mp (effect_update_of_taken hslot hblock htake)
      obtain ⟨hok, hmoved⟩ := hholds.insert ExtTreeMap.getElem?_erase_self
        (hlength source sidecar hheld) (hkept _ (hroom source sidecar hheld))
      simp only [Limbo.perform, Holdings.perform, hheld, if_neg hsame, Outcome.value_map,
        Outcome.state_map, hvalue, hstore, hindex, hok]
      rw [Holdings.insert_erase] at hmoved
      exact ⟨rfl, hmoved⟩

end Holds

/-- A store has room for the entries of sidecars of a kind, and they can be read back. -/
def Accommodates {S : Type} [ReliableStore S] (fits : Sidecar → Prop) (store : S) : Prop :=
  ∀ (owner : TxHash) (block : UInt64) (sidecar : Sidecar), fits sidecar →
    (Entry.encode ⟨owner, block, sidecar⟩).length < 2 ^ 64 ∧
      ReliableStore.Room store (Entry.encode ⟨owner, block, sidecar⟩)

namespace Holds

open Limbo

variable {S : Type} [ReliableStore S] {held : Holdings} {limbo : Limbo S}
  {fits : Sidecar → Prop}

/-- Every call replies what the map says and leaves what the map says. -/
theorem perform (h : Holds held limbo.store limbo.index) (hheld : held.Fits fits)
    (hroom : Accommodates fits limbo.store) {call : Call} (hcall : call.Fits fits) :
    (limbo.perform call).value = (held.perform call).1 ∧
      Holds (held.perform call).2 (limbo.perform call).state.store
        (limbo.perform call).state.index := by
  cases call with
  | push tx block sidecar =>
    obtain ⟨hlength, hroom⟩ := hroom tx block sidecar hcall
    exact h.push hlength hroom
  | pull tx => exact h.pull
  | update tx block =>
    exact h.update (fun source sidecar hentry => (hroom tx block sidecar (hheld _ _ _ hentry)).1)
      (fun source sidecar hentry => (hroom tx block sidecar (hheld _ _ _ hentry)).2)
  | finalize finalized =>
    cases finalized with
    | none => exact ⟨rfl, h⟩
    | some finalized =>
      obtain ⟨hvalue, hholds⟩ := h.finalize finalized
      refine ⟨?_, hholds⟩
      simp only [Limbo.perform, Holdings.perform, Outcome.value_map, hvalue]

/-- Every run replies what the map says and leaves what the map says, as long as there is room. -/
theorem run (h : Holds held limbo.store limbo.index) (hheld : held.Fits fits) {calls : List Call}
    (hroom : ∀ earlier, earlier <+: calls → Accommodates fits (limbo.run earlier).state.store)
    (hcalls : ∀ call ∈ calls, call.Fits fits) :
    (limbo.run calls).value = (held.run calls).1 ∧
      Holds (held.run calls).2 (limbo.run calls).state.store (limbo.run calls).state.index := by
  induction calls generalizing limbo held with
  | nil => exact ⟨rfl, h⟩
  | cons call calls ih =>
    rw [List.forall_mem_cons] at hcalls
    obtain ⟨hvalue, hholds⟩ := h.perform hheld (hroom [] (List.nil_prefix)) hcalls.1
    have hrest : ∀ earlier, earlier <+: calls →
        Accommodates fits ((limbo.perform call).state.run earlier).state.store := by
      intro earlier hprefix
      have hlonger := hroom (call :: earlier) (List.cons_prefix_cons.mpr ⟨rfl, hprefix⟩)
      rwa [state_run_cons] at hlonger
    obtain ⟨hvalues, hlast⟩ := ih hholds (hheld.perform hcalls.1) hrest hcalls.2
    rw [value_run_cons, state_run_cons, hvalue, hvalues]
    exact ⟨rfl, hlast⟩

end Holds

end BlobLimbo
