import BlobLimbo.Limbo.Recovery
import BlobLimbo.Proofs.Limbo.Effect
import BlobLimbo.Proofs.Limbo.Tracking
import BlobLimbo.Proofs.Store.Lawful
import Mathlib.Data.List.Nodup

/-!
# What recovery rebuilds

Replaying the records of a store gives an index of the records that are not dropped, and dropping
the others leaves a store whose live records the index all knows (`recover_accounted`). An index
that knew every live record before is rebuilt as it was, and nothing is dropped
(`recover_of_accounted`).
-/

namespace BlobLimbo.Limbo

open Std LawfulStore

variable {index : Index} {id : SlotId}

/-- A record that finds its place is put into the index. -/
theorem indexRecords_cons_of_ok {record : Record} {rest : List Record} {next : Index}
    (hrecord : indexRecord index record = .ok next) :
    indexRecords index (record :: rest) = indexRecords next rest := by
  rw [indexRecords, hrecord]

/-- A record that finds no place is left over. -/
theorem indexRecords_cons_of_error {record : Record} {rest : List Record} {event : LimboEvent}
    (hrecord : indexRecord index record = .error event) :
    indexRecords index (record :: rest) =
      ((indexRecords index rest).map (record.1 :: ·)).after [.limbo event] := by
  rw [indexRecords, hrecord]

/-- An entry under a fresh id finds its place if its owner has no slot yet. -/
theorem indexRecord_of_untracked (h : index.Consistent) {record : Record} {entry : Entry}
    (hdecode : Entry.decode record.2 = .ok entry) (hfresh : index.slots[record.1]? = none)
    (howner : index.slotOf entry.owner = none) :
    ∃ next, indexRecord index record = .ok next ∧ next.Consistent ∧
      next.slots = index.slots.insert record.1 ⟨entry.owner, entry.block⟩ := by
  obtain ⟨next, hnext, hconsistent, hslots⟩ := h.insert?_eq entry.block howner hfresh
  refine ⟨next, ?_, hconsistent, hslots⟩
  simp [indexRecord, hdecode, hnext]

/-- A record that finds its place is an entry of an owner without a slot. -/
theorem indexRecord_eq_ok (h : index.Consistent) {record : Record} {next : Index}
    (hfresh : index.slots[record.1]? = none) (hrecord : indexRecord index record = .ok next) :
    ∃ entry, Entry.decode record.2 = .ok entry ∧ next.Consistent ∧
      next.slots = index.slots.insert record.1 ⟨entry.owner, entry.block⟩ := by
  cases hdecode : Entry.decode record.2 with
  | error cause => simp [indexRecord, hdecode] at hrecord
  | ok entry =>
    cases howner : index.slotOf entry.owner with
    | none =>
      obtain ⟨next', hnext, hconsistent, hslots⟩ :=
        indexRecord_of_untracked h hdecode hfresh howner
      rw [hnext, Except.ok.injEq] at hrecord
      subst hrecord
      exact ⟨entry, rfl, hconsistent, hslots⟩
    | some id =>
      have hcontains : index.owners.contains entry.owner = true := by
        rw [ExtTreeMap.contains_iff_mem, ExtTreeMap.mem_iff_isSome_getElem?]
        exact Option.isSome_of_eq_some howner
      simp [indexRecord, hdecode, Index.insert?, hcontains] at hrecord

/-- What is left over was replayed. -/
theorem sublist_indexRecords (index : Index) (records : List Record) :
    (indexRecords index records).value.Sublist (records.map Prod.fst) := by
  induction records generalizing index with
  | nil => exact List.Sublist.slnil
  | cons record records ih =>
    cases hrecord : indexRecord index record with
    | ok next =>
      rw [indexRecords_cons_of_ok hrecord, List.map_cons]
      exact (ih next).cons _
    | error event =>
      rw [indexRecords_cons_of_error hrecord, List.map_cons]
      exact (ih index).cons_cons _

/-- Replaying keeps an index consistent. The slots it adds are those of the records that are not
left over, which are entries. -/
theorem indexRecords_spec (h : index.Consistent) {records : List Record}
    (hnodup : (records.map Prod.fst).Nodup)
    (hfresh : ∀ record ∈ records, index.slots[record.1]? = none) :
    (indexRecords index records).state.Consistent ∧
      (∀ record ∈ records, record.1 ∉ (indexRecords index records).value →
        ∃ entry, Entry.decode record.2 = .ok entry ∧
          (indexRecords index records).state.slots[record.1]? =
            some ⟨entry.owner, entry.block⟩) ∧
      (∀ id, (∀ record ∈ records, record.1 = id → id ∈ (indexRecords index records).value) →
        (indexRecords index records).state.slots[id]? = index.slots[id]?) := by
  induction records generalizing index with
  | nil => exact ⟨h, by simp, fun _ _ => rfl⟩
  | cons record records ih =>
    rw [List.map_cons, List.nodup_cons] at hnodup
    rw [List.forall_mem_cons] at hfresh
    obtain ⟨hrecordFresh, hfresh⟩ := hfresh
    have hother : ∀ other ∈ records, record.1 ≠ other.1 := by
      intro other hother hid
      exact hnodup.1 (hid ▸ List.mem_map_of_mem hother)
    cases hrecord : indexRecord index record with
    | ok next =>
      obtain ⟨entry, hdecode, hconsistent, hslots⟩ := indexRecord_eq_ok h hrecordFresh hrecord
      have hnextFresh : ∀ other ∈ records, next.slots[other.1]? = none := by
        intro other hmem
        simp only [hslots, ExtTreeMap.getElem?_insert, LawfulEqCmp.compare_eq_iff_eq,
          hother other hmem, if_false]
        exact hfresh other hmem
      obtain ⟨hlast, hplaced, hkept⟩ := ih hconsistent hnodup.2 hnextFresh
      rw [indexRecords_cons_of_ok hrecord]
      have hnotLeft : record.1 ∉ (indexRecords next records).value :=
        fun hmem => hnodup.1 ((sublist_indexRecords next records).subset hmem)
      refine ⟨hlast, ?_, ?_⟩
      · rw [List.forall_mem_cons]
        refine ⟨fun _ => ⟨entry, hdecode, ?_⟩, hplaced⟩
        rw [hkept record.1 (fun other hmem hid => absurd hid.symm (hother other hmem)), hslots,
          ExtTreeMap.getElem?_insert_self]
      · intro id hid
        rw [List.forall_mem_cons] at hid
        have hne : record.1 ≠ id := fun heq => hnotLeft (heq ▸ hid.1 heq)
        rw [hkept id hid.2, hslots]
        simp [ExtTreeMap.getElem?_insert, hne]
    | error event =>
      obtain ⟨hlast, hplaced, hkept⟩ := ih h hnodup.2 hfresh
      rw [indexRecords_cons_of_error hrecord]
      simp only [Outcome.state_after, Outcome.value_after, Outcome.state_map, Outcome.value_map]
      refine ⟨hlast, ?_, ?_⟩
      · rw [List.forall_mem_cons]
        refine ⟨by simp, fun other hmem hid => hplaced other hmem ?_⟩
        exact fun hleft => hid (List.mem_cons_of_mem _ hleft)
      · intro id hid
        refine hkept id fun other hmem heq => ?_
        rcases List.mem_cons.mp (hid other (List.mem_cons_of_mem _ hmem) heq) with hsame | hleft
        · exact absurd (hsame.symm.trans heq.symm) (hother other hmem)
        · exact hleft

/-- A new slot of one owner gives no slot to another. -/
theorem slotOf_eq_none_of_insert {next : Index} {owner other : TxHash} {block : UInt64}
    (h : index.Consistent) (hnext : next.Consistent)
    (hslots : next.slots = index.slots.insert id ⟨owner, block⟩) (hne : owner ≠ other)
    (huntracked : index.slotOf other = none) : next.slotOf other = none := by
  rw [Index.slotOf, Option.eq_none_iff_forall_ne_some] at huntracked ⊢
  intro slot hslotOf
  obtain ⟨block', hslot⟩ := (hnext.owner_iff other slot).mp hslotOf
  simp only [hslots, ExtTreeMap.getElem?_insert, LawfulEqCmp.compare_eq_iff_eq] at hslot
  split at hslot
  · simp only [Option.some.injEq, Tracked.mk.injEq] at hslot
    exact hne hslot.1
  · exact huntracked slot ((h.owner_iff other slot).mpr ⟨block', hslot⟩)

/-- Entries of different owners all find their place. -/
theorem indexRecords_of_entries (h : index.Consistent) {records : List Record}
    (hnodup : (records.map Prod.fst).Nodup)
    (hfresh : ∀ record ∈ records, index.slots[record.1]? = none)
    (hentries : ∀ record ∈ records, ∃ entry, Entry.decode record.2 = .ok entry ∧
      index.slotOf entry.owner = none)
    (howners : records.Pairwise fun a b => ∀ first second, Entry.decode a.2 = .ok first →
      Entry.decode b.2 = .ok second → first.owner ≠ second.owner) :
    (indexRecords index records).value = [] ∧ (indexRecords index records).events = [] := by
  induction records generalizing index with
  | nil => exact ⟨rfl, rfl⟩
  | cons record records ih =>
    rw [List.map_cons, List.nodup_cons] at hnodup
    rw [List.forall_mem_cons] at hfresh hentries
    rw [List.pairwise_cons] at howners
    obtain ⟨entry, hdecode, howner⟩ := hentries.1
    obtain ⟨next, hnext, hconsistent, hslots⟩ :=
      indexRecord_of_untracked h hdecode hfresh.1 howner
    rw [indexRecords_cons_of_ok hnext]
    refine ih hconsistent hnodup.2 ?_ ?_ howners.2
    · intro other hmem
      have hne : record.1 ≠ other.1 := fun hid => hnodup.1 (hid ▸ List.mem_map_of_mem hmem)
      rw [hslots]
      simpa [ExtTreeMap.getElem?_insert, hne] using hfresh.2 other hmem
    · intro other hmem
      obtain ⟨second, hsecond, huntracked⟩ := hentries.2 other hmem
      have hne := howners.1 other hmem entry second hdecode hsecond
      exact ⟨second, hsecond, slotOf_eq_none_of_insert h hconsistent hslots hne huntracked⟩

section Store

variable {S : Type}

/-- Records that are deleted one after the other are gone, the others stay. -/
theorem deleteAll_spec [LawfulStore S] {store : S} (hsound : Sound store) {ids : List SlotId}
    (hok : (deleteAll ids store).value = .ok ()) :
    Sound (deleteAll ids store).state ∧
      ∀ id, live (deleteAll ids store).state id = if id ∈ ids then none else live store id := by
  induction ids generalizing store with
  | nil => exact ⟨hsound, by simp [deleteAll]⟩
  | cons slot ids ih =>
    rw [deleteAll] at hok ⊢
    cases hdelete : (SlotStore.delete slot store).value with
    | error cause =>
      rw [Action.bind_of_error hdelete] at hok
      simp at hok
    | ok value =>
      rw [Action.bind_of_ok hdelete, Outcome.value_after] at hok
      rw [Action.bind_of_ok hdelete, Outcome.state_after]
      obtain ⟨-, hgone⟩ := delete_ok hsound hdelete
      obtain ⟨hsound', hlive⟩ := ih (sound_delete slot hsound) hok
      refine ⟨hsound', fun id => ?_⟩
      simp only [hlive, hgone, List.mem_cons]
      by_cases hid : id = slot
      · subst hid
        simp
      · simp [hid]

variable [SlotStore S]

/-- Closing on failure does not touch what succeeds. -/
theorem closingOnFailure_of_ok {action : Action StoreError S Unit} {store : S}
    (hok : (action store).value = .ok ()) : closingOnFailure action store = action store := by
  unfold closingOnFailure
  cases haction : action store with
  | mk result left events =>
    rw [haction] at hok
    cases hok
    rfl

/-- Closing on failure does not turn a failure into a success. -/
theorem value_closingOnFailure (action : Action StoreError S Unit) (store : S) :
    (closingOnFailure action store).value = (action store).value := by
  unfold closingOnFailure
  cases action store with
  | mk result left events => cases result <;> rfl

/-- Dropping what is left over succeeds when all of it is deleted. -/
theorem dropInvalid_of_ok {store : S} {ids : List SlotId}
    (hok : (dropInvalid ids store).value = .ok ()) :
    (deleteAll ids store).value = .ok () ∧
      (dropInvalid ids store).state = (deleteAll ids store).state := by
  by_cases hids : ids = []
  · subst hids
    exact ⟨rfl, rfl⟩
  · unfold dropInvalid at hok ⊢
    rw [if_pos hids, Action.bind_of_ok rfl] at hok ⊢
    rw [Outcome.value_after, Action.report_apply, value_closingOnFailure,
      Action.value_reportFailure] at hok
    refine ⟨hok, ?_⟩
    rw [Outcome.state_after, Action.report_apply,
      closingOnFailure_of_ok (by rw [Action.value_reportFailure, hok]), Action.state_reportFailure]

/-- Recovery succeeds when what is left over is dropped. -/
theorem recover_of_ok {store : S} {records : List Record}
    (hok : (recover store records).value = .ok ()) :
    (deleteAll (indexRecords {} records).value store).value = .ok () ∧
      (recover store records).state =
        { store := (deleteAll (indexRecords {} records).value store).state,
          index := (indexRecords {} records).state } := by
  unfold recover at hok ⊢
  dsimp only at hok ⊢
  rw [Outcome.value_after] at hok
  cases hdrop : (dropInvalid (indexRecords {} records).value store).value with
  | error cause =>
    rw [Action.bind_of_error (value_onStore_of_error hdrop)] at hok
    simp at hok
  | ok value =>
    obtain ⟨hdeleted, hstate⟩ := dropInvalid_of_ok hdrop
    refine ⟨hdeleted, ?_⟩
    rw [Outcome.state_after, Action.bind_of_ok (value_onStore_of_ok hdrop), Outcome.state_after,
      Action.report_apply, state_onStore, hstate]
    rfl

/-- When nothing is left over, recovery touches no record. -/
theorem recover_of_nil {store : S} {records : List Record}
    (hnil : (indexRecords {} records).value = []) :
    recover store records =
      { value := .ok ()
        state := { store, index := (indexRecords {} records).state }
        events := (indexRecords {} records).events ++
          [.limbo (.indexed (indexRecords {} records).state.size 0)] } := by
  unfold recover
  dsimp only
  rw [hnil]
  rfl

end Store

section Lawful

variable {S : Type} [LawfulStore S] {store : S} {records : List Record}

/-- The records a store lists are its live ones, each once. -/
structure Lists (store : S) (records : List Record) : Prop where
  nodup : (records.map Prod.fst).Nodup
  mem_iff : ∀ (id : SlotId) (data : Bytes), (id, data) ∈ records ↔ live store id = some data

/-- A recovered index accounts for every live record, and no record is new. -/
theorem recover_accounted (hsound : Sound store) (hlists : Lists store records)
    (hok : (recover store records).value = .ok ()) :
    Sound (recover store records).state.store ∧
      Accounted (recover store records).state.index (live (recover store records).state.store)
        [] ∧
      ∀ (id : SlotId) (data : Bytes), live (recover store records).state.store id = some data →
        live store id = some data := by
  obtain ⟨hdeleted, hstate⟩ := recover_of_ok hok
  obtain ⟨hsound', hlive⟩ := deleteAll_spec hsound hdeleted
  obtain ⟨hconsistent, hplaced, hkept⟩ :=
    indexRecords_spec Index.consistent_empty hlists.nodup (by simp)
  rw [hstate]
  refine ⟨hsound', ⟨hconsistent, ?_, ?_⟩, ?_⟩
  · intro id tracked hslot
    dsimp only at hslot ⊢
    by_cases hreplayed : ∀ record ∈ records, record.1 = id →
        id ∈ (indexRecords {} records).value
    · rw [hkept id hreplayed] at hslot
      simp at hslot
    · push Not at hreplayed
      obtain ⟨⟨id', data⟩, hmem, rfl, hplace⟩ := hreplayed
      obtain ⟨entry, hdecode, hslot'⟩ := hplaced _ hmem hplace
      rw [hslot', Option.some.injEq] at hslot
      subst hslot
      refine ⟨entry.sidecar, data, ?_, hdecode⟩
      rw [hlive, if_neg hplace]
      exact (hlists.mem_iff _ _).mp hmem
  · intro id
    simp only [List.not_mem_nil, false_iff, not_and]
    intro hid
    rw [hlive] at hid
    split at hid
    · simp at hid
    · rename_i hplace
      obtain ⟨data, hdata⟩ := Option.ne_none_iff_exists'.mp hid
      obtain ⟨entry, -, hslot⟩ := hplaced _ ((hlists.mem_iff id data).mpr hdata) hplace
      simp [hslot]
  · intro id data hdata
    rw [hlive] at hdata
    split at hdata
    · simp at hdata
    · exact hdata

/-- A listed record that is accounted for is the entry the index has for it. -/
theorem entry_of_accounted (hlists : Lists store records)
    (haccounted : Accounted index (live store) []) :
    ∀ record ∈ records, ∃ entry, Entry.decode record.2 = .ok entry ∧
      index.slots[record.1]? = some ⟨entry.owner, entry.block⟩ := by
  rintro ⟨id, data⟩ hmem
  have hlive := (hlists.mem_iff id data).mp hmem
  have hrecord : live store id ≠ none := by simp [hlive]
  obtain ⟨tracked, hslot⟩ := Option.ne_none_iff_exists'.mp (haccounted.slot_ne_none hrecord)
  obtain ⟨sidecar, data', hdata', hdecode⟩ := haccounted.stored id tracked hslot
  rw [hlive, Option.some.injEq] at hdata'
  subst hdata'
  exact ⟨_, hdecode, hslot⟩

/-- Listed records that are accounted for are entries of different owners. -/
theorem pairwise_owner_of_accounted (hlists : Lists store records)
    (haccounted : Accounted index (live store) []) :
    records.Pairwise fun a b => ∀ first second, Entry.decode a.2 = .ok first →
      Entry.decode b.2 = .ok second → first.owner ≠ second.owner := by
  have hnodup := hlists.nodup
  rw [List.Nodup, List.pairwise_map] at hnodup
  refine hnodup.imp_of_mem ?_
  intro a b ha hb hne first second hfirst hsecond howner
  obtain ⟨entry, hdecode, hslot⟩ := entry_of_accounted hlists haccounted a ha
  obtain ⟨entry', hdecode', hslot'⟩ := entry_of_accounted hlists haccounted b hb
  rw [hfirst, Except.ok.injEq] at hdecode
  rw [hsecond, Except.ok.injEq] at hdecode'
  subst hdecode hdecode'
  rw [howner] at hslot
  exact hne (haccounted.consistent.slot_unique hslot hslot').symm

/-- Replaying records that are accounted for rebuilds the index. -/
theorem state_indexRecords_of_accounted (hlists : Lists store records)
    (haccounted : Accounted index (live store) [])
    (hnil : (indexRecords {} records).value = []) : (indexRecords {} records).state = index := by
  obtain ⟨hconsistent, hplaced, hkept⟩ :=
    indexRecords_spec Index.consistent_empty hlists.nodup (by simp)
  refine haccounted.consistent.ext hconsistent (ExtTreeMap.ext_getElem? fun id => ?_)
  cases hlive : live store id with
  | none =>
    rw [haccounted.slot_eq_none hlive, hkept id]
    · simp
    · rintro ⟨id', data⟩ hmem rfl
      rw [(hlists.mem_iff _ _).mp hmem] at hlive
      simp at hlive
  | some data =>
    have hmem := (hlists.mem_iff id data).mpr hlive
    obtain ⟨entry, hdecode, hslot⟩ := entry_of_accounted hlists haccounted _ hmem
    obtain ⟨entry', hdecode', hslot'⟩ := hplaced _ hmem (by simp [hnil])
    rw [hdecode, Except.ok.injEq] at hdecode'
    subst hdecode'
    rw [hslot, hslot']

/-- An index that accounts for every live record is rebuilt, and nothing is dropped. -/
theorem recover_of_accounted (hlists : Lists store records)
    (haccounted : Accounted index (live store) []) :
    recover store records =
      { value := .ok (), state := { store, index },
        events := [.limbo (.indexed index.size 0)] } := by
  have hentries : ∀ record ∈ records, ∃ entry, Entry.decode record.2 = .ok entry ∧
      ({} : Index).slotOf entry.owner = none := by
    intro record hmem
    obtain ⟨entry, hdecode, -⟩ := entry_of_accounted hlists haccounted record hmem
    exact ⟨entry, hdecode, by simp [Index.slotOf]⟩
  obtain ⟨hnil, hevents⟩ := indexRecords_of_entries Index.consistent_empty hlists.nodup (by simp)
    hentries (pairwise_owner_of_accounted hlists haccounted)
  have hindex := state_indexRecords_of_accounted hlists haccounted hnil
  rw [recover_of_nil hnil, hevents, hindex]
  rfl

end Lawful

end BlobLimbo.Limbo
