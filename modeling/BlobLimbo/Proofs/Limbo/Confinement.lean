import BlobLimbo.Proofs.Limbo.Activity

/-!
# What a failing call damages

A call makes up to three calls of the store and changes the index between them, so a failure can
leave it half done. Over a store in memory the failures that are pending tell which of the calls
fails, and with it what is left: nothing has happened, or the transaction is forgotten with its
record still there, or it is forgotten and its record is gone. Whichever it is, every other
transaction stays in its slot, under its block, with its record (`Reachable.confined`).
-/

namespace BlobLimbo

open Std LawfulStore

/-- The failure a limbo passes on when an operation of its store was made to fail. -/
def StoreOperation.failure (operation : StoreOperation) : LimboError :=
  .store (.io (.injected operation.label))

namespace MemoryStore

variable {store : MemoryStore} {id : SlotId} {data : Bytes}

/-- A reading that is to fail. -/
theorem get_of_pending (hpending : store.pending.get ≠ 0) : SlotStore.get id store =
    { value := .error (.io (.injected "Get")), state := store.admitted .get } := by
  change MemoryStore.get id store = _
  rw [get_eq, if_pos (show store.pending.count .get ≠ 0 from hpending)]

/-- A reading of a record. -/
theorem get_of_record (hpending : store.pending.get = 0)
    (hrecord : store.records[id]? = some data) :
    SlotStore.get id store = { value := .ok data, state := store } := by
  change MemoryStore.get id store = _
  rw [get_eq, if_neg (not_not.mpr (show store.pending.count .get = 0 from hpending)), hrecord]

/-- A deletion that is to fail. -/
theorem delete_of_pending (hpending : store.pending.delete ≠ 0) : SlotStore.delete id store =
    { value := .error (.io (.injected "Delete")), state := store.admitted .delete } := by
  change MemoryStore.delete id store = _
  rw [delete_eq, if_pos (show store.pending.count .delete ≠ 0 from hpending)]

/-- A deletion of a record. -/
theorem delete_of_record (hpending : store.pending.delete = 0)
    (hrecord : store.records[id]? = some data) : SlotStore.delete id store =
      { value := .ok (), state := { store with records := store.records.erase id } } := by
  have hid : id ∈ store.records := by simp [ExtTreeMap.mem_iff_isSome_getElem?, hrecord]
  change MemoryStore.delete id store = _
  rw [delete_eq, if_neg (not_not.mpr (show store.pending.count .delete = 0 from hpending)),
    if_pos hid]

/-- A storing that is to fail. -/
theorem put_of_pending (hpending : store.pending.put ≠ 0) : SlotStore.put data store =
    { value := .error (.io (.injected "Put")), state := store.admitted .put } := by
  change MemoryStore.put data store = _
  rw [put_eq, if_pos (show store.pending.count .put ≠ 0 from hpending)]

/-- A storing of an entry. -/
theorem put_of_entry (hpending : store.pending.put = 0) (entry : Entry) :
    SlotStore.put entry.encode store =
      { value := .ok store.nextId, state := store.append entry.encode } := by
  change MemoryStore.put entry.encode store = _
  rw [put_eq, if_neg (not_not.mpr (show store.pending.count .put = 0 from hpending)), if_neg]
  rw [List.isEmpty_iff]
  exact entry.encode_ne_nil

end MemoryStore

namespace Index

/-- A transaction is forgotten together with its slot, and nothing else is. -/
structure Loses (before : Index) (tx : TxHash) (id : SlotId) (after : Index) : Prop where
  /-- The transaction has no slot, and the others have theirs. -/
  owners : after.owners = before.owners.erase tx
  /-- The slot is unknown, and the others are known as they were. -/
  slots : after.slots = before.slots.erase id
  /-- The slot is in no group, and the others are in the groups they were in. -/
  inGroup_iff : ∀ (block : UInt64) (id' : SlotId),
    InGroup after.groups block id' ↔ InGroup before.groups block id' ∧ id' ≠ id
  /-- The three maps agree, and no group is empty. -/
  consistent : after.Consistent

/-- Forgetting the slot of a transaction under its owner and block loses nothing else. -/
theorem Consistent.loses {index : Index} (h : index.Consistent) {tx : TxHash} {block : UInt64}
    {id : SlotId} (hslot : index.slots[id]? = some ⟨tx, block⟩) :
    index.Loses tx id (index.remove tx block id) where
  owners := by
    refine ExtTreeMap.ext_getElem? fun owner => Option.ext fun id' => ?_
    rw [h.grounded.owners_remove, Grounded.getElem?_erase_owner]
    refine ⟨fun ⟨howner, hne, _⟩ => ⟨howner, hne⟩, fun ⟨howner, hne⟩ => ⟨howner, hne, ?_⟩⟩
    rintro rfl
    exact hne (h.grounded.owner_eq hslot howner)
  slots := Grounded.slots_remove tx block id
  inGroup_iff _ _ := h.grounded.inGroup_remove tx block id
  consistent := (h.remove hslot).1

variable {before after : Index} {tx : TxHash} {id : SlotId}

/-- A transaction that is forgotten has no slot. -/
theorem Loses.slotOf_self (h : before.Loses tx id after) : after.slotOf tx = none := by
  simp [slotOf, h.owners]

/-- Every other transaction has the slot it had. -/
theorem Loses.slotOf_of_ne (h : before.Loses tx id after) {owner : TxHash} (howner : owner ≠ tx) :
    after.slotOf owner = before.slotOf owner := by
  simp [slotOf, h.owners, ExtTreeMap.getElem?_erase, howner.symm]

/-- Every other slot is known as it was. -/
theorem Loses.slot_of_ne (h : before.Loses tx id after) {id' : SlotId} (hid : id' ≠ id) :
    after.slot id' = before.slot id' := by
  simp [slot, h.slots, ExtTreeMap.getElem?_erase, hid.symm]

end Index

namespace Limbo

variable {limbo before after : Limbo MemoryStore} {tx : TxHash} {block : UInt64}
  {sidecar : Sidecar} {id : SlotId}

/-- Index and records are what they were. -/
structure Untouched (before after : Limbo MemoryStore) : Prop where
  /-- Nothing happened to the index. -/
  index : after.index = before.index
  /-- Nothing happened to the records. -/
  records : after.store.records = before.store.records

/-- Every transaction but one is tracked as it was and has the record it had. -/
structure SparesOthers (tx : TxHash) (before after : Limbo MemoryStore) : Prop where
  /-- It has the slot it had, if any. -/
  slotOf : ∀ owner : TxHash, owner ≠ tx → after.index.slotOf owner = before.index.slotOf owner
  /-- The slot is known under the block it was. -/
  slot : ∀ owner : TxHash, owner ≠ tx → ∀ id : SlotId, before.index.slotOf owner = some id →
    after.index.slot id = before.index.slot id
  /-- The record in the slot has the bytes it had. -/
  record : ∀ owner : TxHash, owner ≠ tx → ∀ id : SlotId, before.index.slotOf owner = some id →
    after.store.records[id]? = before.store.records[id]?

/-- Where nothing happened, all is spared. -/
theorem Untouched.spares (h : Untouched before after) (tx : TxHash) :
    SparesOthers tx before after where
  slotOf _ _ := by rw [h.index]
  slot _ _ _ _ := by rw [h.index]
  record _ _ _ _ := by rw [h.records]

/-- What is spared twice is spared. -/
theorem SparesOthers.trans {middle : Limbo MemoryStore} (h : SparesOthers tx before middle)
    (h' : SparesOthers tx middle after) : SparesOthers tx before after where
  slotOf owner hne := (h'.slotOf owner hne).trans (h.slotOf owner hne)
  slot owner hne id hslot :=
    (h'.slot owner hne id (by rw [h.slotOf owner hne, hslot])).trans (h.slot owner hne id hslot)
  record owner hne id hslot :=
    (h'.record owner hne id (by rw [h.slotOf owner hne, hslot])).trans
      (h.record owner hne id hslot)

/-- What is spared is told by the index and the records. -/
theorem SparesOthers.congr {left : Limbo MemoryStore} (h : SparesOthers tx before left)
    (hindex : after.index = left.index) (hstore : after.store = left.store) :
    SparesOthers tx before after where
  slotOf := by rw [hindex]; exact h.slotOf
  slot := by rw [hindex]; exact h.slot
  record := by rw [hstore]; exact h.record

/-- Other transactions have other slots. -/
theorem slotOf_ne (hconsistent : before.index.Consistent)
    (htracked : before.index.slotOf tx = some id) {owner : TxHash} (howner : owner ≠ tx)
    {id' : SlotId} (hslot : before.index.slotOf owner = some id') : id' ≠ id := by
  rintro rfl
  obtain ⟨block, hknown⟩ := (hconsistent.owner_iff tx id').mp htracked
  exact howner (hconsistent.grounded.owner_eq hknown hslot)

/-- When only one transaction is forgotten and at most its record is given up, the others are
spared. -/
theorem SparesOthers.of_loses (hconsistent : before.index.Consistent)
    (htracked : before.index.slotOf tx = some id) (hloses : before.index.Loses tx id after.index)
    (hrecords : ∀ id' : SlotId, id' ≠ id →
      after.store.records[id']? = before.store.records[id']?) : SparesOthers tx before after where
  slotOf _ hne := hloses.slotOf_of_ne hne
  slot _ hne _ hslot := hloses.slot_of_ne (slotOf_ne hconsistent htracked hne hslot)
  record _ hne id' hslot := hrecords id' (slotOf_ne hconsistent htracked hne hslot)

section Take

/-- How an action ends that has to take out the entry of a tracked transaction and fails to. -/
structure TakeFails {α : Type} (limbo : Limbo MemoryStore) (tx : TxHash) (id : SlotId)
    (outcome : Outcome (Limbo MemoryStore) (Except LimboError α)) : Prop where
  /-- When the entry cannot be read, nothing happens. -/
  unread : limbo.store.pending.get ≠ 0 →
    outcome.value = .error (StoreOperation.failure .get) ∧ Untouched limbo outcome.state
  /-- When the record cannot be deleted, the transaction is forgotten and the record stays. -/
  undeleted : limbo.store.pending.get = 0 → limbo.store.pending.delete ≠ 0 →
    outcome.value = .error (StoreOperation.failure .delete) ∧
      limbo.index.Loses tx id outcome.state.index ∧ id ∈ outcome.state.store.records ∧
      outcome.state.store.records = limbo.store.records

/-- An action that passes on the failure of another one fails as that does. -/
theorem TakeFails.congr {α β : Type} {outcome : Outcome (Limbo MemoryStore) (Except LimboError α)}
    {outcome' : Outcome (Limbo MemoryStore) (Except LimboError β)}
    (h : TakeFails limbo tx id outcome)
    (hpasses : ∀ error, outcome.value = .error error →
      effect outcome' = (.error error, outcome.state.store, outcome.state.index)) :
    TakeFails limbo tx id outcome' where
  unread hget := by
    obtain ⟨hvalue, hindex, hrecords⟩ := h.unread hget
    obtain ⟨hvalue', hstore', hindex'⟩ := effect_eq_iff.mp (hpasses _ hvalue)
    exact ⟨hvalue', hindex'.trans hindex, hstore' ▸ hrecords⟩
  undeleted hget hdelete := by
    obtain ⟨hvalue, hloses, hlive, hrecords⟩ := h.undeleted hget hdelete
    obtain ⟨hvalue', hstore', hindex'⟩ := effect_eq_iff.mp (hpasses _ hvalue)
    exact ⟨hvalue', hindex' ▸ hloses, hstore' ▸ hlive, hstore' ▸ hrecords⟩

/-- Such an action only succeeds when no call of the store is to fail. -/
theorem TakeFails.not_pending {α : Type}
    {outcome : Outcome (Limbo MemoryStore) (Except LimboError α)}
    (h : TakeFails limbo tx id outcome) {value : α} (hok : outcome.value = .ok value) :
    limbo.store.pending.get = 0 ∧ limbo.store.pending.delete = 0 := by
  have hget : limbo.store.pending.get = 0 := by
    by_contra hget
    simp [(h.unread hget).1] at hok
  refine ⟨hget, ?_⟩
  by_contra hdelete
  simp [(h.undeleted hget hdelete).1] at hok

/-- When it fails it passes on the failure of a call of the store, or none of these was to fail. -/
theorem TakeFails.error_cases {α : Type}
    {outcome : Outcome (Limbo MemoryStore) (Except LimboError α)}
    (h : TakeFails limbo tx id outcome) {error : LimboError}
    (herror : outcome.value = .error error) :
    error = StoreOperation.failure .get ∨ error = StoreOperation.failure .delete ∨
      limbo.store.pending.get = 0 ∧ limbo.store.pending.delete = 0 := by
  by_cases hget : limbo.store.pending.get = 0
  · by_cases hdelete : limbo.store.pending.delete = 0
    · exact Or.inr (Or.inr ⟨hget, hdelete⟩)
    · rw [(h.undeleted hget hdelete).1] at herror
      exact Or.inr (Or.inl (Except.error.inj herror).symm)
  · rw [(h.unread hget).1] at herror
    exact Or.inl (Except.error.inj herror).symm

variable {stranded : List SlotId}
  (haccounted : Accounted limbo.index (live limbo.store) stranded)
  (htracked : limbo.index.slotOf tx = some id)

include haccounted htracked

/-- Taking out the entry of a tracked transaction fails when a call of the store is to fail. -/
theorem takeFails_take : TakeFails limbo tx id (take id limbo) := by
  obtain ⟨block, sidecar, hslot, data, hrecord, hdecode⟩ := haccounted.slot_of_owner htracked
  rw [MemoryStore.live_eq] at hrecord
  constructor
  · intro hget
    have hread : SlotStore.get id limbo.store = _ := MemoryStore.get_of_pending hget
    obtain ⟨hvalue, hstore, hindex⟩ :=
      effect_eq_iff.mp (effect_take_of_unread (congrArg Outcome.value hread))
    refine ⟨hvalue, hindex, ?_⟩
    rw [hstore, hread, MemoryStore.records_admitted]
  · intro hget hdelete
    have hread := MemoryStore.get_of_record hget hrecord
    have htake := effect_take_of_decoded (congrArg Outcome.value hread) hdecode
    rw [hread, MemoryStore.delete_of_pending hdelete] at htake
    obtain ⟨hvalue, hstore, hindex⟩ := effect_eq_iff.mp htake
    rw [hstore, hindex, MemoryStore.records_admitted]
    refine ⟨hvalue, haccounted.consistent.loses hslot, ?_, rfl⟩
    simp [ExtTreeMap.mem_iff_isSome_getElem?, hrecord]

/-- Otherwise the entry is handed back, and transaction and record are gone. -/
theorem take_of_not_pending (hget : limbo.store.pending.get = 0)
    (hdelete : limbo.store.pending.delete = 0) :
    ∃ source sidecar, limbo.index.slots[id]? = some ⟨tx, source⟩ ∧
      EntryAt (live limbo.store) id ⟨tx, source, sidecar⟩ ∧
      (take id limbo).value = .ok ⟨tx, source, sidecar⟩ ∧
      limbo.index.Loses tx id (take id limbo).state.index ∧
      (take id limbo).state.store =
        { limbo.store with records := limbo.store.records.erase id } := by
  obtain ⟨source, sidecar, hslot, data, hrecord, hdecode⟩ := haccounted.slot_of_owner htracked
  have hread := MemoryStore.get_of_record hget hrecord
  have htake := effect_take_of_decoded (congrArg Outcome.value hread) hdecode
  rw [hread, MemoryStore.delete_of_record hdelete hrecord] at htake
  obtain ⟨hvalue, hstore, hindex⟩ := effect_eq_iff.mp htake
  refine ⟨source, sidecar, hslot, ⟨data, hrecord, hdecode⟩, hvalue, ?_, hstore⟩
  rw [hindex]
  exact haccounted.consistent.loses hslot

/-- Whether or not taking out the entry of a transaction fails, the others are spared. -/
theorem spares_take : SparesOthers tx limbo (take id limbo).state := by
  by_cases hget : limbo.store.pending.get = 0
  · by_cases hdelete : limbo.store.pending.delete = 0
    · obtain ⟨-, -, -, -, -, hloses, hstore⟩ :=
        take_of_not_pending haccounted htracked hget hdelete
      refine .of_loses haccounted.consistent htracked hloses fun id' hid => ?_
      simp [hstore, ExtTreeMap.getElem?_erase, hid.symm]
    · obtain ⟨-, hloses, -, hrecords⟩ :=
        (takeFails_take haccounted htracked).undeleted hget hdelete
      exact .of_loses haccounted.consistent htracked hloses fun id' _ => by rw [hrecords]
  · exact ((takeFails_take haccounted htracked).unread hget).2.spares tx

end Take

section Insert

/-- An entry that is to be stored when storing is to fail leaves nothing behind. -/
theorem effect_insert_of_pending (hput : limbo.store.pending.put ≠ 0) (entry : Entry) :
    effect (insert entry limbo) =
      (.error (StoreOperation.failure .put), limbo.store.admitted .put, limbo.index) := by
  have hstore : SlotStore.put entry.encode limbo.store = _ := MemoryStore.put_of_pending hput
  rw [effect_insert_of_refused (congrArg Outcome.value hstore), hstore]
  rfl

/-- Otherwise the entry of a transaction without a slot gets the next one. -/
theorem insert_of_not_pending (hput : limbo.store.pending.put = 0)
    (hconsistent : limbo.index.Consistent) (howner : limbo.index.slotOf tx = none)
    (hfresh : limbo.index.slots[limbo.store.nextId]? = none) (block : UInt64)
    (sidecar : Sidecar) :
    ∃ next : Index, effect (insert ⟨tx, block, sidecar⟩ limbo) =
        (.ok (), limbo.store.append (Entry.encode ⟨tx, block, sidecar⟩), next) ∧
      next.owners = limbo.index.owners.insert tx limbo.store.nextId ∧
      next.slots = limbo.index.slots.insert limbo.store.nextId ⟨tx, block⟩ := by
  obtain ⟨next, hnext, -, howners, hslots⟩ :=
    hconsistent.grounded.insert?_eq block howner hfresh
  have hstore := MemoryStore.put_of_entry hput ⟨tx, block, sidecar⟩
  refine ⟨next, ?_, howners, hslots⟩
  rw [effect_insert_of_stored (congrArg Outcome.value hstore) hnext, hstore]

/-- Storing the entry of a transaction without a slot spares all others. -/
theorem spares_insert (hconsistent : limbo.index.Consistent)
    (howner : limbo.index.slotOf tx = none)
    (hfresh : limbo.index.slots[limbo.store.nextId]? = none) (block : UInt64)
    (sidecar : Sidecar) :
    SparesOthers tx limbo (insert ⟨tx, block, sidecar⟩ limbo).state := by
  by_cases hput : limbo.store.pending.put = 0
  · obtain ⟨next, heffect, howners, hslots⟩ :=
      insert_of_not_pending hput hconsistent howner hfresh block sidecar
    obtain ⟨-, hstore, rfl⟩ := effect_eq_iff.mp heffect
    have hother : ∀ {owner : TxHash} {id : SlotId}, limbo.index.slotOf owner = some id →
        limbo.store.nextId ≠ id := by
      rintro owner id hslot rfl
      obtain ⟨block', hknown⟩ := (hconsistent.owner_iff owner _).mp hslot
      simp [hfresh] at hknown
    constructor
    · intro owner hne
      simp [Index.slotOf, howners, ExtTreeMap.getElem?_insert, hne.symm]
    · intro owner hne id hslot
      simp [Index.slot, hslots, ExtTreeMap.getElem?_insert, hother hslot]
    · intro owner hne id hslot
      simp [hstore, MemoryStore.append, ExtTreeMap.getElem?_insert, hother hslot]
  · obtain ⟨-, hstore, hindex⟩ :=
      effect_eq_iff.mp (effect_insert_of_pending hput ⟨tx, block, sidecar⟩)
    refine Untouched.spares ⟨hindex, ?_⟩ tx
    rw [hstore, MemoryStore.records_admitted]

end Insert

/-- How pushing a transaction ends. -/
structure PushEnds (limbo : Limbo MemoryStore) (tx : TxHash) (block : UInt64)
    (sidecar : Sidecar) : Prop where
  /-- A tracked transaction is refused. -/
  tracked : limbo.contains tx = true →
    (push tx block sidecar limbo).value = .error (.alreadyTracked tx)
  /-- Storing its entry fails when it is to fail. -/
  unstored : limbo.contains tx = false → limbo.store.pending.put ≠ 0 →
    (push tx block sidecar limbo).value = .error (StoreOperation.failure .put)
  /-- Otherwise it is tracked in the next slot, with the record of its entry. -/
  stored : limbo.contains tx = false → limbo.store.pending.put = 0 →
    (push tx block sidecar limbo).value = .ok () ∧
      (push tx block sidecar limbo).state.index.slotOf tx = some limbo.store.nextId ∧
      (push tx block sidecar limbo).state.index.slot limbo.store.nextId = some ⟨tx, block⟩ ∧
      (push tx block sidecar limbo).state.store.records =
        limbo.store.records.insert limbo.store.nextId (Entry.encode ⟨tx, block, sidecar⟩)
  /-- There is no other way to fail, and a push that fails leaves everything as it was. -/
  failed : ∀ error, (push tx block sidecar limbo).value = .error error →
    (limbo.contains tx = true ∧ error = .alreadyTracked tx ∨
      error = StoreOperation.failure .put) ∧
      Untouched limbo (push tx block sidecar limbo).state
  /-- In any case the other transactions stay as they were. -/
  spares : SparesOthers tx limbo (push tx block sidecar limbo).state

/-- How pulling a transaction ends. -/
structure PullEnds (limbo : Limbo MemoryStore) (tx : TxHash) : Prop where
  /-- A transaction that is not tracked is refused. -/
  untracked : limbo.index.slotOf tx = none →
    (pull tx limbo).value = .error (.notTracked tx) ∧ Untouched limbo (pull tx limbo).state
  /-- The entry of a tracked one cannot be taken out when a call of the store is to fail. -/
  untaken : ∀ id : SlotId, limbo.index.slotOf tx = some id → TakeFails limbo tx id (pull tx limbo)
  /-- Otherwise its sidecar is handed back, and both it and its record are gone. -/
  taken : ∀ id : SlotId, limbo.index.slotOf tx = some id → limbo.store.pending.get = 0 →
    limbo.store.pending.delete = 0 →
      (∃ source sidecar, EntryAt (live limbo.store) id ⟨tx, source, sidecar⟩ ∧
        (pull tx limbo).value = .ok sidecar) ∧
      limbo.index.Loses tx id (pull tx limbo).state.index ∧
      (pull tx limbo).state.store.records = limbo.store.records.erase id
  /-- There is no other way to fail. -/
  failed : ∀ error, (pull tx limbo).value = .error error →
    limbo.index.slotOf tx = none ∧ error = .notTracked tx ∨
      error = StoreOperation.failure .get ∨ error = StoreOperation.failure .delete
  /-- In any case the other transactions stay as they were. -/
  spares : SparesOthers tx limbo (pull tx limbo).state

/-- How moving a transaction out of its slot ends. -/
structure Moves (limbo : Limbo MemoryStore) (tx : TxHash) (block : UInt64) (id : SlotId) :
    Prop where
  /-- Its entry cannot be taken out when a call of the store is to fail. -/
  untaken : TakeFails limbo tx id (update tx block limbo)
  /-- When the entry cannot be stored again, both transaction and record are gone. -/
  unstored : limbo.store.pending.get = 0 → limbo.store.pending.delete = 0 →
    limbo.store.pending.put ≠ 0 →
      (update tx block limbo).value = .error (StoreOperation.failure .put) ∧
        limbo.index.Loses tx id (update tx block limbo).state.index ∧
        (update tx block limbo).state.store.records = limbo.store.records.erase id
  /-- Otherwise the transaction is tracked in the next slot, with its sidecar and the new block. -/
  moved : limbo.store.pending.get = 0 → limbo.store.pending.delete = 0 →
    limbo.store.pending.put = 0 →
      ∃ source sidecar, EntryAt (live limbo.store) id ⟨tx, source, sidecar⟩ ∧
        (update tx block limbo).value = .ok (.moved source block) ∧
        (update tx block limbo).state.index.slotOf tx = some limbo.store.nextId ∧
        (update tx block limbo).state.index.slot limbo.store.nextId = some ⟨tx, block⟩ ∧
        (update tx block limbo).state.store.records =
          (limbo.store.records.erase id).insert limbo.store.nextId
            (Entry.encode ⟨tx, block, sidecar⟩)

/-- How moving a transaction to a block ends. -/
structure UpdateEnds (limbo : Limbo MemoryStore) (tx : TxHash) (block : UInt64) : Prop where
  /-- Nothing happens to a transaction that is not tracked. -/
  untracked : limbo.index.slotOf tx = none →
    (update tx block limbo).value = .ok .untracked ∧ Untouched limbo (update tx block limbo).state
  /-- Nothing happens to one that is in the block already. -/
  unchanged : ∀ id : SlotId, limbo.index.slotOf tx = some id →
    (limbo.index.slot id).map Tracked.block = some block →
      (update tx block limbo).value = .ok .unchanged ∧
        Untouched limbo (update tx block limbo).state
  /-- Any other is moved out of its slot. -/
  moving : ∀ id : SlotId, limbo.index.slotOf tx = some id →
    (limbo.index.slot id).map Tracked.block ≠ some block → Moves limbo tx block id
  /-- Whenever it fails, a call of the store was to fail. -/
  failed : ∀ error, (update tx block limbo).value = .error error →
    ∃ operation, error = StoreOperation.failure operation
  /-- In any case the other transactions stay as they were. -/
  spares : SparesOthers tx limbo (update tx block limbo).state

section Pull

variable {stranded : List SlotId} (haccounted : Accounted limbo.index (live limbo.store) stranded)

include haccounted

/-- Pulling a transaction. -/
theorem pullEnds (tx : TxHash) : PullEnds limbo tx := by
  cases howner : limbo.index.slotOf tx with
  | none =>
    obtain ⟨hvalue, hstore, hindex⟩ := effect_eq_iff.mp (effect_pull_of_untracked howner)
    have huntouched : Untouched limbo (pull tx limbo).state := ⟨hindex, by rw [hstore]⟩
    refine ⟨fun _ => ⟨hvalue, huntouched⟩, ?_, ?_, ?_, huntouched.spares tx⟩
    · simp [howner]
    · simp [howner]
    · intro error herror
      rw [hvalue] at herror
      exact Or.inl ⟨howner, (Except.error.inj herror).symm⟩
  | some id =>
    obtain ⟨hvalue, hstore, hindex⟩ := effect_eq_iff.mp (effect_pull_of_tracked howner)
    have hfails : TakeFails limbo tx id (pull tx limbo) := by
      refine (takeFails_take haccounted howner).congr fun error herror => ?_
      rw [effect_pull_of_tracked howner, herror]
      rfl
    have htaken := take_of_not_pending haccounted howner
    constructor
    case untracked => simp [howner]
    case untaken =>
      intro id' hid
      obtain rfl : id = id' := Option.some.inj (howner.symm.trans hid)
      exact hfails
    case taken =>
      intro id' hid hget hdelete
      obtain rfl : id = id' := Option.some.inj (howner.symm.trans hid)
      obtain ⟨source, sidecar, -, hentry, htake, hloses, hleft⟩ := htaken hget hdelete
      rw [hvalue, hstore, hindex, htake, hleft]
      exact ⟨⟨source, sidecar, hentry, rfl⟩, hloses, rfl⟩
    case failed =>
      intro error herror
      rcases hfails.error_cases herror with hfailed | hfailed | ⟨hget, hdelete⟩
      · exact Or.inr (Or.inl hfailed)
      · exact Or.inr (Or.inr hfailed)
      · obtain ⟨source, sidecar, -, -, htake, -⟩ := htaken hget hdelete
        rw [hvalue, htake] at herror
        cases herror
    case spares => exact (spares_take haccounted howner).congr hindex hstore

end Pull

section Push

variable {stranded : List SlotId} (hsound : Sound limbo.store)
  (haccounted : Accounted limbo.index (live limbo.store) stranded)

include hsound haccounted

/-- The next slot is unknown. -/
theorem slot_nextId : limbo.index.slots[limbo.store.nextId]? = none :=
  haccounted.slot_eq_none (MemoryStore.IdsBelowNext.fresh hsound)

/-- Pushing a transaction. -/
theorem pushEnds (tx : TxHash) (block : UInt64) (sidecar : Sidecar) :
    PushEnds limbo tx block sidecar := by
  cases hcontains : limbo.contains tx with
  | true =>
    obtain ⟨hvalue, hstore, hindex⟩ :=
      effect_eq_iff.mp (effect_push_of_tracked block sidecar hcontains)
    have huntouched : Untouched limbo (push tx block sidecar limbo).state :=
      ⟨hindex, by rw [hstore]⟩
    refine ⟨fun _ => hvalue, by simp [hcontains], by simp [hcontains], fun error herror => ?_,
      huntouched.spares tx⟩
    rw [hvalue] at herror
    exact ⟨Or.inl ⟨hcontains, (Except.error.inj herror).symm⟩, huntouched⟩
  | false =>
    have howner := slotOf_of_not_contains hcontains
    have hfresh := slot_nextId hsound haccounted
    have hpush := effect_push_of_untracked block sidecar hcontains
    have hspares : SparesOthers tx limbo (push tx block sidecar limbo).state := by
      obtain ⟨-, hstore, hindex⟩ := effect_eq_iff.mp hpush
      exact (spares_insert haccounted.consistent howner hfresh block sidecar).congr hindex hstore
    by_cases hput : limbo.store.pending.put = 0
    · obtain ⟨next, hinsert, howners, hslots⟩ :=
        insert_of_not_pending hput haccounted.consistent howner hfresh block sidecar
      obtain ⟨hvalue, hstore, hindex⟩ := effect_eq_iff.mp (hpush.trans hinsert)
      refine ⟨by simp [hcontains], fun _ hpending => absurd hput hpending,
        fun _ _ => ⟨hvalue, ?_, ?_, by rw [hstore]; rfl⟩, ?_, hspares⟩
      · simp [hindex, Index.slotOf, howners]
      · simp [hindex, Index.slot, hslots]
      · intro error herror
        rw [hvalue] at herror
        cases herror
    · obtain ⟨hvalue, hstore, hindex⟩ :=
        effect_eq_iff.mp (hpush.trans (effect_insert_of_pending hput ⟨tx, block, sidecar⟩))
      refine ⟨by simp [hcontains], fun _ _ => hvalue, fun _ hpending => absurd hpending hput,
        fun error herror => ⟨Or.inr ?_, hindex, ?_⟩, hspares⟩
      · rw [hvalue] at herror
        exact (Except.error.inj herror).symm
      · rw [hstore, MemoryStore.records_admitted]

end Push

section Update

variable {stranded : List SlotId} (hsound : Sound limbo.store)
  (haccounted : Accounted limbo.index (live limbo.store) stranded)
  (htracked : limbo.index.slotOf tx = some id)

include hsound haccounted htracked

/-- Where the entry of a transaction was taken out, it can be registered anew in the next slot. -/
theorem slot_nextId_take (hget : limbo.store.pending.get = 0)
    (hdelete : limbo.store.pending.delete = 0) :
    (take id limbo).state.index.Consistent ∧ (take id limbo).state.index.slotOf tx = none ∧
      (take id limbo).state.index.slots[(take id limbo).state.store.nextId]? = none := by
  obtain ⟨-, -, -, -, -, hloses, hleft⟩ := take_of_not_pending haccounted htracked hget hdelete
  refine ⟨hloses.consistent, hloses.slotOf_self, ?_⟩
  rw [hloses.slots, hleft, ExtTreeMap.getElem?_erase, slot_nextId hsound haccounted, ite_self]

section Moving

variable (hblock : (limbo.index.slot id).map Tracked.block ≠ some block)

include hblock

/-- Moving a transaction that is in another block. -/
theorem moves : Moves limbo tx block id where
  untaken := (takeFails_take haccounted htracked).congr fun _ herror =>
    effect_update_of_untaken htracked hblock herror
  unstored hget hdelete hput := by
    obtain ⟨source, sidecar, -, -, htake, hloses, hleft⟩ :=
      take_of_not_pending haccounted htracked hget hdelete
    have hupdate := effect_update_of_taken htracked hblock htake
    have hunstored : (take id limbo).state.store.pending.put ≠ 0 := by rwa [hleft]
    obtain ⟨hvalue, hstore, hindex⟩ :=
      effect_eq_iff.mp (effect_insert_of_pending hunstored ⟨tx, block, sidecar⟩)
    rw [hvalue, hstore, hindex] at hupdate
    obtain ⟨hvalue', hstore', hindex'⟩ := effect_eq_iff.mp hupdate
    refine ⟨hvalue', hindex' ▸ hloses, ?_⟩
    rw [hstore', MemoryStore.records_admitted, hleft]
  moved hget hdelete hput := by
    obtain ⟨source, sidecar, -, hentry, htake, hloses, hleft⟩ :=
      take_of_not_pending haccounted htracked hget hdelete
    obtain ⟨hconsistent, howner, hfresh⟩ :=
      slot_nextId_take hsound haccounted htracked hget hdelete
    have hupdate := effect_update_of_taken htracked hblock htake
    obtain ⟨next, hinsert, howners, hslots⟩ := insert_of_not_pending
      (by rw [hleft]; exact hput) hconsistent howner hfresh block sidecar
    obtain ⟨hvalue, hstore, hindex⟩ := effect_eq_iff.mp hinsert
    rw [hvalue, hstore, hindex] at hupdate
    obtain ⟨hvalue', hstore', rfl⟩ := effect_eq_iff.mp hupdate
    rw [hleft] at howners hslots hstore'
    refine ⟨source, sidecar, hentry, hvalue', ?_, ?_, by rw [hstore']; rfl⟩
    · simp [Index.slotOf, howners]
    · simp [Index.slot, hslots]

/-- It spares all others. -/
theorem spares_update : SparesOthers tx limbo (update tx block limbo).state := by
  have hspares := spares_take haccounted htracked
  cases htake : (take id limbo).value with
  | error cause =>
    obtain ⟨-, hstore, hindex⟩ :=
      effect_eq_iff.mp (effect_update_of_untaken htracked hblock htake)
    exact hspares.congr hindex hstore
  | ok entry =>
    obtain ⟨-, hstore, hindex⟩ := effect_eq_iff.mp (effect_update_of_taken htracked hblock htake)
    obtain ⟨hget, hdelete⟩ := (takeFails_take haccounted htracked).not_pending htake
    obtain ⟨hconsistent, howner, hfresh⟩ :=
      slot_nextId_take hsound haccounted htracked hget hdelete
    exact (hspares.trans (spares_insert hconsistent howner hfresh block entry.sidecar)).congr
      hindex hstore

end Moving

omit hsound haccounted htracked

/-- Moving a transaction only fails when a call of the store was to fail. -/
theorem Moves.failed (h : Moves limbo tx block id) {error : LimboError}
    (herror : (update tx block limbo).value = .error error) :
    ∃ operation, error = StoreOperation.failure operation := by
  rcases h.untaken.error_cases herror with hfailed | hfailed | ⟨hget, hdelete⟩
  · exact ⟨.get, hfailed⟩
  · exact ⟨.delete, hfailed⟩
  · by_cases hput : limbo.store.pending.put = 0
    · obtain ⟨source, sidecar, -, hvalue, -⟩ := h.moved hget hdelete hput
      rw [hvalue] at herror
      cases herror
    · rw [(h.unstored hget hdelete hput).1] at herror
      exact ⟨.put, (Except.error.inj herror).symm⟩

include hsound haccounted

/-- Moving a transaction to a block. -/
theorem updateEnds (tx : TxHash) (block : UInt64) : UpdateEnds limbo tx block := by
  cases howner : limbo.index.slotOf tx with
  | none =>
    obtain ⟨hvalue, hstore, hindex⟩ := effect_eq_iff.mp (effect_update_of_untracked block howner)
    have huntouched : Untouched limbo (update tx block limbo).state := ⟨hindex, by rw [hstore]⟩
    exact ⟨fun _ => ⟨hvalue, huntouched⟩, by simp [howner], by simp [howner], by simp [hvalue],
      huntouched.spares tx⟩
  | some id =>
    have hsame : ∀ {id' : SlotId}, limbo.index.slotOf tx = some id' → id' = id :=
      fun hid => Option.some.inj (hid.symm.trans howner)
    by_cases hblock : (limbo.index.slot id).map Tracked.block = some block
    · obtain ⟨hvalue, hstore, hindex⟩ :=
        effect_eq_iff.mp (effect_update_of_unchanged howner hblock)
      have huntouched : Untouched limbo (update tx block limbo).state := ⟨hindex, by rw [hstore]⟩
      exact ⟨by simp [howner], fun _ _ _ => ⟨hvalue, huntouched⟩,
        fun id' hid hother => absurd (hsame hid ▸ hblock) hother, by simp [hvalue],
        huntouched.spares tx⟩
    · have hmoves := moves hsound haccounted howner hblock
      exact ⟨by simp [howner], fun id' hid hsource => absurd (hsame hid ▸ hsource) hblock,
        fun id' hid _ => hsame hid ▸ hmoves, fun error => hmoves.failed,
        spares_update hsound haccounted howner hblock⟩

end Update

/-- **A failing call damages its own transaction at most.** Take any limbo over a store in memory
that was recovered from the replay of the store, whatever happened to it since and whichever calls
of its store are to fail. A push that fails leaves index and records as they are. A pull or update
that fails leaves them as they are, if the record could not be read; it forgets the transaction and
leaves its record, if that could not be deleted; an update that could not store the entry again has
forgotten the transaction and lost its record. Nothing else is lost, nothing else goes wrong, and
whether or not the call fails every other transaction keeps its slot, its block and its record. -/
theorem Reachable.confined (limbo : Limbo MemoryStore) (h : limbo.Reachable) (tx : TxHash) :
    (∀ (block : UInt64) (sidecar : Sidecar), PushEnds limbo tx block sidecar) ∧
      PullEnds limbo tx ∧ ∀ block : UInt64, UpdateEnds limbo tx block := by
  obtain ⟨hsound, stranded, haccounted⟩ := h.accounted
  exact ⟨pushEnds hsound haccounted tx, pullEnds haccounted tx, updateEnds hsound haccounted tx⟩

/-- Two transactions are tracked, and a storing is to fail: moving the second loses it and its
record. The first is what it was. -/
theorem confined_lost_update :
    let tx (n : UInt8) : TxHash := .replicate 32 n
    let limbo := ((recover MemoryStore.empty MemoryStore.empty.replay).state.acts
      [.meet (.call (.push (tx 1) 7 ⟨[], [], []⟩)), .meet (.call (.push (tx 2) 9 ⟨[], [], []⟩)),
        .meet (.failNext .put 1)]).state
    let after := (update (tx 2) 8 limbo).state
    limbo.Reachable ∧ UpdateEnds limbo (tx 2) 8 ∧
      (update (tx 2) 8 limbo).value = .error (StoreOperation.failure .put) ∧
      after.contains (tx 2) = false ∧ after.store.records.keys = [0] ∧
      after.trackedBlock (tx 1) = some 7 := by
  intro tx limbo after
  have hempty : (⟨[], [], []⟩ : Sidecar).OfAtMost 0 := ⟨Nat.le_refl 0, rfl, rfl⟩
  have hlengths : ∀ (id : SlotId) (data : Bytes), MemoryStore.empty.records[id]? = some data →
      data.length < 2 ^ 63 := by simp [MemoryStore.empty]
  have hrecovered := Reachable.recovered (MemoryStore.idsBelowNext_ofRecords []) hlengths rfl
  have hreachable : limbo.Reachable := by
    refine hrecovered.acts ?_
    simp [Activity.Fits, Incident.Fits, Call.Fits, hempty.encodable (Nat.zero_le _)]
  exact ⟨hreachable, (Reachable.confined limbo hreachable (tx 2)).2.2 8, by decide +kernel,
    by decide +kernel, by decide +kernel, by decide +kernel⟩

end Limbo

end BlobLimbo
