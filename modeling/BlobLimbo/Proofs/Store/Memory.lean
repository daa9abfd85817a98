import BlobLimbo.Proofs.Store.Lawful
import BlobLimbo.Store.Memory

/-!
# Stores in memory are lawful

Whatever failures are pending, an operation of a store in memory either does what it says or
changes no record. Without pending failures every operation on a live record succeeds.
-/

namespace BlobLimbo.MemoryStore

open Std

/-- Every id was handed out before. -/
def IdsBelowNext (store : MemoryStore) : Prop :=
  ∀ id ∈ store.records, id < store.nextId

/-- The store after a failure was used up, if one is pending. -/
def admitted (operation : StoreOperation) (store : MemoryStore) : MemoryStore :=
  ((admission operation) store).state

@[simp] theorem records_admitted (operation : StoreOperation) (store : MemoryStore) :
    (store.admitted operation).records = store.records := by
  unfold admitted admission
  dsimp only
  split <;> rfl

@[simp] theorem nextId_admitted (operation : StoreOperation) (store : MemoryStore) :
    (store.admitted operation).nextId = store.nextId := by
  unfold admitted admission
  dsimp only
  split <;> rfl

/-- Without pending failures an operation is let through. -/
theorem admission_of_eq_zero {operation : StoreOperation} {store : MemoryStore}
    (hpending : store.pending.count operation = 0) :
    admission operation store = { value := .ok (), state := store } := by
  simp [admission, hpending]

/-- A pending failure is used up. -/
theorem admission_of_ne_zero {operation : StoreOperation} {store : MemoryStore}
    (hpending : store.pending.count operation ≠ 0) :
    admission operation store =
      { value := .error (.io (.injected operation.label)), state := store.admitted operation } := by
  simp [admitted, admission, hpending]

/-- A failure that is used up is not pending any more. -/
theorem toNat_pending_admitted {store : MemoryStore} (hpending : store.pending.count .delete ≠ 0) :
    (store.admitted .delete).pending.delete.toNat + 1 = store.pending.delete.toNat := by
  have hcount : store.pending.delete ≠ 0 := hpending
  have hused : (store.admitted .delete).pending.delete = store.pending.delete - 1 := by
    simp [admitted, admission, PendingFailures.count, PendingFailures.withCount, hcount]
  have hpos : (1 : UInt64) ≤ store.pending.delete := by
    rw [UInt64.le_iff_toNat_le]
    exact Nat.pos_of_ne_zero fun hzero => hcount (UInt64.toNat_inj.mp hzero)
  rw [hused, UInt64.toNat_sub_of_le _ _ hpos]
  exact Nat.sub_add_cancel (UInt64.le_iff_toNat_le.mp hpos)

/-- What keeping a record does. -/
theorem put_eq (data : Bytes) (store : MemoryStore) :
    MemoryStore.put data store =
      if store.pending.count .put ≠ 0 then
        { value := .error (.io (.injected "Put")), state := store.admitted .put }
      else if data.isEmpty then { value := .error .emptyRecord, state := store }
      else { value := .ok store.nextId, state := store.append data } := by
  unfold MemoryStore.put
  by_cases hpending : store.pending.count .put = 0
  · have hadmitted := admission_of_eq_zero hpending
    rw [Action.bind_of_ok (by rw [hadmitted]), hadmitted, if_neg (not_not.mpr hpending)]
    split <;> rfl
  · have hrefused := admission_of_ne_zero hpending
    rw [Action.bind_of_error (by rw [hrefused]), hrefused, if_pos hpending]
    rfl

/-- What reading a record does. -/
theorem get_eq (id : SlotId) (store : MemoryStore) :
    MemoryStore.get id store =
      if store.pending.count .get ≠ 0 then
        { value := .error (.io (.injected "Get")), state := store.admitted .get }
      else
        match store.records[id]? with
        | none => { value := .error (.emptySlot id), state := store }
        | some data => { value := .ok data, state := store } := by
  unfold MemoryStore.get
  by_cases hpending : store.pending.count .get = 0
  · have hadmitted := admission_of_eq_zero hpending
    rw [Action.bind_of_ok (by rw [hadmitted]), hadmitted, if_neg (not_not.mpr hpending)]
    rw [Action.bind_of_ok rfl]
    cases hrecord : store.records[id]? with
    | none => simp [Action.current, Outcome.after, Action.fail]
    | some data => simp [Action.current, Outcome.after]
  · have hrefused := admission_of_ne_zero hpending
    rw [Action.bind_of_error (by rw [hrefused]), hrefused, if_pos hpending]
    rfl

/-- What giving up a record does. -/
theorem delete_eq (id : SlotId) (store : MemoryStore) :
    MemoryStore.delete id store =
      if store.pending.count .delete ≠ 0 then
        { value := .error (.io (.injected "Delete")), state := store.admitted .delete }
      else if id ∈ store.records then
        { value := .ok (), state := { store with records := store.records.erase id } }
      else { value := .error (.emptySlot id), state := store } := by
  unfold MemoryStore.delete
  by_cases hpending : store.pending.count .delete = 0
  · have hadmitted := admission_of_eq_zero hpending
    rw [Action.bind_of_ok (by rw [hadmitted]), hadmitted, if_neg (not_not.mpr hpending)]
    rw [Action.bind_of_ok rfl]
    by_cases hid : id ∈ store.records
    · simp [Action.current, hid, Outcome.after, Action.modify]
    · simp [Action.current, hid, Outcome.after, Action.fail]
  · have hrefused := admission_of_ne_zero hpending
    rw [Action.bind_of_error (by rw [hrefused]), hrefused, if_pos hpending]
    rfl

/-- A record is not kept, and then no record changes, or it is kept under the next id. -/
theorem put_cases (data : Bytes) (store : MemoryStore) :
    (∃ error left, MemoryStore.put data store = { value := .error error, state := left } ∧
      left.records = store.records ∧ left.nextId = store.nextId) ∨
      MemoryStore.put data store = { value := .ok store.nextId, state := store.append data } := by
  rw [put_eq]
  split
  · exact Or.inl ⟨_, _, rfl, records_admitted .put store, nextId_admitted .put store⟩
  · split
    · exact Or.inl ⟨_, _, rfl, rfl, rfl⟩
    · exact Or.inr rfl

/-- A record is not read, and then no record changes, or it is the record under the id. -/
theorem get_cases (id : SlotId) (store : MemoryStore) :
    (∃ error left, MemoryStore.get id store = { value := .error error, state := left } ∧
      left.records = store.records ∧ left.nextId = store.nextId) ∨
      ∃ data, store.records[id]? = some data ∧
        MemoryStore.get id store = { value := .ok data, state := store } := by
  rw [get_eq]
  split
  · exact Or.inl ⟨_, _, rfl, records_admitted .get store, nextId_admitted .get store⟩
  · cases hrecord : store.records[id]? with
    | none => exact Or.inl ⟨_, _, rfl, rfl, rfl⟩
    | some data => exact Or.inr ⟨data, rfl, rfl⟩

/-- A record is not given up, and then no record changes, or it is gone. -/
theorem delete_cases (id : SlotId) (store : MemoryStore) :
    (∃ error left, MemoryStore.delete id store = { value := .error error, state := left } ∧
      left.records = store.records ∧ left.nextId = store.nextId) ∨
      id ∈ store.records ∧
        MemoryStore.delete id store =
          { value := .ok (), state := { store with records := store.records.erase id } } := by
  rw [delete_eq]
  split
  · exact Or.inl ⟨_, _, rfl, records_admitted .delete store, nextId_admitted .delete store⟩
  · by_cases hid : id ∈ store.records
    · rw [if_pos hid]
      exact Or.inr ⟨hid, rfl⟩
    · rw [if_neg hid]
      exact Or.inl ⟨_, _, rfl, rfl, rfl⟩

/-- An id above every record is not in use. -/
theorem IdsBelowNext.fresh {store : MemoryStore} (h : store.IdsBelowNext) :
    store.records[store.nextId]? = none := by
  apply ExtTreeMap.getElem?_eq_none
  intro hmem
  exact Nat.lt_irrefl _ (h _ hmem)

/-- Using up a failure changes no id. -/
theorem IdsBelowNext.congr {store left : MemoryStore} (h : store.IdsBelowNext)
    (hrecords : left.records = store.records) (hnext : left.nextId = store.nextId) :
    left.IdsBelowNext := by
  intro id hid
  rw [hrecords] at hid
  rw [hnext]
  exact h id hid

/-- A new record goes above all others. -/
theorem idsBelowNext_append {store : MemoryStore} (h : store.IdsBelowNext) (data : Bytes) :
    (store.append data).IdsBelowNext := by
  intro id hid
  simp only [append, ExtTreeMap.mem_insert, LawfulEqCmp.compare_eq_iff_eq] at hid ⊢
  rcases hid with rfl | hid
  · exact Nat.lt_succ_self _
  · exact Nat.lt_succ_of_lt (h id hid)

/-- Giving up a record changes no other. -/
theorem idsBelowNext_erase {store : MemoryStore} (h : store.IdsBelowNext) (id : SlotId) :
    { store with records := store.records.erase id : MemoryStore }.IdsBelowNext :=
  fun id' hid' => h id' (ExtTreeMap.mem_of_mem_erase hid')

/-- A store filled with records hands out fresh ids. -/
theorem idsBelowNext_ofRecords (records : List Bytes) : (ofRecords records).IdsBelowNext := by
  suffices h : ∀ store : MemoryStore, store.IdsBelowNext →
      (records.foldl append store).IdsBelowNext from
    h empty (fun id hid => by simp [empty] at hid)
  induction records with
  | nil => exact fun store h => h
  | cons data records ih => exact fun store h => ih _ (idsBelowNext_append h data)

/-- No failure is pending. -/
def Calm (store : MemoryStore) : Prop :=
  store.pending = {}

/-- A calm store lets everything through. -/
theorem Calm.count_eq_zero {store : MemoryStore} (h : store.Calm) (operation : StoreOperation) :
    store.pending.count operation = 0 := by
  rw [h]
  cases operation <;> rfl

instance : LawfulStore MemoryStore where
  Sound := IdsBelowNext
  live store id := store.records[id]?
  sound_put data h := by
    change (MemoryStore.put data _).state.IdsBelowNext
    rcases put_cases data _ with ⟨error, left, hfailed, hrecords, hnext⟩ | hdone
    · rw [hfailed]
      exact h.congr hrecords hnext
    · rw [hdone]
      exact idsBelowNext_append h data
  sound_get id h := by
    change (MemoryStore.get id _).state.IdsBelowNext
    rcases get_cases id _ with ⟨error, left, hfailed, hrecords, hnext⟩ | ⟨data, -, hdone⟩
    · rw [hfailed]
      exact h.congr hrecords hnext
    · rwa [hdone]
  sound_delete id h := by
    change (MemoryStore.delete id _).state.IdsBelowNext
    rcases delete_cases id _ with ⟨error, left, hfailed, hrecords, hnext⟩ | ⟨-, hdone⟩
    · rw [hfailed]
      exact h.congr hrecords hnext
    · rw [hdone]
      exact idsBelowNext_erase h id
  put_ok := by
    intro store data id h hok
    change (MemoryStore.put data store).value = .ok id at hok
    change _ ∧ (fun id => (MemoryStore.put data store).state.records[id]?) = _
    rcases put_cases data store with ⟨error, left, hfailed, -⟩ | hdone
    · simp [hfailed] at hok
    · rw [hdone] at hok ⊢
      obtain rfl : store.nextId = id := by simpa using hok
      refine ⟨h.fresh, ?_⟩
      funext id
      simp only [append, ExtTreeMap.getElem?_insert, LawfulEqCmp.compare_eq_iff_eq,
        Function.update_apply, eq_comm (a := id)]
  put_error := by
    intro store data error h herror
    change (MemoryStore.put data store).value = .error error at herror
    change (fun id => (MemoryStore.put data store).state.records[id]?) = _
    rcases put_cases data store with ⟨error', left, hfailed, hrecords, -⟩ | hdone
    · rw [hfailed, hrecords]
    · simp [hdone] at herror
  get_ok := by
    intro store id data h hok
    change (MemoryStore.get id store).value = .ok data at hok
    rcases get_cases id store with ⟨error, left, hfailed, -⟩ | ⟨found, hrecord, hdone⟩
    · simp [hfailed] at hok
    · rw [hdone] at hok
      obtain rfl := Except.ok.inj hok
      exact hrecord
  live_get := by
    intro store id h
    change (fun id' => (MemoryStore.get id store).state.records[id']?) = _
    rcases get_cases id store with ⟨error, left, hfailed, hrecords, -⟩ | ⟨data, -, hdone⟩
    · rw [hfailed, hrecords]
    · rw [hdone]
  delete_ok := by
    intro store id h hok
    change (MemoryStore.delete id store).value = .ok () at hok
    change _ ∧ (fun id' => (MemoryStore.delete id store).state.records[id']?) = _
    rcases delete_cases id store with ⟨error, left, hfailed, -⟩ | ⟨hid, hdone⟩
    · simp [hfailed] at hok
    · rw [ExtTreeMap.mem_iff_isSome_getElem?, Option.isSome_iff_ne_none] at hid
      rw [hdone]
      refine ⟨hid, ?_⟩
      funext id'
      simp only [ExtTreeMap.getElem?_erase, LawfulEqCmp.compare_eq_iff_eq,
        Function.update_apply, eq_comm (a := id')]
  delete_error := by
    intro store id error h herror
    change (MemoryStore.delete id store).value = .error error at herror
    change (fun id' => (MemoryStore.delete id store).state.records[id']?) = _
    rcases delete_cases id store with ⟨error', left, hfailed, hrecords, -⟩ | ⟨-, hdone⟩
    · rw [hfailed, hrecords]
    · simp [hdone] at herror

instance : ReliableStore MemoryStore where
  Calm := Calm
  Room _ data := data.isEmpty = false
  calm_put data h := by
    change (MemoryStore.put data _).state.Calm
    rw [put_eq, if_neg (not_not.mpr (h.count_eq_zero .put))]
    split <;> exact h
  calm_get id h := by
    change (MemoryStore.get id _).state.Calm
    rw [get_eq, if_neg (not_not.mpr (h.count_eq_zero .get))]
    split <;> exact h
  calm_delete id h := by
    change (MemoryStore.delete id _).state.Calm
    rw [delete_eq, if_neg (not_not.mpr (h.count_eq_zero .delete))]
    split <;> exact h
  room_get _ _ hroom := hroom
  room_delete _ _ hroom := hroom
  get_live := by
    intro store id data _ hcalm hlive
    change store.records[id]? = some data at hlive
    change (MemoryStore.get id store).value = .ok data
    rw [get_eq, if_neg (not_not.mpr (hcalm.count_eq_zero .get)), hlive]
  delete_live := by
    intro store id data _ hcalm hlive
    change store.records[id]? = some data at hlive
    have hid : id ∈ store.records := by
      rw [ExtTreeMap.mem_iff_isSome_getElem?, hlive]
      rfl
    change (MemoryStore.delete id store).value = .ok ()
    rw [delete_eq, if_neg (not_not.mpr (hcalm.count_eq_zero .delete)), if_pos hid]
  put_room := by
    intro store data _ hcalm hroom
    change ∃ id, (MemoryStore.put data store).value = .ok id
    rw [put_eq, if_neg (not_not.mpr (hcalm.count_eq_zero .put)), hroom]
    exact ⟨store.nextId, rfl⟩

@[simp] theorem live_eq (store : MemoryStore) (id : SlotId) :
    LawfulStore.live store id = store.records[id]? := rfl

end BlobLimbo.MemoryStore
