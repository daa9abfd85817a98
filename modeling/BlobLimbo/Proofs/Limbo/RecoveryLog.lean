import BlobLimbo.Proofs.Limbo.InterruptedRecovery
import BlobLimbo.Proofs.Wording
import Mathlib.Data.List.Infix

/-!
# What recovery reports

A replayed record finds no place when it is no entry, or when a record in front of it is an entry of
the same owner (`objection?`). This is told by the records alone. The events that recovery reports,
the ids it deletes and the counts it ends with are all read off the list of objections
(`recover_reports`), as events and as the texts in which they are seen. Nothing is asked of the
records: ids may occur more than once, and the store need not hold them.
-/

namespace BlobLimbo.Limbo

open Std

variable {index : Index} {front records : List Record} {record : Record}

/-- Why a replayed record finds no place. -/
inductive Objection where
  /-- It is no entry. -/
  | undecodable (cause : Rlp.DecodeError)
  /-- A record in front of it is an entry of the same owner. -/
  | duplicate (owner : TxHash)

/-- The event of an objection to the record with an id. -/
def Objection.event (id : SlotId) : Objection → LimboEvent
  | .undecodable cause => .undecodable id cause
  | .duplicate owner => .duplicate owner id

/-- Whether a record is an entry of an owner. -/
def IsEntryOf (owner : TxHash) (record : Record) : Prop :=
  ∃ entry, Entry.decode record.2 = .ok entry ∧ entry.owner = owner

instance (owner : TxHash) (record : Record) : Decidable (IsEntryOf owner record) :=
  match h : Entry.decode record.2 with
  | .error _ => .isFalse fun ⟨entry, hentry, _⟩ => by rw [h] at hentry; cases hentry
  | .ok entry =>
    if howner : entry.owner = owner then .isTrue ⟨entry, h, howner⟩
    else .isFalse fun ⟨other, hother, hsame⟩ => by
      rw [h, Except.ok.injEq] at hother
      exact howner (hother ▸ hsame)

/-- The objection to a record, given the records in front of it. -/
def objection? (front : List Record) (record : Record) : Option Objection :=
  match Entry.decode record.2 with
  | .error cause => some (.undecodable cause)
  | .ok entry =>
    if ∃ other ∈ front, IsEntryOf entry.owner other then some (.duplicate entry.owner) else none

/-- The objections to records that come after some others, in replay order and each with the id of
its record. Every record is judged by what is in front of it. -/
def objections (front records : List Record) : List (SlotId × Objection) :=
  (records.inits.zip records).filterMap fun place =>
    (objection? (front ++ place.1) place.2).map (place.2.1, ·)

/-- The slot of the first entry of an owner. -/
def firstSlot? (records : List Record) (owner : TxHash) : Option SlotId :=
  (records.find? fun record => IsEntryOf owner record).map Prod.fst

/-- Why a record cannot be deleted from a store in memory. -/
inductive Refusal where
  /-- The failure was asked for. -/
  | injected
  /-- There is no record of that id. -/
  | missing (id : SlotId)

/-- The failure of the store. -/
def Refusal.cause : Refusal → StoreError
  | .injected => .io ⟨.other, "injected Delete failure"⟩
  | .missing id => .emptySlot id

/-- The failure as it is seen. -/
def Refusal.wording : Refusal → String
  | .injected => "injected Delete failure"
  | .missing id => "slot id 0x" ++ String.ofList (Nat.toDigits 16 id) ++ " is empty"

/-- The refusal that ends deleting records from a store in memory, if one does. It is a pending one,
or is about the first record that is not held or was deleted in front of it. -/
def refusal? (store : MemoryStore) (ids : List SlotId) : Option Refusal :=
  if ids = [] then none
  else if store.pending.count .delete ≠ 0 then some .injected
  else ((ids.inits.zip ids).find? fun place => place.2 ∉ store.records ∨ place.2 ∈ place.1).map
    fun place => .missing place.2

/-- The first of some records is judged by what is in front of all of them. -/
theorem objections_cons (front : List Record) (record : Record) (records : List Record) :
    objections front (record :: records) =
      ((objection? front record).map (record.1, ·)).toList ++
        objections (front ++ [record]) records := by
  unfold objections
  rw [List.inits_cons, List.zip_cons_cons, List.filterMap_cons, List.zip_map_left,
    List.filterMap_map]
  cases hobjection : objection? front record <;>
    simp [hobjection, List.append_assoc]

/-- The first slot of an owner is the one in front, if there is one. -/
theorem firstSlot?_append (front : List Record) (record : Record) (owner : TxHash) :
    firstSlot? (front ++ [record]) owner =
      (firstSlot? front owner).or (if IsEntryOf owner record then some record.1 else none) := by
  unfold firstSlot?
  rw [List.find?_append, Option.map_or]
  by_cases howner : IsEntryOf owner record <;> simp [howner]

/-- An owner has a slot if one of the records is its entry. -/
theorem firstSlot?_eq_none_iff {owner : TxHash} :
    firstSlot? front owner = none ↔ ¬∃ record ∈ front, IsEntryOf owner record := by
  simp [firstSlot?]

/-- An index that has the first entry of each owner among some records, and no other. -/
def Knows (index : Index) (front : List Record) : Prop :=
  ∀ owner, index.slotOf owner = firstSlot? front owner

/-- A new owner gets the slot, the others keep theirs. -/
theorem insert?_of_slotOf_eq_none {owner : TxHash} (huntracked : index.slotOf owner = none)
    (block : UInt64) (id : SlotId) :
    ∃ next, index.insert? owner block id = some next ∧ next.size = index.size + 1 ∧
      ∀ other, next.slotOf other = if owner = other then some id else index.slotOf other := by
  have habsent : owner ∉ index.owners := by
    rw [ExtTreeMap.mem_iff_isSome_getElem?, ← Option.ne_none_iff_isSome, not_not]
    exact huntracked
  have hcontains : index.owners.contains owner = false := by
    rw [← Bool.not_eq_true, ExtTreeMap.contains_iff_mem]
    exact habsent
  refine ⟨_, by rw [Index.insert?, hcontains]; rfl, ?_, fun other => ?_⟩
  · exact ExtTreeMap.size_insert.trans (if_neg habsent)
  · simp [Index.slotOf, ExtTreeMap.getElem?_insert]

/-- A known owner gets no second slot. -/
theorem insert?_of_slotOf_ne_none {owner : TxHash} (htracked : index.slotOf owner ≠ none)
    (block : UInt64) (id : SlotId) : index.insert? owner block id = none := by
  have hcontains : index.owners.contains owner = true := by
    rw [ExtTreeMap.contains_iff_mem, ExtTreeMap.mem_iff_isSome_getElem?]
    exact Option.ne_none_iff_isSome.mp htracked
  rw [Index.insert?, hcontains, if_pos rfl]

namespace Knows

/-- A record with an objection is reported, and the index stays as it is. -/
theorem indexRecord_of_some (h : Knows index front) {objection : Objection}
    (hobjection : objection? front record = some objection) :
    indexRecord index record = .error (objection.event record.1) ∧
      Knows index (front ++ [record]) := by
  unfold objection? at hobjection
  unfold indexRecord
  cases hdecode : Entry.decode record.2 with
  | error cause =>
    rw [hdecode] at hobjection
    cases hobjection
    refine ⟨rfl, fun owner => ?_⟩
    have hnoEntry : ¬IsEntryOf owner record := by
      rintro ⟨entry, hentry, -⟩
      rw [hdecode] at hentry
      cases hentry
    rw [h owner, firstSlot?_append, if_neg hnoEntry, Option.or_none]
  | ok entry =>
    simp only [hdecode] at hobjection
    split at hobjection
    · rename_i hseen
      cases hobjection
      have htracked : firstSlot? front entry.owner ≠ none :=
        fun hnone => firstSlot?_eq_none_iff.mp hnone hseen
      have hrefused := insert?_of_slotOf_ne_none (h entry.owner ▸ htracked) entry.block record.1
      refine ⟨by simp only [hrefused, Objection.event], fun owner => ?_⟩
      rw [h owner, firstSlot?_append]
      by_cases howner : IsEntryOf owner record
      · obtain ⟨other, hother, rfl⟩ := howner
        rw [hdecode, Except.ok.injEq] at hother
        subst hother
        obtain ⟨slot, hslot⟩ := Option.ne_none_iff_exists'.mp htracked
        rw [hslot, Option.some_or]
      · rw [if_neg howner, Option.or_none]
    · cases hobjection

/-- A record without an objection gets its place, and the index has one transaction more. -/
theorem indexRecord_of_none (h : Knows index front) (hnone : objection? front record = none) :
    ∃ next, indexRecord index record = .ok next ∧ next.size = index.size + 1 ∧
      Knows next (front ++ [record]) := by
  unfold objection? at hnone
  unfold indexRecord
  cases hdecode : Entry.decode record.2 with
  | error cause =>
    rw [hdecode] at hnone
    cases hnone
  | ok entry =>
    simp only [hdecode] at hnone
    split at hnone
    · cases hnone
    · rename_i hunseen
      have huntracked := firstSlot?_eq_none_iff.mpr hunseen
      obtain ⟨next, hnext, hsize, hslots⟩ :=
        insert?_of_slotOf_eq_none (h entry.owner ▸ huntracked) entry.block record.1
      refine ⟨next, by simp only [hnext], hsize, fun owner => ?_⟩
      have hentry : IsEntryOf owner record ↔ entry.owner = owner := by
        constructor
        · rintro ⟨other, hother, rfl⟩
          rw [hdecode, Except.ok.injEq] at hother
          rw [hother]
        · exact fun howner => ⟨entry, hdecode, howner⟩
      rw [hslots, firstSlot?_append, h owner]
      by_cases howner : entry.owner = owner
      · subst howner
        rw [if_pos rfl, if_pos (hentry.mpr rfl), huntracked, Option.none_or]
      · rw [if_neg howner, if_neg (mt hentry.mp howner), Option.or_none]

end Knows

/-- What indexing records after some others comes to. -/
structure Indexes (index : Index) (front records : List Record)
    (outcome : Outcome Index (List SlotId)) : Prop where
  /-- Every objection is reported. -/
  events : outcome.events =
    (objections front records).map fun (id, objection) => .limbo (objection.event id)
  /-- The records they are about are left over. -/
  value : outcome.value = (objections front records).map Prod.fst
  /-- The others are in the index. -/
  knows : Knows outcome.state (front ++ records)
  size_add : outcome.state.size + (objections front records).length = index.size + records.length

/-- Every record is either indexed or reported. -/
theorem Knows.indexes (h : Knows index front) (records : List Record) :
    Indexes index front records (indexRecords index records) := by
  induction records generalizing index front with
  | nil => exact ⟨rfl, rfl, by rwa [List.append_nil], rfl⟩
  | cons record records ih =>
    cases hobjection : objection? front record with
    | none =>
      obtain ⟨next, hnext, hsize, hknows⟩ := h.indexRecord_of_none hobjection
      obtain ⟨hevents, hvalue, hall, hcount⟩ := ih hknows
      have hobjections : objections front (record :: records) =
          objections (front ++ [record]) records := by
        rw [objections_cons, hobjection]
        rfl
      rw [indexRecords_cons_of_ok hnext]
      refine ⟨?_, ?_, ?_, ?_⟩
      · rw [hevents, hobjections]
      · rw [hvalue, hobjections]
      · rwa [List.append_cons]
      · rw [hobjections, List.length_cons]
        omega
    | some objection =>
      obtain ⟨hrefused, hknows⟩ := h.indexRecord_of_some hobjection
      obtain ⟨hevents, hvalue, hall, hcount⟩ := ih hknows
      have hobjections : objections front (record :: records) =
          (record.1, objection) :: objections (front ++ [record]) records := by
        rw [objections_cons, hobjection]
        rfl
      rw [indexRecords_cons_of_error hrefused]
      refine ⟨?_, ?_, ?_, ?_⟩
      · rw [hobjections, List.map_cons, ← hevents]
        rfl
      · rw [hobjections, List.map_cons, ← hvalue]
        rfl
      · rwa [List.append_cons]
      · rw [hobjections, List.length_cons, List.length_cons]
        simp only [Outcome.state_after, Outcome.state_map]
        omega

section Deletions

variable {store : MemoryStore} {id : SlotId}

/-- Without pending failures deleting ends at the first record that is not there, or not any
more. -/
theorem refusal?_of_calm (hcalm : store.pending.count .delete = 0) (ids : List SlotId) :
    refusal? store ids =
      ((ids.inits.zip ids).find? fun place => place.2 ∉ store.records ∨ place.2 ∈ place.1).map
        fun place => .missing place.2 := by
  unfold refusal?
  rw [if_neg (not_not.mpr hcalm)]
  split
  · rename_i hnil
    subst hnil
    rfl
  · rfl

/-- After a record is deleted the others are refused as before. -/
theorem refusal?_cons (hcalm : store.pending.count .delete = 0) (hmem : id ∈ store.records)
    (ids : List SlotId) :
    refusal? store (id :: ids) = refusal? { store with records := store.records.erase id } ids := by
  have hsame : (fun place : List SlotId × SlotId =>
      decide (place.2 ∉ store.records ∨ place.2 ∈ id :: place.1)) =
        fun place => decide (place.2 ∉ store.records.erase id ∨ place.2 ∈ place.1) := by
    funext place
    simp only [ExtTreeMap.mem_erase, List.mem_cons, decide_eq_decide]
    grind
  have hleft : ({ store with records := store.records.erase id } : MemoryStore).pending.count
      .delete = 0 := hcalm
  rw [refusal?_of_calm hcalm, refusal?_of_calm hleft, List.inits_cons, List.zip_cons_cons,
    List.find?_cons_of_neg (by simpa using hmem), List.zip_map_left, List.find?_map, ← hsame]
  simp [Function.comp_def]

/-- Deleting records from a store in memory ends as the records and the pending failures say, and
reports nothing. -/
theorem deleteAll_memory (store : MemoryStore) (ids : List SlotId) :
    (deleteAll ids store).value =
        (match refusal? store ids with | none => .ok () | some refusal => .error refusal.cause) ∧
      (deleteAll ids store).events = [] := by
  induction ids generalizing store with
  | nil => exact ⟨rfl, rfl⟩
  | cons id ids ih =>
    have hdelete : SlotStore.delete id store = _ := MemoryStore.delete_eq id store
    by_cases hcalm : store.pending.count .delete = 0
    · rw [if_neg (not_not.mpr hcalm)] at hdelete
      by_cases hmem : id ∈ store.records
      · rw [if_pos hmem] at hdelete
        rw [refusal?_cons hcalm hmem, deleteAll_cons_of_ok (by rw [hdelete]), hdelete]
        exact ih _
      · rw [if_neg hmem] at hdelete
        have hstops : deleteAll (id :: ids) store = _ := Action.bind_of_error (by rw [hdelete])
        rw [hstops, hdelete, refusal?_of_calm hcalm, List.inits_cons, List.zip_cons_cons,
          List.find?_cons_of_pos (by simp [hmem])]
        exact ⟨rfl, rfl⟩
    · rw [if_pos hcalm] at hdelete
      have hstops : deleteAll (id :: ids) store = _ := Action.bind_of_error (by rw [hdelete])
      rw [hstops, hdelete, refusal?, if_neg (List.cons_ne_nil _ _), if_pos hcalm]
      exact ⟨rfl, rfl⟩

/-- Dropping records from a store in memory is announced if there are any, and a failure is
reported. -/
theorem dropInvalid_memory (store : MemoryStore) (ids : List SlotId) :
    (dropInvalid ids store).value = (deleteAll ids store).value ∧
      (dropInvalid ids store).events =
        (if ids = [] then [] else [.limbo (.droppingInvalid ids)]) ++
          (match refusal? store ids with
            | none => []
            | some refusal => [.limbo (.dropFailed refusal.cause)]) := by
  obtain ⟨hvalue, hevents⟩ := deleteAll_memory store ids
  by_cases hids : ids = []
  · subst hids
    exact ⟨rfl, rfl⟩
  · unfold dropInvalid
    rw [if_pos hids, if_neg hids, Action.bind_of_ok rfl, Outcome.value_after,
      value_closingOnFailure, Action.value_reportFailure]
    refine ⟨rfl, ?_⟩
    unfold closingOnFailure Action.reportFailure
    simp only [Action.report_apply, Outcome.after]
    cases hdeleted : deleteAll ids store with
    | mk result left events =>
      rw [hdeleted] at hvalue hevents
      obtain rfl : events = [] := hevents
      obtain rfl := hvalue
      cases refusal? store ids <;> rfl

end Deletions

/-- What is seen of an event: how much it matters, its text and what it is about. -/
structure Notice where
  level : Level
  message : String
  fields : List (String × FieldValue)

/-- What is seen of the events that a limbo reports. -/
def limboNotices (events : List Event) : List Notice :=
  (events.filter (·.target = "blobpool::limbo")).map fun event =>
    ⟨event.level, event.message, event.fields⟩

/-- What is seen of an objection to the record with an id. -/
def Objection.notice (id : SlotId) : Objection → Notice
  | .undecodable cause =>
    ⟨.error, "Failed to decode blob limbo entry",
      [("id", .number id), ("err", .text cause.wording)]⟩
  | .duplicate owner =>
    ⟨.error, "Dropping duplicate blob limbo entry",
      [("owner", .text owner.wording), ("id", .number id)]⟩

/-- What is seen of the records that are about to be deleted: their ids in order, in decimal. -/
def droppingNotice (ids : List SlotId) : Notice :=
  ⟨.warn, "Dropping invalidated limboed blobs",
    [("ids", .text ("[" ++ ", ".intercalate (ids.map toString) ++ "]"))]⟩

/-- What is seen of a record that could not be deleted. -/
def Refusal.notice (refusal : Refusal) : Notice :=
  ⟨.error, "Failed to drop invalidated limboed blobs", [("err", .text refusal.wording)]⟩

/-- What is seen of the records that are tracked and of those that were dropped. -/
def indexedNotice (tracked dropped : Nat) : Notice :=
  ⟨.debug, "Indexed limboed blobs", [("tracked", .number tracked), ("dropped", .number dropped)]⟩

@[simp] theorem limboNotices_append (events events' : List Event) :
    limboNotices (events ++ events') = limboNotices events ++ limboNotices events' := by
  unfold limboNotices
  rw [List.filter_append, List.map_append]

/-- An objection is seen. -/
theorem limboNotices_objection (id : SlotId) (objection : Objection) :
    limboNotices [.limbo (objection.event id)] = [objection.notice id] := by
  cases objection with
  | undecodable cause =>
    rw [Objection.notice.eq_1, ← cause.message_eq_wording]
    rfl
  | duplicate owner =>
    rw [Objection.notice.eq_2, ← owner.toHex_eq_wording]
    rfl

/-- Every objection is seen. -/
theorem limboNotices_objections (objections : List (SlotId × Objection)) :
    limboNotices (objections.map fun (id, objection) => .limbo (objection.event id)) =
      objections.map fun (id, objection) => objection.notice id := by
  induction objections with
  | nil => rfl
  | cons place objections ih =>
    obtain ⟨id, objection⟩ := place
    rw [List.map_cons, List.map_cons, ← List.singleton_append, limboNotices_append, ih,
      limboNotices_objection, List.singleton_append]

/-- A refusal is worded as the failure of the store is. -/
theorem Refusal.message_cause (refusal : Refusal) : refusal.cause.message = refusal.wording := by
  cases refusal with
  | injected => rfl
  | missing id =>
    have hnumber : "slot id 0x" ++ String.ofList (Nat.toDigits 16 id) =
        "slot id " ++ StoreError.hexNumber id := by
      rw [StoreError.hexNumber, ← String.append_assoc]
      rfl
    rw [wording, hnumber]
    rfl

/-- A refusal is seen. -/
theorem limboNotices_dropFailed (refusal : Refusal) :
    limboNotices [.limbo (.dropFailed refusal.cause)] = [refusal.notice] := by
  rw [Refusal.notice, ← refusal.message_cause]
  rfl

theorem limboNotices_droppingInvalid (ids : List SlotId) :
    limboNotices [.limbo (.droppingInvalid ids)] = [droppingNotice ids] :=
  rfl

theorem limboNotices_indexed (tracked dropped : Nat) :
    limboNotices [.limbo (.indexed tracked dropped)] = [indexedNotice tracked dropped] :=
  rfl

/-- What recovering a limbo over a store in memory reports. -/
structure Reports (store : MemoryStore) (records : List Record)
    (outcome : Outcome (Limbo MemoryStore) (Except LimboError Unit)) : Prop where
  /-- The limbo reports each objection, then the ids of their records if there are any, and how
  dropping those ended. -/
  events : outcome.events =
    (objections [] records).map (fun (id, objection) => .limbo (objection.event id)) ++
      (if objections [] records = [] then []
        else [.limbo (.droppingInvalid ((objections [] records).map Prod.fst))]) ++
      (match refusal? store ((objections [] records).map Prod.fst) with
        | none => [.limbo (.indexed outcome.state.size (objections [] records).length)]
        | some refusal => [.limbo (.dropFailed refusal.cause)])
  /-- What is seen of it: an error for each objection, a warning with the ids, and the counts or one
  more error. -/
  notices : limboNotices outcome.events =
    (objections [] records).map (fun (id, objection) => objection.notice id) ++
      (if objections [] records = [] then []
        else [droppingNotice ((objections [] records).map Prod.fst)]) ++
      (match refusal? store ((objections [] records).map Prod.fst) with
        | none => [indexedNotice outcome.state.size (objections [] records).length]
        | some refusal => [refusal.notice])
  /-- Every record is tracked or dropped. -/
  size_add : outcome.state.size + (objections [] records).length = records.length
  /-- The tracked ones are the first entries of their owners. -/
  slotOf : ∀ owner, outcome.state.index.slotOf owner = firstSlot? records owner
  /-- Recovery fails when a record cannot be dropped, and then with the cause that is reported. -/
  value : outcome.value =
    match refusal? store ((objections [] records).map Prod.fst) with
      | none => .ok ()
      | some refusal => .error (.store refusal.cause)

/-- What recovery returns and reports, and the index it leaves, by the records that are left over
when all are indexed. -/
theorem recover_memory (store : MemoryStore) (records : List Record) :
    (recover store records).state.index = (indexRecords {} records).state ∧
      (recover store records).value =
        (match refusal? store (indexRecords {} records).value with
          | none => .ok ()
          | some refusal => .error (.store refusal.cause)) ∧
      (recover store records).events =
        (indexRecords {} records).events ++
          (if (indexRecords {} records).value = [] then []
            else [.limbo (.droppingInvalid (indexRecords {} records).value)]) ++
          (match refusal? store (indexRecords {} records).value with
            | none => [.limbo (.indexed (indexRecords {} records).state.size
                (indexRecords {} records).value.length)]
            | some refusal => [.limbo (.dropFailed refusal.cause)]) := by
  obtain ⟨hdeleted, -⟩ := deleteAll_memory store (indexRecords {} records).value
  obtain ⟨hdropped, hreported⟩ := dropInvalid_memory store (indexRecords {} records).value
  rw [hdeleted] at hdropped
  unfold recover
  cases hrefusal : refusal? store (indexRecords {} records).value with
  | none =>
    rw [hrefusal] at hdropped hreported
    rw [List.append_nil] at hreported
    dsimp only
    rw [Action.bind_of_ok (value_onStore_of_ok hdropped), List.append_assoc, ← hreported]
    exact ⟨rfl, rfl, rfl⟩
  | some refusal =>
    rw [hrefusal] at hdropped hreported
    dsimp only at hreported ⊢
    rw [Action.bind_of_error (value_onStore_of_error hdropped), List.append_assoc, ← hreported]
    exact ⟨rfl, rfl, rfl⟩

/-- **Recovery drops no record silently.** Whatever was replayed, each record is the first entry of
its owner and tracked, or there is an objection to it that is reported; the records that are dropped
are those with an objection, and so are the counts at the end. -/
theorem recover_reports (store : MemoryStore) (records : List Record) :
    Reports store records (recover store records) := by
  have hnothing : Knows {} [] := fun owner => ExtTreeMap.getElem?_empty
  obtain ⟨hreported, hleft, hknows, htotal⟩ := hnothing.indexes records
  obtain ⟨hindex, hvalue, hevents⟩ := recover_memory store records
  have hsize : (recover store records).state.size = (indexRecords {} records).state.size :=
    congrArg Index.size hindex
  rw [hleft] at hvalue
  rw [hreported, hleft, List.length_map, ← hsize] at hevents
  simp only [List.map_eq_nil_iff] at hevents
  refine ⟨hevents, ?_, ?_, fun owner => hindex ▸ hknows owner, hvalue⟩
  · rw [hevents, limboNotices_append, limboNotices_append, limboNotices_objections]
    congr 1
    · congr 1
      split
      · rfl
      · exact limboNotices_droppingInvalid _
    · cases refusal? store ((objections [] records).map Prod.fst) with
      | none => exact limboNotices_indexed _ _
      | some refusal => exact limboNotices_dropFailed refusal
  · rw [hsize, htotal]
    exact Nat.zero_add _

/-- A record that is no entry is reported, and so is that the store does not hold it. -/
example : limboNotices (recover MemoryStore.empty [(3, [])]).events =
    [⟨.error, "Failed to decode blob limbo entry",
        [("id", .number 3), ("err", .text "input too short")]⟩,
      ⟨.warn, "Dropping invalidated limboed blobs", [("ids", .text "[3]")]⟩,
      ⟨.error, "Failed to drop invalidated limboed blobs",
        [("err", .text "slot id 0x3 is empty")]⟩] := by
  rfl

end BlobLimbo.Limbo
