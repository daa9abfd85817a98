import BlobLimbo.Proofs.Index.Counting
import BlobLimbo.Proofs.Limbo.Tally

/-!
# Metrics as a ledger of replies

The counters of a limbo say exactly what its replies say, added up over a run, and enabling metrics
changes nothing else. As long as the store does not fail, every transaction that is pushed is
tracked, pulled or evicted in the end (`acts_metered`).
-/

namespace BlobLimbo.Limbo

open Metrics LawfulStore AccountableStore

/-- A reply tells that an operation of the store failed. -/
def Reply.storeFailed : Reply → Bool
  | .pushed (.error (.store _)) => true
  | .pulled (.error (.store _)) => true
  | .updated (.error (.store _)) => true
  | .finalized (.swept _ failures) => !failures.isEmpty
  | _ => false

/-- Every transaction that was tracked, or was pushed since, is tracked, was pulled or was
evicted. -/
def Balances {S : Type} (before after : Limbo S) (replies : List Reply) : Prop :=
  before.size + tally replies (.calls .push true) =
    after.size + tally replies (.calls .pull true) + tally replies .evicted

/-- A reply that is no success of a push or a pull and tells of no eviction leaves the number of
transactions as it is. -/
theorem balances_of_size_eq {S : Type} {before after : Limbo S} {reply : Reply}
    (hsize : after.size = before.size) (hpush : reply.answer ≠ some (.push, true))
    (hpull : reply.answer ≠ some (.pull, true)) (hevicted : reply.evicted = 0) :
    Balances before after [reply] := by
  simp [Balances, tally, hsize, hpush, hpull, hevicted]

/-- A push that succeeds makes one transaction more. -/
theorem balances_of_pushed {S : Type} {before after : Limbo S}
    (hsize : after.size = before.size + 1) : Balances before after [.pushed (.ok ())] :=
  hsize.symm

/-- A pull that succeeds makes one transaction less. -/
theorem balances_of_pulled {S : Type} {before after : Limbo S} {sidecar : Sidecar}
    (hsize : after.size + 1 = before.size) : Balances before after [.pulled (.ok sidecar)] :=
  hsize.symm

/-- What balances twice, balances. -/
theorem Balances.trans {S : Type} {first second third : Limbo S} {replies replies' : List Reply}
    (h : Balances first second replies) (h' : Balances second third replies') :
    Balances first third (replies ++ replies') := by
  simp only [Balances, tally_append] at h h' ⊢
  omega

namespace InOrder

variable {S : Type} [AccountableStore S] {fits : Sidecar → Prop} {limbo : Limbo S}
  {tx : TxHash} {block : UInt64} {sidecar : Sidecar} {id : SlotId}

/-- Taking an entry makes one transaction less, unless the store fails. -/
theorem size_take (h : InOrder fits limbo.store limbo.index)
    (hslot : limbo.index.slotOf tx = some id) :
    (∃ cause, (Limbo.take id limbo).value = .error (.store cause)) ∨
      ∃ entry, (Limbo.take id limbo).value = .ok entry ∧
        (Limbo.take id limbo).state.size + 1 = limbo.size := by
  obtain ⟨block, sidecar, hknown, hentry⟩ := h.accounted.slot_of_owner hslot
  rcases take_cases h.sound hentry with
    ⟨cause, -, heffect⟩ | ⟨cause, -, heffect⟩ | ⟨-, heffect⟩
  · exact Or.inl ⟨cause, (effect_eq_iff.mp heffect).1⟩
  · exact Or.inl ⟨cause, (effect_eq_iff.mp heffect).1⟩
  · obtain ⟨hvalue, -, hindex⟩ := effect_eq_iff.mp heffect
    refine Or.inr ⟨_, hvalue, ?_⟩
    rw [size, hindex]
    exact h.accounted.consistent.size_remove hknown

/-- Storing an entry makes one transaction more, unless the store fails. -/
theorem size_insert (hreadable : Readable S fits) (h : InOrder fits limbo.store limbo.index)
    (huntracked : limbo.index.slotOf tx = none) (hsidecar : fits sidecar) :
    (∃ cause, (Limbo.insert ⟨tx, block, sidecar⟩ limbo).value = .error (.store cause)) ∨
      (Limbo.insert ⟨tx, block, sidecar⟩ limbo).value = .ok () ∧
        (Limbo.insert ⟨tx, block, sidecar⟩ limbo).state.size = limbo.size + 1 := by
  rcases insert_cases h.sound h.accounted huntracked
      (fun id hput => hreadable h.sound hsidecar hput) with
    ⟨cause, -, heffect⟩ | ⟨id, next, -, heffect, hfresh, hslots, -, haccounted⟩
  · exact Or.inl ⟨cause, (effect_eq_iff.mp heffect).1⟩
  · obtain ⟨hvalue, -, hindex⟩ := effect_eq_iff.mp heffect
    refine Or.inr ⟨hvalue, ?_⟩
    rw [size, hindex]
    exact h.accounted.consistent.size_of_insert haccounted.consistent hfresh hslots

/-- A push balances, unless the store fails. -/
theorem balances_push (hreadable : Readable S fits) (h : InOrder fits limbo.store limbo.index)
    (hsidecar : fits sidecar)
    (hcalm : (limbo.perform (.push tx block sidecar)).value.storeFailed = false) :
    Balances limbo (limbo.perform (.push tx block sidecar)).state
      [(limbo.perform (.push tx block sidecar)).value] := by
  simp only [Limbo.perform, Outcome.value_map, Outcome.state_map] at hcalm ⊢
  cases htracked : limbo.contains tx with
  | true =>
    obtain ⟨hvalue, -, hindex⟩ := effect_eq_iff.mp
      (effect_push_of_tracked block sidecar htracked)
    rw [hvalue]
    refine balances_of_size_eq ?_ ?_ (by simp [Reply.answer]) rfl
    · rw [size, hindex, size]
    · simp [Reply.answer, Except.isOk, Except.toBool]
  | false =>
    obtain ⟨hvalue, -, hindex⟩ := effect_eq_iff.mp
      (effect_push_of_untracked block sidecar htracked)
    rcases h.size_insert hreadable (slotOf_of_not_contains htracked) hsidecar with
      ⟨cause, herror⟩ | ⟨hok, hsize⟩
    · rw [hvalue, herror] at hcalm
      simp [Reply.storeFailed] at hcalm
    · rw [hvalue, hok]
      refine balances_of_pushed ?_
      rwa [size, hindex]

/-- A pull balances, unless the store fails. -/
theorem balances_pull (h : InOrder fits limbo.store limbo.index)
    (hcalm : (limbo.perform (.pull tx)).value.storeFailed = false) :
    Balances limbo (limbo.perform (.pull tx)).state [(limbo.perform (.pull tx)).value] := by
  simp only [Limbo.perform, Outcome.value_map, Outcome.state_map] at hcalm ⊢
  cases hslot : limbo.index.slotOf tx with
  | none =>
    obtain ⟨hvalue, -, hindex⟩ := effect_eq_iff.mp (effect_pull_of_untracked hslot)
    rw [hvalue]
    refine balances_of_size_eq ?_ (by simp [Reply.answer]) ?_ rfl
    · rw [size, hindex, size]
    · simp [Reply.answer, Except.isOk, Except.toBool]
  | some id =>
    obtain ⟨hvalue, -, hindex⟩ := effect_eq_iff.mp (effect_pull_of_tracked hslot)
    rcases h.size_take hslot with ⟨cause, herror⟩ | ⟨entry, hok, hsize⟩
    · rw [hvalue, herror] at hcalm
      simp [Reply.storeFailed, Except.map] at hcalm
    · rw [hvalue, hok]
      refine balances_of_pulled ?_
      rwa [size, hindex]

/-- An update balances, unless the store fails. -/
theorem balances_update (hreadable : Readable S fits) (h : InOrder fits limbo.store limbo.index)
    (hcalm : (limbo.perform (.update tx block)).value.storeFailed = false) :
    Balances limbo (limbo.perform (.update tx block)).state
      [(limbo.perform (.update tx block)).value] := by
  simp only [Limbo.perform, Outcome.value_map, Outcome.state_map] at hcalm ⊢
  refine balances_of_size_eq ?_ (by simp [Reply.answer]) (by simp [Reply.answer]) rfl
  cases hslot : limbo.index.slotOf tx with
  | none =>
    obtain ⟨-, -, hindex⟩ := effect_eq_iff.mp (effect_update_of_untracked block hslot)
    rw [size, hindex, size]
  | some id =>
    by_cases hblock : (limbo.index.slot id).map Tracked.block = some block
    · obtain ⟨-, -, hindex⟩ := effect_eq_iff.mp (effect_update_of_unchanged hslot hblock)
      rw [size, hindex, size]
    · rcases h.size_take hslot with ⟨cause, herror⟩ | ⟨entry, hok, hsize⟩
      · obtain ⟨hvalue, -, -⟩ := effect_eq_iff.mp (effect_update_of_untaken hslot hblock herror)
        rw [hvalue] at hcalm
        simp [Reply.storeFailed] at hcalm
      · obtain ⟨htaken, hafter⟩ := h.take hslot
        obtain ⟨hsidecar, huntracked⟩ := hafter entry hok
        obtain ⟨hvalue, -, hindex⟩ := effect_eq_iff.mp (effect_update_of_taken hslot hblock hok)
        rcases htaken.size_insert hreadable huntracked hsidecar with
          ⟨cause, herror⟩ | ⟨-, hsize'⟩
        · rw [hvalue, herror] at hcalm
          simp [Reply.storeFailed, Except.map] at hcalm
        · rw [← hsize, ← hsize', size, hindex, size]

/-- A sweep balances. -/
theorem balances_finalize (h : InOrder fits limbo.store limbo.index) (finalized : Option UInt64) :
    Balances limbo (limbo.perform (.finalize finalized)).state
      [(limbo.perform (.finalize finalized)).value] := by
  cases finalized with
  | none =>
    have hvalue : (limbo.perform (.finalize none)).value = .finalized .noFinalizedBlock := rfl
    rw [hvalue]
    exact balances_of_size_eq rfl (by simp [Reply.answer]) (by simp [Reply.answer]) rfl
  | some finalized =>
    have hsize := h.accounted.consistent.length_evicted_add_size finalized
    rw [Nat.add_comm] at hsize
    exact hsize.symm

/-- A call balances, unless the store fails. -/
theorem balances_perform (hreadable : Readable S fits) (h : InOrder fits limbo.store limbo.index)
    {call : Call} (hcall : call.Fits fits)
    (hcalm : (limbo.perform call).value.storeFailed = false) :
    Balances limbo (limbo.perform call).state [(limbo.perform call).value] := by
  cases call with
  | push tx block sidecar => exact h.balances_push hreadable hcall hcalm
  | pull tx => exact h.balances_pull hcalm
  | update tx block => exact h.balances_update hreadable hcalm
  | finalize finalized => exact h.balances_finalize finalized

/-- A run balances, unless the store fails. -/
theorem balances_acts {limbo : Limbo (Watched MemoryStore)}
    (h : InOrder Sidecar.Encodable limbo.store limbo.index) {activities : List Activity}
    (hfits : ∀ activity ∈ activities, activity.Fits Sidecar.Encodable)
    (hcalm : ∀ reply ∈ (limbo.acts activities).value, reply.storeFailed = false) :
    Balances limbo (limbo.acts activities).state (limbo.acts activities).value := by
  induction activities generalizing limbo with
  | nil => simp [acts, Balances, tally]
  | cons activity activities ih =>
    rw [List.forall_mem_cons] at hfits
    rw [value_acts_cons, List.forall_mem_append] at hcalm
    rw [state_acts_cons, value_acts_cons]
    refine Balances.trans ?_ (ih (h.act hfits.1) hfits.2 hcalm.2)
    cases activity with
    | meet incident =>
      cases incident with
      | call call =>
        exact h.balances_perform readable_watched hfits.1 (hcalm.1 _ (List.mem_singleton_self _))
      | failNext operation times => rfl
    | report => rfl

end InOrder

/-- A run of a reachable limbo balances, unless the store fails. -/
theorem Reachable.balances_acts {limbo : Limbo MemoryStore} (h : Reachable limbo)
    {activities : List Activity} (hfits : ∀ activity ∈ activities, activity.Fits Sidecar.Encodable)
    (hcalm : ∀ reply ∈ (limbo.acts activities).value, reply.storeFailed = false) :
    Balances limbo (limbo.acts activities).state (limbo.acts activities).value := by
  obtain ⟨watched, rfl, horder⟩ := h.tended
  have herase : (watched.acts activities).mapState erase = watched.erase.acts activities :=
    (Watched.view MemoryStore).acts (fun _ _ _ => rfl) watched activities
  rw [← herase, Outcome.value_mapState] at hcalm
  rw [← herase]
  exact horder.balances_acts hfits hcalm

/-- The blocks of a reachable limbo's transactions are as many as its groups. -/
theorem Reachable.length_groupSizes {limbo : Limbo MemoryStore} (h : Reachable limbo) :
    limbo.groupSizes.length = {block | ∃ tx, limbo.trackedBlock tx = some block}.ncard := by
  obtain ⟨-, stranded, haccounted⟩ := h.accounted
  exact haccounted.consistent.length_groupSizes

section Metered

variable {S : Type} [FallibleStore S]

/-- The limbo without metrics. -/
def unmetered (limbo : Limbo S) : Limbo S :=
  { limbo with ledger := none }

/-- What some activities make of a limbo when its metrics are enabled, on a ledger of their own. -/
def metered (limbo : Limbo S) (activities : List Activity) : Outcome (Limbo S) (List Reply) :=
  (limbo.withMetrics .empty).acts activities

/-- The metrics of a limbo after some activities. -/
structure Metered (limbo : Limbo S) (activities : List Activity) : Prop where
  /-- Counters and histograms say what the replies say. -/
  tells : ∃ ledger, (limbo.metered activities).state.ledger = some ledger ∧
    Tells ledger (limbo.metered activities).value
  /-- Once published, the gauges say how many transactions are tracked and how many groups there
  are. -/
  gauges : ∃ ledger, (limbo.metered activities).state.reportMetrics.ledger = some ledger ∧
    ledger.gauges[trackedEntries]? =
      some {tx | (limbo.metered activities).state.contains tx = true}.ncard ∧
    ledger.gauges[trackedBlocks]? = some (limbo.metered activities).state.groupSizes.length
  /-- As long as no block is final nothing is recorded. -/
  finalize_none : (finalize none (limbo.metered activities).state).state =
    (limbo.metered activities).state
  /-- Without metrics the replies, the events, the store and the index are the same. -/
  unmetered : (limbo.metered activities).mapState unmetered = limbo.unmetered.acts activities

/-- The gauges after a publication. -/
theorem gauges_gaugeLimbo (ledger : Ledger) (entries blocks : Nat) :
    (ledger.gaugeLimbo entries blocks).gauges[trackedEntries]? = some entries ∧
      (ledger.gaugeLimbo entries blocks).gauges[trackedBlocks]? = some blocks := by
  have hne : trackedBlocks ≠ trackedEntries := by simp [trackedBlocks, trackedEntries]
  simp only [Ledger.gaugeLimbo, Ledger.setGauge, Std.ExtTreeMap.getElem?_insert,
    Std.LawfulEqCmp.compare_eq_iff_eq, if_neg hne, if_true, and_self]

/-- The metrics of any limbo are those of its replies. -/
theorem metered_acts (limbo : Limbo S) (activities : List Activity) :
    Metered limbo activities := by
  have hstart : (limbo.withMetrics .empty).ledger = some Ledger.empty.describeLimbo.zeroLimbo := rfl
  have htells : Tells Ledger.empty.describeLimbo.zeroLimbo [] :=
    Ledger.reads_zeroLimbo.congr (fun counter => by cases counter <;> rfl) fun _ => rfl
  obtain ⟨last, hlast, hlastTells⟩ := tells_acts hstart htells activities
  refine ⟨⟨last, hlast, hlastTells⟩, ?_, rfl, ?_⟩
  · have hentries : (limbo.metered activities).state.size =
        {tx | (limbo.metered activities).state.contains tx = true}.ncard :=
      (limbo.metered activities).state.index.size_eq_ncard
    rw [← hentries]
    refine ⟨last.gaugeLimbo (limbo.metered activities).state.size
      (limbo.metered activities).state.groupSizes.length, ?_, gauges_gaugeLimbo _ _ _⟩
    rw [reportMetrics, metered, hlast]
    rfl
  · exact (View.silent S).acts (fun _ _ _ => rfl) (limbo.withMetrics .empty) activities

end Metered

/-- What becomes of the transactions of a limbo over a store in memory. -/
structure Kept (limbo : Limbo MemoryStore) (activities : List Activity) : Prop where
  /-- There are as many groups as blocks with a transaction. -/
  blocks : (limbo.metered activities).state.groupSizes.length =
    {block | ∃ tx, (limbo.metered activities).state.trackedBlock tx = some block}.ncard
  /-- As long as the store does not fail, every transaction that was tracked when metrics were
  enabled, or was pushed since, is tracked, was pulled or was evicted. -/
  balances : (∀ reply ∈ (limbo.metered activities).value, reply.storeFailed = false) →
    Balances limbo (limbo.metered activities).state (limbo.metered activities).value

/-- **Metrics.** Enable the metrics of any limbo over a store in memory, and let it be called, let
its store fail and let its metrics be published in any order. Then the ledger says exactly what the
replies say, and nothing but the ledger depends on it. If the limbo was recovered from the replay of
its store, whatever happened since, the gauge of blocks counts the blocks that have a transaction,
and no transaction gets lost unless the store fails. -/
theorem acts_metered (limbo : Limbo MemoryStore) (activities : List Activity) :
    Metered limbo activities ∧
      (limbo.Reachable → (∀ activity ∈ activities, activity.Fits Sidecar.Encodable) →
        Kept limbo activities) := by
  refine ⟨metered_acts limbo activities, fun hreachable hfits => ?_⟩
  have hmetered := hreachable.metered .empty
  exact ⟨(hmetered.acts hfits).length_groupSizes, hmetered.balances_acts hfits⟩

/-- A limbo is recovered from a replay that is not its store's: the record of a slot is listed
twice, the second time with another owner. Pulling one owner makes the index forget both, so one of
two transactions gets lost although the store never fails. -/
theorem pull_loses_other_owner :
    let tx : TxHash := .replicate 32 1
    let other : TxHash := .replicate 32 2
    let entry : Entry := ⟨tx, 5, ⟨[], [], []⟩⟩
    let limbo := recover (MemoryStore.ofRecords [entry.encode])
      [(0, entry.encode), (0, Entry.encode ⟨other, 7, ⟨[], [], []⟩⟩)]
    let outcome := limbo.state.metered [.meet (.call (.pull other))]
    limbo.value = .ok () ∧ limbo.state.size = 2 ∧
      (∀ reply ∈ outcome.value, reply.storeFailed = false) ∧
      tally outcome.value (.calls .push true) = 0 ∧ outcome.state.size = 0 ∧
      tally outcome.value (.calls .pull true) = 1 ∧ tally outcome.value .evicted = 0 ∧
      ¬Balances limbo.state outcome.state outcome.value := by
  intro tx other entry limbo outcome
  have hbefore : limbo.state.size = 2 := by decide +kernel
  have hafter : outcome.state.size = 0 := by decide +kernel
  have hpushed : tally outcome.value (.calls .push true) = 0 := by decide +kernel
  have hpulled : tally outcome.value (.calls .pull true) = 1 := by decide +kernel
  have hevicted : tally outcome.value .evicted = 0 := by decide +kernel
  refine ⟨by decide +kernel, hbefore, by decide +kernel, hpushed, hafter, hpulled, hevicted, ?_⟩
  rw [Balances, hbefore, hafter, hpushed, hpulled, hevicted]
  decide

/-- One transaction is there, another one is pushed; the first is pulled and the second evicted. -/
theorem acts_metered_one_of_each :
    let tx : TxHash := .replicate 32 1
    let store := MemoryStore.ofRecords [Entry.encode ⟨tx, 5, ⟨[], [], []⟩⟩]
    let limbo := (recover store store.replay).state
    let activities : List Activity :=
      [.meet (.call (.push (.replicate 32 2) 7 ⟨[], [], []⟩)), .meet (.call (.pull tx)), .report,
        .meet (.call (.finalize (some 7)))]
    Metered limbo activities ∧ Kept limbo activities ∧
      (∀ reply ∈ (limbo.metered activities).value, reply.storeFailed = false) ∧ limbo.size = 1 ∧
      tally (limbo.metered activities).value (.calls .push true) = 1 ∧
      (limbo.metered activities).state.size = 0 ∧
      tally (limbo.metered activities).value (.calls .pull true) = 1 ∧
      tally (limbo.metered activities).value .evicted = 1 := by
  intro tx store limbo activities
  have hlengths : ∀ (id : SlotId) (data : Bytes), store.records[id]? = some data →
      data.length < 2 ^ 63 := by
    intro id data hdata
    have hmem := Std.ExtTreeMap.mem_toList_iff_getElem?_eq_some.mpr hdata
    have hlist : store.records.toList = [(0, Entry.encode ⟨tx, 5, ⟨[], [], []⟩⟩)] := by
      decide +kernel
    rw [hlist, List.mem_singleton, Prod.mk.injEq] at hmem
    rw [hmem.2]
    decide +kernel
  have hreachable : limbo.Reachable :=
    .recovered (MemoryStore.idsBelowNext_ofRecords _) hlengths (by decide +kernel)
  have hempty : (⟨[], [], []⟩ : Sidecar).OfAtMost 0 := ⟨Nat.le_refl 0, rfl, rfl⟩
  have hfits : ∀ activity ∈ activities, activity.Fits Sidecar.Encodable := by
    simp [activities, Activity.Fits, Incident.Fits, Call.Fits, hempty.encodable (Nat.zero_le _)]
  obtain ⟨hmetered, hkept⟩ := acts_metered limbo activities
  exact ⟨hmetered, hkept hreachable hfits, by decide +kernel, by decide +kernel,
    by decide +kernel, by decide +kernel, by decide +kernel, by decide +kernel⟩

end BlobLimbo.Limbo
