import BlobLimbo.Proofs.Limbo.Steps

/-!
# Runs of a limbo

A run is a sequence of calls. Whatever fails on the way, a run over an accountable store keeps the
limbo in order: the index accounts for every live record but those the store refused to give up
(`InOrder.run`).
-/

namespace BlobLimbo.Limbo

open SlotStore LawfulStore AccountableStore

/-- A call of a limbo. -/
inductive Call where
  /-- Keep the blobs of a transaction. -/
  | push (tx : TxHash) (block : UInt64) (sidecar : Sidecar)
  /-- Hand back the blobs of a transaction. -/
  | pull (tx : TxHash)
  /-- Move a transaction to another block. -/
  | update (tx : TxHash) (block : UInt64)
  /-- Evict what is final. -/
  | finalize (finalized : Option UInt64)
  deriving DecidableEq

/-- What a call returns. -/
inductive Reply where
  | pushed (result : Except LimboError Unit)
  | pulled (result : Except LimboError Sidecar)
  | updated (result : Except LimboError Update)
  | finalized (result : Finalization)

/-- Every sidecar that is pushed is of the given kind. -/
def Call.Fits (fits : Sidecar → Prop) : Call → Prop
  | .push _ _ sidecar => fits sidecar
  | _ => True

section Run

variable {S : Type} [SlotStore S]

/-- Carries out a call. -/
def perform (limbo : Limbo S) : Call → Outcome (Limbo S) Reply
  | .push tx block sidecar => (push tx block sidecar limbo).map .pushed
  | .pull tx => (pull tx limbo).map .pulled
  | .update tx block => (update tx block limbo).map .updated
  | .finalize finalized => (finalize finalized limbo).map .finalized

/-- Carries out some calls one after the other. -/
def run (limbo : Limbo S) : List Call → Outcome (Limbo S) (List Reply)
  | [] => { value := [], state := limbo }
  | call :: calls =>
    let first := limbo.perform call
    ((run first.state calls).map (first.value :: ·)).after first.events

@[simp] theorem state_run_cons (limbo : Limbo S) (call : Call) (calls : List Call) :
    (limbo.run (call :: calls)).state = ((limbo.perform call).state.run calls).state := rfl

@[simp] theorem value_run_cons (limbo : Limbo S) (call : Call) (calls : List Call) :
    (limbo.run (call :: calls)).value =
      (limbo.perform call).value :: ((limbo.perform call).state.run calls).value := rfl

end Run

/-- The entries of some sidecars can be read back if the store accepts them. -/
def Readable (S : Type) [LawfulStore S] (fits : Sidecar → Prop) : Prop :=
  ∀ {store : S} {owner : TxHash} {block : UInt64} {sidecar : Sidecar} {id : SlotId}, Sound store →
    fits sidecar → (put (Entry.encode ⟨owner, block, sidecar⟩) store).value = .ok id →
      (Entry.encode ⟨owner, block, sidecar⟩).length < 2 ^ 64

/-- The index accounts for the live records of its store but those that were refused, and the
sidecars of all entries are of the given kind. -/
structure InOrder {S : Type} [AccountableStore S] (fits : Sidecar → Prop) (store : S)
    (index : Index) : Prop where
  sound : Sound store
  accounted : Accounted index (live store) (refused store)
  fitting : ∀ (id : SlotId) (entry : Entry), EntryAt (live store) id entry → fits entry.sidecar

/-- A sweep through live records adds those it could not delete to the refused ones. -/
theorem refused_deleteEvicted {S : Type} [AccountableStore S] {store : S} (hsound : Sound store)
    {evicted : List Evicted} (hnodup : (evicted.map Evicted.id).Nodup)
    (hlive : ∀ slot ∈ evicted, live store slot.id ≠ none) :
    refused (deleteEvicted store evicted).state =
      refused store ++ failedIds (deleteEvicted store evicted).value := by
  induction evicted generalizing store with
  | nil => simp [deleteEvicted, failedIds]
  | cons slot evicted ih =>
    rw [List.map_cons, List.nodup_cons] at hnodup
    rw [List.forall_mem_cons] at hlive
    have hsound' := sound_delete slot.id hsound
    cases hdelete : (SlotStore.delete slot.id store).value with
    | ok value =>
      obtain ⟨-, hgone⟩ := delete_ok hsound hdelete
      have hrest : ∀ other ∈ evicted,
          live (SlotStore.delete slot.id store).state other.id ≠ none := by
        intro other hother
        have hne : other.id ≠ slot.id := by
          intro hid
          exact hnodup.1 (hid ▸ List.mem_map_of_mem hother)
        rw [hgone, Function.update_of_ne hne]
        exact hlive.2 other hother
      rw [deleteEvicted_cons_of_ok hdelete, Outcome.state_after, Outcome.value_after,
        ih hsound' hnodup.2 hrest, refused_delete_ok hsound hdelete]
    | error cause =>
      have hrest : ∀ other ∈ evicted,
          live (SlotStore.delete slot.id store).state other.id ≠ none := by
        rw [delete_error hsound hdelete]
        exact hlive.2
      rw [deleteEvicted_cons_of_error hdelete, Outcome.state_after, Outcome.value_after,
        Outcome.state_map, Outcome.value_map, ih hsound' hnodup.2 hrest,
        refused_delete_error hsound hlive.1 hdelete, List.append_assoc]
      rfl

/-- A transaction that is not tracked has no slot. -/
theorem slotOf_of_not_contains {S : Type} {limbo : Limbo S} {tx : TxHash}
    (h : limbo.contains tx = false) : limbo.index.slotOf tx = none := by
  apply Std.ExtTreeMap.getElem?_eq_none
  intro hmem
  rw [contains, Index.contains, ← Bool.not_eq_true, Std.ExtTreeMap.contains_iff_mem] at h
  exact h hmem

namespace InOrder

variable {S : Type} [AccountableStore S] {fits : Sidecar → Prop} {limbo : Limbo S}
  {tx : TxHash} {block : UInt64} {sidecar : Sidecar} {id : SlotId}

/-- Taking an entry, whether or not it succeeds. -/
theorem take (h : InOrder fits limbo.store limbo.index) (hslot : limbo.index.slotOf tx = some id) :
    InOrder fits (take id limbo).state.store (take id limbo).state.index ∧
      ∀ entry, (Limbo.take id limbo).value = .ok entry →
        fits entry.sidecar ∧ (Limbo.take id limbo).state.index.slotOf tx = none := by
  obtain ⟨block, sidecar, hknown, hentry⟩ := h.accounted.slot_of_owner hslot
  have hsoundGet := sound_get id h.sound
  have hliveGet := live_get id h.sound
  have hrefusedGet := refused_get id h.sound
  have hlive : live (SlotStore.get id limbo.store).state id ≠ none := by
    rw [hliveGet]
    exact h.accounted.live_ne_none hknown
  have hsoundDelete := sound_delete id hsoundGet
  rcases take_cases h.sound hentry with
    ⟨cause, -, heffect⟩ | ⟨cause, hdelete, heffect⟩ | ⟨hdelete, heffect⟩
  · obtain ⟨hvalue, hstore, hindex⟩ := effect_eq_iff.mp heffect
    rw [hvalue, hstore, hindex]
    refine ⟨⟨hsoundGet, ?_, ?_⟩, by simp⟩
    · rw [hliveGet, hrefusedGet]
      exact h.accounted
    · rw [hliveGet]
      exact h.fitting
  · obtain ⟨hvalue, hstore, hindex⟩ := effect_eq_iff.mp heffect
    rw [hvalue, hstore, hindex]
    have hsame := delete_error hsoundGet hdelete
    refine ⟨⟨hsoundDelete, ?_, ?_⟩, by simp⟩
    · rw [hsame, hliveGet, refused_delete_error hsoundGet hlive hdelete, hrefusedGet]
      exact h.accounted.strand hknown
    · rw [hsame, hliveGet]
      exact h.fitting
  · obtain ⟨hvalue, hstore, hindex⟩ := effect_eq_iff.mp heffect
    rw [hvalue, hstore, hindex]
    obtain ⟨-, hgone⟩ := delete_ok hsoundGet hdelete
    rw [hliveGet] at hgone
    refine ⟨⟨hsoundDelete, ?_, ?_⟩, ?_⟩
    · rw [hgone, refused_delete_ok hsoundGet hdelete, hrefusedGet]
      exact h.accounted.drop hknown
    · rw [hgone]
      exact fun id' entry hentry' => h.fitting id' entry hentry'.of_update_none
    · rintro entry ⟨⟩
      exact ⟨h.fitting id _ hentry, h.accounted.consistent.slotOf_remove hknown⟩

/-- Storing an entry, whether or not it succeeds. -/
theorem insert (hreadable : Readable S fits) (h : InOrder fits limbo.store limbo.index)
    (huntracked : limbo.index.slotOf tx = none) (hsidecar : fits sidecar) :
    InOrder fits (insert ⟨tx, block, sidecar⟩ limbo).state.store
      (Limbo.insert ⟨tx, block, sidecar⟩ limbo).state.index := by
  have hsoundPut := sound_put (Entry.encode ⟨tx, block, sidecar⟩) h.sound
  have hrefusedPut := refused_put (Entry.encode ⟨tx, block, sidecar⟩) h.sound
  rcases insert_cases h.sound h.accounted huntracked
      (fun id hput => hreadable h.sound hsidecar hput) with
    ⟨cause, hput, heffect⟩ | ⟨id, next, hput, heffect, -, -, hentry, haccounted⟩
  · obtain ⟨-, hstore, hindex⟩ := effect_eq_iff.mp heffect
    rw [hstore, hindex]
    have hsame := put_error h.sound hput
    refine ⟨hsoundPut, ?_, ?_⟩
    · rw [hsame, hrefusedPut]
      exact h.accounted
    · rw [hsame]
      exact h.fitting
  · obtain ⟨-, hstore, hindex⟩ := effect_eq_iff.mp heffect
    rw [hstore, hindex]
    obtain ⟨-, hlive⟩ := put_ok h.sound hput
    refine ⟨hsoundPut, ?_, ?_⟩
    · rw [hrefusedPut]
      exact haccounted
    · intro id' entry hentry'
      by_cases hid : id' = id
      · subst hid
        rw [hentry.unique hentry']
        exact hsidecar
      · refine h.fitting id' entry (hentry'.congr ?_)
        rw [hlive, Function.update_of_ne hid]

/-- Pushing a transaction, whether or not it succeeds. -/
theorem push (hreadable : Readable S fits) (h : InOrder fits limbo.store limbo.index)
    (hsidecar : fits sidecar) :
    InOrder fits (push tx block sidecar limbo).state.store
      (Limbo.push tx block sidecar limbo).state.index := by
  cases htracked : limbo.contains tx with
  | true =>
    obtain ⟨-, hstore, hindex⟩ := effect_eq_iff.mp
      (effect_push_of_tracked block sidecar htracked)
    rw [hstore, hindex]
    exact h
  | false =>
    obtain ⟨-, hstore, hindex⟩ := effect_eq_iff.mp
      (effect_push_of_untracked block sidecar htracked)
    rw [hstore, hindex]
    exact h.insert hreadable (slotOf_of_not_contains htracked) hsidecar

/-- Pulling a transaction, whether or not it succeeds. -/
theorem pull (h : InOrder fits limbo.store limbo.index) :
    InOrder fits (pull tx limbo).state.store (Limbo.pull tx limbo).state.index := by
  cases hslot : limbo.index.slotOf tx with
  | none =>
    obtain ⟨-, hstore, hindex⟩ := effect_eq_iff.mp (effect_pull_of_untracked hslot)
    rw [hstore, hindex]
    exact h
  | some id =>
    obtain ⟨-, hstore, hindex⟩ := effect_eq_iff.mp (effect_pull_of_tracked hslot)
    rw [hstore, hindex]
    exact (h.take hslot).1

/-- Moving a transaction to another block, whether or not it succeeds. -/
theorem update (hreadable : Readable S fits) (h : InOrder fits limbo.store limbo.index) :
    InOrder fits (update tx block limbo).state.store (Limbo.update tx block limbo).state.index := by
  cases hslot : limbo.index.slotOf tx with
  | none =>
    obtain ⟨-, hstore, hindex⟩ := effect_eq_iff.mp
      (effect_update_of_untracked block hslot)
    rw [hstore, hindex]
    exact h
  | some id =>
    by_cases hblock : (limbo.index.slot id).map Tracked.block = some block
    · obtain ⟨-, hstore, hindex⟩ := effect_eq_iff.mp (effect_update_of_unchanged hslot hblock)
      rw [hstore, hindex]
      exact h
    · obtain ⟨htaken, hafter⟩ := h.take hslot
      cases htake : (Limbo.take id limbo).value with
      | error cause =>
        obtain ⟨-, hstore, hindex⟩ := effect_eq_iff.mp
          (effect_update_of_untaken hslot hblock htake)
        rw [hstore, hindex]
        exact htaken
      | ok entry =>
        obtain ⟨hsidecar, huntracked⟩ := hafter entry htake
        obtain ⟨-, hstore, hindex⟩ := effect_eq_iff.mp
          (effect_update_of_taken hslot hblock htake)
        rw [hstore, hindex]
        exact htaken.insert hreadable huntracked hsidecar

/-- A sweep, whether or not it deletes every record. -/
theorem finalize (h : InOrder fits limbo.store limbo.index) (finalized : Option UInt64) :
    InOrder fits (finalize finalized limbo).state.store
      (Limbo.finalize finalized limbo).state.index := by
  cases finalized with
  | none => exact h
  | some finalized =>
    obtain ⟨-, hstore, hindex⟩ := effect_eq_iff.mp (effect_finalize_some limbo finalized)
    rw [hstore, hindex]
    have hnodup := h.accounted.consistent.grounded.nodup_evicted finalized
    have hevicted := h.accounted.live_of_evicted finalized
    obtain ⟨hsound, hsublist, hlive⟩ := deleteEvicted_spec h.sound hnodup
    refine ⟨hsound, ?_, ?_⟩
    · rw [refused_deleteEvicted h.sound hnodup hevicted]
      refine h.accounted.sweep finalized ?_ ?_
      · intro id hid
        exact List.mem_map.mp (hsublist.subset hid)
      · simpa only [List.mem_map] using hlive
    · rintro id entry ⟨data, hdata, hdecode⟩
      rw [hlive] at hdata
      split at hdata
      · simp at hdata
      · exact h.fitting id entry ⟨data, hdata, hdecode⟩

/-- Every call keeps a limbo in order. -/
theorem perform (hreadable : Readable S fits) (h : InOrder fits limbo.store limbo.index)
    {call : Call} (hcall : call.Fits fits) :
    InOrder fits (perform limbo call).state.store (Limbo.perform limbo call).state.index := by
  cases call with
  | push tx block sidecar => exact h.push hreadable hcall
  | pull tx => exact h.pull
  | update tx block => exact h.update hreadable
  | finalize finalized => exact h.finalize finalized

/-- Every run keeps a limbo in order. -/
theorem run (hreadable : Readable S fits) (h : InOrder fits limbo.store limbo.index)
    {calls : List Call} (hcalls : ∀ call ∈ calls, call.Fits fits) :
    InOrder fits (run limbo calls).state.store (Limbo.run limbo calls).state.index := by
  induction calls generalizing limbo with
  | nil => exact h
  | cons call calls ih =>
    rw [List.forall_mem_cons] at hcalls
    rw [state_run_cons]
    exact ih (h.perform hreadable hcalls.1) hcalls.2

end InOrder

end BlobLimbo.Limbo
