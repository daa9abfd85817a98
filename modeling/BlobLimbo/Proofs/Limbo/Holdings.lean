import BlobLimbo.Proofs.Limbo.Run

/-!
# What a limbo is for

Told without slots and records, a limbo is a finite map from transactions to their block and
sidecar. `Holdings.perform` says what each call does to this map and what it replies.
-/

namespace BlobLimbo

open Std

/-- The block and the sidecar of each transaction that is held. -/
abbrev Holdings := ExtTreeMap TxHash (UInt64 × Sidecar)

namespace Holdings

open Limbo

/-- What is held at or below a block. -/
def final (held : Holdings) (finalized : UInt64) : Holdings :=
  held.filter fun _ entry => entry.1 ≤ finalized

/-- What is held above a block. -/
def pending (held : Holdings) (finalized : UInt64) : Holdings :=
  held.filter fun _ entry => finalized < entry.1

/-- What a call replies, and what is held after it. -/
def perform (held : Holdings) : Call → Reply × Holdings
  | .push tx block sidecar =>
    if tx ∈ held then (.pushed (.error (.alreadyTracked tx)), held)
    else (.pushed (.ok ()), held.insert tx (block, sidecar))
  | .pull tx =>
    match held[tx]? with
    | none => (.pulled (.error (.notTracked tx)), held)
    | some (_, sidecar) => (.pulled (.ok sidecar), held.erase tx)
  | .update tx block =>
    match held[tx]? with
    | none => (.updated (.ok .untracked), held)
    | some (source, sidecar) =>
      if source = block then (.updated (.ok .unchanged), held)
      else (.updated (.ok (.moved source block)), held.insert tx (block, sidecar))
  | .finalize none => (.finalized .noFinalizedBlock, held)
  | .finalize (some finalized) =>
    (.finalized (.swept (held.final finalized).size []), held.pending finalized)

/-- What some calls reply, and what is held after them. -/
def run (held : Holdings) : List Call → List Reply × Holdings
  | [] => ([], held)
  | call :: calls =>
    let (reply, next) := held.perform call
    let (replies, last) := next.run calls
    (reply :: replies, last)

/-- The block a transaction is held under. -/
def blockOf (held : Holdings) (tx : TxHash) : Option UInt64 :=
  held[tx]?.map Prod.fst

/-- The blocks under which something is held. -/
def blocks (held : Holdings) : ExtTreeSet UInt64 :=
  .ofList (held.toList.map fun held => held.2.1)

/-- The number of transactions held under each block, lowest block first. -/
def groupSizes (held : Holdings) : List (UInt64 × Nat) :=
  held.blocks.toList.map fun block => (block, (held.filter fun _ entry => entry.1 = block).size)

/-- What is kept after moving a transaction is what was held, but for the transaction. -/
theorem insert_erase (held : Holdings) (tx : TxHash) (entry : UInt64 × Sidecar) :
    (held.erase tx).insert tx entry = held.insert tx entry := by
  apply ExtTreeMap.ext_getElem?
  intro tx'
  simp only [ExtTreeMap.getElem?_insert, ExtTreeMap.getElem?_erase]
  split <;> rfl

/-- What is held at or below a block. -/
theorem getElem?_final {held : Holdings} {finalized : UInt64} {tx : TxHash}
    {entry : UInt64 × Sidecar} :
    (held.final finalized)[tx]? = some entry ↔ held[tx]? = some entry ∧ entry.1 ≤ finalized := by
  rw [final, ExtTreeMap.getElem?_filter', Option.filter_eq_some_iff, decide_eq_true_iff]

/-- What is held above a block. -/
theorem getElem?_pending {held : Holdings} {finalized : UInt64} {tx : TxHash}
    {entry : UInt64 × Sidecar} :
    (held.pending finalized)[tx]? = some entry ↔ held[tx]? = some entry ∧ finalized < entry.1 := by
  rw [pending, ExtTreeMap.getElem?_filter', Option.filter_eq_some_iff, decide_eq_true_iff]

/-- Something is held under each of the blocks. -/
theorem mem_blocks {held : Holdings} {block : UInt64} :
    block ∈ held.blocks ↔
      ∃ (tx : TxHash) (sidecar : Sidecar), held[tx]? = some (block, sidecar) := by
  rw [blocks, ExtTreeSet.mem_ofList, List.contains_iff_mem, List.mem_map]
  constructor
  · rintro ⟨⟨tx, block, sidecar⟩, hmem, rfl⟩
    exact ⟨tx, sidecar, ExtTreeMap.mem_toList_iff_getElem?_eq_some.mp hmem⟩
  · rintro ⟨tx, sidecar, hheld⟩
    exact ⟨(tx, block, sidecar), ExtTreeMap.mem_toList_iff_getElem?_eq_some.mpr hheld, rfl⟩

/-- No block is listed twice. -/
theorem nodup_blocks (held : Holdings) : held.blocks.toList.Nodup :=
  ExtTreeSet.ordered_toList.imp fun hlt heq => by
    subst heq
    exact UInt64.lt_irrefl _ (Std.compare_eq_lt.mp hlt)

/-- Every sidecar that is held is of the given kind. -/
def Fits (fits : Sidecar → Prop) (held : Holdings) : Prop :=
  ∀ (tx : TxHash) (block : UInt64) (sidecar : Sidecar), held[tx]? = some (block, sidecar) →
    fits sidecar

/-- Where nothing is held, no sidecar is of another kind. -/
theorem Fits.empty {fits : Sidecar → Prop} : Fits fits ∅ := by
  intro tx block sidecar hheld
  simp at hheld

/-- Sidecars of a kind stay of this kind while only such are pushed. -/
theorem Fits.perform {fits : Sidecar → Prop} {held : Holdings} (h : held.Fits fits) {call : Call}
    (hcall : call.Fits fits) : (held.perform call).2.Fits fits := by
  have hinsert : ∀ (tx : TxHash) (block : UInt64) (sidecar : Sidecar), fits sidecar →
      Fits fits (held.insert tx (block, sidecar)) := by
    intro tx block sidecar hsidecar tx' block' sidecar' hheld
    rw [ExtTreeMap.getElem?_insert] at hheld
    split at hheld
    · simp only [Option.some.injEq, Prod.mk.injEq] at hheld
      rwa [← hheld.2]
    · exact h tx' block' sidecar' hheld
  cases call with
  | push tx block sidecar =>
    simp only [Holdings.perform]
    split
    · exact h
    · exact hinsert tx block sidecar hcall
  | pull tx =>
    simp only [Holdings.perform]
    split
    · exact h
    · intro tx' block' sidecar' hheld
      rw [ExtTreeMap.getElem?_erase] at hheld
      split at hheld
      · simp at hheld
      · exact h tx' block' sidecar' hheld
  | update tx block =>
    simp only [Holdings.perform]
    split
    · exact h
    · rename_i source sidecar hheld
      split
      · exact h
      · exact hinsert tx block sidecar (h tx source sidecar hheld)
  | finalize finalized =>
    cases finalized with
    | none => exact h
    | some finalized =>
      intro tx block sidecar hheld
      exact h tx block sidecar (getElem?_pending.mp hheld).1

end Holdings

end BlobLimbo
