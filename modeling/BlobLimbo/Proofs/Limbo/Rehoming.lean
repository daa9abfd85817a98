import BlobLimbo.Proofs.Limbo.DiskRecovery
import BlobLimbo.Proofs.Limbo.FiniteMap
import BlobLimbo.Proofs.Store.Capacity

/-!
# Moving transactions on disk

Moving a transaction to another block deletes its entry and stores it anew, and the number of the
new block may take more bytes than that of the old one. The entry is stored if it still fits the
largest slots, which it does when its sidecar has a commitment and a proof for each blob
(`update_rehomes`). Otherwise it is lost (`update_loses_full_entry`).
-/

namespace BlobLimbo

open Std LawfulStore

section Holds

variable {S : Type} [ReliableStore S] {held : Holdings} {limbo : Limbo S} {tx : TxHash}
  {block : UInt64} {sidecar : Sidecar}

/-- A transaction that is held is tracked under its block, and pulling it gives its sidecar. -/
theorem Holds.reads (h : Holds held limbo.store limbo.index)
    (hheld : held[tx]? = some (block, sidecar)) :
    limbo.trackedBlock tx = some block ∧ (limbo.pull tx).value = .ok sidecar := by
  refine ⟨(h.blockOf_eq tx).trans ?_, ?_⟩
  · rw [Holdings.blockOf, hheld]
    rfl
  · have hpull : (limbo.perform (.pull tx)).value = (held.perform (.pull tx)).1 := h.pull.1
    simp only [Limbo.perform, Holdings.perform, hheld, Outcome.value_map,
      Limbo.Reply.pulled.injEq] at hpull
    exact hpull

/-- A transaction that is not held is not tracked. -/
theorem Holds.not_contains (h : Holds held limbo.store limbo.index) (hheld : held[tx]? = none) :
    limbo.contains tx = false := by
  rw [Limbo.contains, h.contains_eq, ExtTreeMap.contains_eq_isSome_getElem?, hheld]
  rfl

end Holds

namespace Limbo

open ShelfStore

variable {limbo : Limbo ShelfStore} {held : Holdings} {tx : TxHash} {source block : UInt64}
  {sidecar : Sidecar}

/-- The entry of a transaction that is held fits the largest slots. -/
theorem length_le_of_holds (h : Holds held limbo.store limbo.index)
    (hheld : held[tx]? = some (block, sidecar)) :
    (Entry.encode ⟨tx, block, sidecar⟩).length ≤ limbo.store.maxRecordSize := by
  obtain ⟨id, -, -, data, hdata, hdecode⟩ := h.slot_of_held hheld
  rw [← Entry.encode_of_decode hdecode]
  exact Intact.length_le_maxRecordSize h.sound hdata

/-- There is room for an entry that fits the largest slots, and memory can hold it. -/
theorem room_of_fits {store : ShelfStore} {entry : Entry} (hsound : Sound store)
    (hslots : ∀ shelf ∈ store.shelves, shelf.slots < 2 ^ 32)
    (hfits : (Entry.encode entry).length ≤ store.maxRecordSize) :
    (Entry.encode entry).length < 2 ^ 64 ∧ ReliableStore.Room store (Entry.encode entry) := by
  constructor
  · have hmax := store.maxRecordSize_lt
    omega
  · exact ⟨Entry.encode_ne_nil _, Intact.exists_fitting hsound hfits, hslots⟩

/-- An entry that fits the largest slots is moved. -/
theorem update_of_fits (h : Holds held limbo.store limbo.index)
    (hheld : held[tx]? = some (source, sidecar))
    (hslots : ∀ shelf ∈ limbo.store.shelves, shelf.slots < 2 ^ 32)
    (hfits : (Entry.encode ⟨tx, block, sidecar⟩).length ≤ limbo.store.maxRecordSize) :
    (update tx block limbo).value =
        .ok (if source = block then .unchanged else .moved source block) ∧
      (update tx block limbo).state.trackedBlock tx = some block ∧
      (pull tx (update tx block limbo).state).value = .ok sidecar := by
  have hentry : ∀ source' sidecar', held[tx]? = some (source', sidecar') → sidecar' = sidecar := by
    intro source' sidecar' hheld'
    rw [hheld, Option.some.injEq, Prod.mk.injEq] at hheld'
    exact hheld'.2.symm
  obtain ⟨hlength, hroom⟩ := room_of_fits h.sound hslots hfits
  have hupdate : (limbo.perform (.update tx block)).value =
      (held.perform (.update tx block)).1 ∧ Holds (held.perform (.update tx block)).2
        (limbo.perform (.update tx block)).state.store
        (limbo.perform (.update tx block)).state.index :=
    h.update (fun _ _ hheld' => hentry _ _ hheld' ▸ hlength)
      (fun _ _ hheld' => hentry _ _ hheld' ▸ hroom)
  obtain ⟨hvalue, hholds⟩ := hupdate
  simp only [perform, Holdings.perform, hheld, Outcome.value_map] at hvalue
  simp only [perform, Holdings.perform, hheld, Outcome.state_map] at hholds
  by_cases hsame : source = block
  · subst hsame
    simp only [if_true, Reply.updated.injEq] at hvalue hholds ⊢
    exact ⟨hvalue, hholds.reads hheld⟩
  · simp only [if_neg hsame, Reply.updated.injEq] at hvalue hholds ⊢
    exact ⟨hvalue, hholds.reads ExtTreeMap.getElem?_insert_self⟩

/-- An entry that no longer fits the largest slots is lost. -/
theorem update_of_long (h : Holds held limbo.store limbo.index)
    (hheld : held[tx]? = some (source, sidecar))
    (hlong : limbo.store.maxRecordSize < (Entry.encode ⟨tx, block, sidecar⟩).length) :
    (update tx block limbo).value = .error (.store (.recordTooLarge
        (Entry.encode ⟨tx, block, sidecar⟩).length limbo.store.maxRecordSize)) ∧
      (update tx block limbo).state.contains tx = false := by
  have hne : source ≠ block := by
    rintro rfl
    exact absurd (length_le_of_holds h hheld) (Nat.not_le.mpr hlong)
  obtain ⟨id, hslot, hknown, -⟩ := h.slot_of_held hheld
  have hblock : (limbo.index.slot id).map Tracked.block ≠ some block := by
    rw [Index.slot, hknown]
    simpa using hne
  obtain ⟨htake, htaken, -⟩ := h.take hheld hslot
  have hopenAt : OpenAt limbo.store.path limbo.store.slotSizes (take id limbo).state.store :=
    ((upkeep_openAt _ _).take id limbo
      ⟨⟨h.sound, rfl, rfl⟩, Intact.slotsWithin h.sound⟩).1
  have hmax := maxRecordSize_congr hopenAt.sizes_eq
  rw [← hmax] at hlong ⊢
  have hput := hopenAt.intact.put_of_long hlong
  have hinsert : effect (insert ⟨tx, block, sidecar⟩ (take id limbo).state) = _ :=
    effect_insert_of_refused (congrArg Outcome.value hput)
  obtain ⟨hrefused, hstore, hindex⟩ := effect_eq_iff.mp hinsert
  obtain ⟨hvalue, hstore', hindex'⟩ := effect_eq_iff.mp (effect_update_of_taken hslot hblock htake)
  dsimp only at hvalue hstore' hindex'
  rw [hrefused] at hvalue
  refine ⟨hvalue, ?_⟩
  have hlost : (update tx block limbo).state.index = (take id limbo).state.index :=
    hindex'.trans hindex
  rw [contains, hlost]
  exact htaken.not_contains ExtTreeMap.getElem?_erase_self

/-- An entry that fits the largest slots is stored. -/
theorem push_of_fits (h : Holds held limbo.store limbo.index) (hheld : held[tx]? = none)
    (hslots : ∀ shelf ∈ limbo.store.shelves, shelf.slots < 2 ^ 32)
    (hfits : (Entry.encode ⟨tx, block, sidecar⟩).length ≤ limbo.store.maxRecordSize) :
    Holds (held.insert tx (block, sidecar)) (push tx block sidecar limbo).state.store
      (push tx block sidecar limbo).state.index := by
  obtain ⟨hlength, hroom⟩ := room_of_fits h.sound hslots hfits
  have hpush := (h.push hlength hroom).2
  have habsent : tx ∉ held := by
    rw [ExtTreeMap.mem_iff_isSome_getElem?, hheld]
    simp
  simp only [perform, Holdings.perform, if_neg habsent, Outcome.state_map] at hpush
  exact hpush

/-- The entry of a sidecar with a commitment and a proof for each blob fits the largest slots under
every block, if it fits them under one. -/
theorem length_le_of_lengths {path : String} {maxBlobs : UInt32} {sizes : List UInt32}
    {store : ShelfStore} (hsizes : Layout.slotSizes maxBlobs = .ok sizes)
    (hopenAt : OpenAt path sizes store)
    (hcommitments : sidecar.commitments.length = sidecar.blobs.length)
    (hproofs : sidecar.proofs.length = sidecar.blobs.length)
    (hfits : (Entry.encode ⟨tx, source, sidecar⟩).length ≤ store.maxRecordSize) :
    (Entry.encode ⟨tx, block, sidecar⟩).length ≤ store.maxRecordSize := by
  obtain ⟨last, hmem, hlast, hothers⟩ := hopenAt.intact.exists_last
  have hheader : slotHeaderSize = 4 := rfl
  have hcapacity : ∀ shelf : OpenShelf, shelf.capacity = shelf.slotSize.toNat - slotHeaderSize :=
    fun _ => rfl
  have hsizeOf : ∀ shelf ∈ store.shelves, shelf.slotSize ∈ sizes := by
    rw [← hopenAt.sizes_eq]
    exact fun shelf => List.mem_map_of_mem
  have hlower : sidecar.blobs.length * Layout.perBlob.toNat <
      (Entry.encode ⟨tx, source, sidecar⟩).length :=
    Entry.lt_length_encode_of_lengths rfl hcommitments hproofs
  have hupper : (Entry.encode ⟨tx, block, sidecar⟩).length ≤
      78 + sidecar.blobs.length * Layout.perBlob.toNat :=
    Entry.length_encode_le_of_lengths rfl hcommitments hproofs
  have hlargest := Layout.toNat_le_of_mem hsizes (hsizeOf last hmem)
  have hperBlob : Layout.perBlob.toNat = 131174 := by decide
  rw [hperBlob] at hlower hupper hlargest
  have hblobs : sidecar.blobs.length ≤ maxBlobs.toNat := by
    have hcap := hcapacity last
    omega
  obtain ⟨size, hsize, hroomy⟩ := Layout.exists_slotSize hsizes (List.ne_nil_of_mem
    (hsizeOf last hmem)) hblobs
  rw [hperBlob] at hroomy
  rw [← hopenAt.sizes_eq] at hsize
  obtain ⟨shelf, hshelf, rfl⟩ := List.mem_map.mp hsize
  have hle := hothers shelf hshelf
  have hcap := hcapacity shelf
  omega

/-- What becomes of a transaction that is moved to another block: it is tracked there with its
sidecar if its entry fits the largest slots, and lost otherwise. Its entry fits if the sidecar has a
commitment and a proof for each blob, or if the number of the block takes no more bytes than that of
the old one. -/
structure Rehomes (before : Limbo ShelfStore) (tx : TxHash) (source block : UInt64)
    (sidecar : Sidecar) : Prop where
  moved : (Entry.encode ⟨tx, block, sidecar⟩).length ≤ before.store.maxRecordSize →
    (update tx block before).value =
        .ok (if source = block then .unchanged else .moved source block) ∧
      (update tx block before).state.trackedBlock tx = some block ∧
      (pull tx (update tx block before).state).value = .ok sidecar
  lost : before.store.maxRecordSize < (Entry.encode ⟨tx, block, sidecar⟩).length →
    (update tx block before).value = .error (.store (.recordTooLarge
        (Entry.encode ⟨tx, block, sidecar⟩).length before.store.maxRecordSize)) ∧
      (update tx block before).state.contains tx = false
  fits_of_lengths : sidecar.commitments.length = sidecar.blobs.length →
    sidecar.proofs.length = sidecar.blobs.length →
    (Entry.encode ⟨tx, block, sidecar⟩).length ≤ before.store.maxRecordSize
  fits_of_block : (Rlp.encodeUInt64 block).length ≤ (Rlp.encodeUInt64 source).length →
    (Entry.encode ⟨tx, block, sidecar⟩).length ≤ before.store.maxRecordSize

/-- **Moving to another block.** Take any disk on which a limbo can be opened, whatever bytes its
shelf files hold, and let the limbo go through any calls. While its slots can be numbered, a tracked
transaction that is moved to a block is tracked there with its sidecar, unless its entry outgrows
the largest slots. -/
theorem update_rehomes {config : LimboConfig} {ledger : Metrics.Ledger} {disk : Disk}
    (hslots : NumberableAt config disk)
    (hopen : (openOnDisk config ledger disk).value = .ok limbo) (calls : List Call)
    (hnumbers : ∀ shelf ∈ (limbo.run calls).state.store.shelves, shelf.slots < 2 ^ 32)
    (htracked : (limbo.run calls).state.contains tx = true) (block : UInt64) :
    let before := (limbo.run calls).state
    ∃ source sidecar, before.trackedBlock tx = some source ∧
      (pull tx before).value = .ok sidecar ∧ Rehomes before tx source block sidecar := by
  intro before
  obtain ⟨sizes, hsizes, hopenAt, haccounted⟩ := openOnDisk_run hslots hopen calls
  obtain ⟨held, hholds⟩ := Holds.exists_of_accounted hopenAt.intact trivial haccounted
  obtain ⟨⟨source, sidecar⟩, hheld⟩ : ∃ entry, held[tx]? = some entry := by
    rw [← Option.isSome_iff_exists, ← ExtTreeMap.contains_eq_isSome_getElem?,
      ← hholds.contains_eq]
    exact htracked
  obtain ⟨hblock, hpull⟩ := hholds.reads hheld
  have hfits := length_le_of_holds hholds hheld
  refine ⟨source, sidecar, hblock, hpull, update_of_fits hholds hheld hnumbers,
    update_of_long hholds hheld, fun hcommitments hproofs => ?_, fun hshorter => ?_⟩
  · exact length_le_of_lengths hsizes hopenAt hcommitments hproofs hfits
  · have hmax : (limbo.run calls).state.store.maxRecordSize < 2 ^ 32 := maxRecordSize_lt _
    exact Nat.le_trans (Entry.length_encode_mono hshorter (by omega)) hfits

theorem numberableAt_emptyDisk (config : LimboConfig) : NumberableAt config {} := by
  intro sizes _ slotSize _ content hcontent
  simp [Disk.content?_empty] at hcontent

theorem slotSizes_four :
    Layout.slotSizes 4 = .ok [132198, 263372, 394546, 525720] := by decide +kernel

theorem openableAt_emptyDisk : OpenableAt { maxBlobsPerTx := 4 } {} := by
  intro sizes hsizes
  obtain rfl := Except.ok.inj (slotSizes_four.symm.trans hsizes)
  refine ⟨by decide +kernel, ?_⟩
  rw [List.forall_mem_cons, List.forall_mem_cons, List.forall_mem_cons, List.forall_mem_singleton]
  exact ⟨⟨⟨["limbo", "shelf-00132198.dat"], 0⟩, by decide +kernel⟩,
    ⟨⟨["limbo", "shelf-00263372.dat"], 0⟩, by decide +kernel⟩,
    ⟨⟨["limbo", "shelf-00394546.dat"], 0⟩, by decide +kernel⟩,
    ⟨⟨["limbo", "shelf-00525720.dat"], 0⟩, by decide +kernel⟩⟩

/-- A limbo for four blobs on an empty disk has no slots, and holds nothing. -/
theorem openOnDisk_emptyDisk : ∃ limbo,
    (openOnDisk { maxBlobsPerTx := 4 } {} {}).value = .ok limbo ∧
      Holds ∅ limbo.store limbo.index ∧ limbo.store.maxRecordSize = 525716 ∧
      SlotsWithin 0 limbo.store := by
  obtain ⟨limbo, sizes, hsizes, hopen, -, hkeeps, -⟩ := exists_openOnDisk (by decide) (by decide)
    (numberableAt_emptyDisk _) openableAt_emptyDisk {}
  obtain ⟨sizes', hsizes', hopenAt, haccounted⟩ := openOnDisk_spec (numberableAt_emptyDisk _) hopen
  obtain rfl := Except.ok.inj (slotSizes_four.symm.trans hsizes)
  obtain rfl := Except.ok.inj (slotSizes_four.symm.trans hsizes')
  have hnone : ∀ id, live limbo.store id = none := by
    intro id
    by_contra hlive
    obtain ⟨entry, ⟨data, hdata, -⟩, -⟩ := hkeeps.first id hlive
    rw [payloads_of_missing (fun _ _ => Disk.content?_empty _) hopenAt.header_lt] at hdata
    simp at hdata
  refine ⟨limbo, hopen, ⟨hopenAt.intact, trivial, haccounted, fun tx block sidecar => ?_⟩, ?_,
    hopenAt.intact.slotsWithin_zero hnone⟩
  · simp [EntryAt, hnone]
  · rw [maxRecordSize_eq, hopenAt.sizes_eq]
    decide

/-- A sidecar without blobs whose entry, under a block of one byte, fills a slot for four blobs. -/
def fullSidecar : Sidecar :=
  ⟨[], List.replicate 10728 (.replicate _ 0), []⟩

/-- The entry of the full sidecar grows with the number of its block. -/
theorem length_encode_fullSidecar (tx : TxHash) :
    (Entry.encode ⟨tx, 0, fullSidecar⟩).length = 525716 ∧
      (Entry.encode ⟨tx, 128, fullSidecar⟩).length = 525717 := by
  have hlists : Entry.sidecarLength fullSidecar = 525678 := by
    rw [Entry.sidecarLength, Rlp.length_encodeFixedList _ Rlp.length_encodeString_blob,
      Rlp.length_encodeFixedList _ Rlp.length_encodeString_commitment,
      Rlp.length_encodeFixedList _ Rlp.length_encodeString_commitment]
    simp only [fullSidecar, List.length_replicate, List.length_nil]
    decide
  have hfirst : (Rlp.encodeUInt64 0).length = 1 := by decide
  have hsecond : (Rlp.encodeUInt64 128).length = 2 := by decide
  constructor
  · rw [Entry.length_encode, Entry.length_encodeFields, hlists, hfirst]
    decide
  · rw [Entry.length_encode, Entry.length_encodeFields, hlists, hsecond]
    decide

/-- A full entry is lost when it is moved from block `0` to block `128`. -/
theorem update_loses_full_entry :
    let tx : TxHash := .replicate 32 7
    ∃ limbo, (openOnDisk { maxBlobsPerTx := 4 } {} {}).value = .ok limbo ∧
      let before := (limbo.run [.push tx 0 fullSidecar]).state
      (∀ shelf ∈ before.store.shelves, shelf.slots < 2 ^ 32) ∧
        before.trackedBlock tx = some 0 ∧ (pull tx before).value = .ok fullSidecar ∧
        (update tx 128 before).value = .error (.store (.recordTooLarge 525717 525716)) ∧
        (update tx 128 before).state.contains tx = false := by
  intro tx
  obtain ⟨limbo, hopen, hholds, hmax, hwithin⟩ := openOnDisk_emptyDisk
  have hnumbers := slots_lt_of_run (numberableAt_emptyDisk _) hopen hwithin
    (by decide : 0 + [Call.push tx 0 fullSidecar].length < 2 ^ 32)
  obtain ⟨hfits, hlong⟩ := length_encode_fullSidecar tx
  have hpushed : Holds ((∅ : Holdings).insert tx (0, fullSidecar))
      (push tx 0 fullSidecar limbo).state.store (push tx 0 fullSidecar limbo).state.index :=
    push_of_fits hholds ExtTreeMap.getElem?_empty (hnumbers [] List.nil_prefix)
      (by rw [hfits, hmax])
  have hheld : ((∅ : Holdings).insert tx (0, fullSidecar))[tx]? = some (0, fullSidecar) :=
    ExtTreeMap.getElem?_insert_self
  obtain ⟨hblock, hpull⟩ := hpushed.reads hheld
  have hmax' : (push tx 0 fullSidecar limbo).state.store.maxRecordSize = 525716 := by
    have hkept := ((upkeep_openAt limbo.store.path limbo.store.slotSizes).push tx 0 fullSidecar
      limbo ⟨⟨hholds.sound, rfl, rfl⟩, Intact.slotsWithin hholds.sound⟩).1
    rw [maxRecordSize_congr hkept.sizes_eq, hmax]
  obtain ⟨hvalue, hlost⟩ := update_of_long hpushed hheld (by rw [hlong, hmax']; decide)
  rw [hlong, hmax'] at hvalue
  exact ⟨limbo, hopen, hnumbers _ (List.prefix_refl _), hblock, hpull, hvalue, hlost⟩

/-- A transaction without blobs is moved from block `0` to block `128`. -/
theorem update_rehomes_empty_sidecar :
    let tx : TxHash := .replicate 32 7
    ∃ limbo, (openOnDisk { maxBlobsPerTx := 4 } {} {}).value = .ok limbo ∧
      let before := (limbo.run [.push tx 0 ⟨[], [], []⟩]).state
      ∃ source sidecar, before.trackedBlock tx = some source ∧
        (pull tx before).value = .ok sidecar ∧ Rehomes before tx source 128 sidecar := by
  intro tx
  obtain ⟨limbo, hopen, hholds, hmax, hwithin⟩ := openOnDisk_emptyDisk
  have hnumbers := slots_lt_of_run (numberableAt_emptyDisk _) hopen hwithin
    (by decide : 0 + [Call.push tx 0 ⟨[], [], []⟩].length < 2 ^ 32)
  have hpushed : Holds ((∅ : Holdings).insert tx (0, ⟨[], [], []⟩))
      (push tx 0 ⟨[], [], []⟩ limbo).state.store (push tx 0 ⟨[], [], []⟩ limbo).state.index := by
    refine push_of_fits hholds ExtTreeMap.getElem?_empty (hnumbers [] List.nil_prefix) ?_
    rw [hmax]
    decide +kernel
  have htracked : (limbo.run [.push tx 0 ⟨[], [], []⟩]).state.contains tx = true := by
    change (push tx 0 ⟨[], [], []⟩ limbo).state.index.contains tx = true
    rw [hpushed.contains_eq]
    exact ExtTreeMap.contains_insert_self
  exact ⟨limbo, hopen, update_rehomes (numberableAt_emptyDisk _) hopen _
    (hnumbers _ (List.prefix_refl _)) htracked 128⟩

end Limbo

end BlobLimbo
