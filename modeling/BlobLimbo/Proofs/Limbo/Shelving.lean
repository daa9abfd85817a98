import BlobLimbo.Proofs.Limbo.Resizing
import BlobLimbo.Proofs.Store.Shelving

/-!
# A limbo has one shelf for each number of blobs

What a limbo stores lies on the shelf for the number of its blobs. A push is never refused because
an entry is too long, only because its shelf is full. Moving a transaction to another block frees a
slot of the shelf before its new entry is stored there, so it always succeeds, and the transaction
stays on the shelf (`openOnDisk_shelves`).
-/

namespace BlobLimbo.Limbo

open Std LawfulStore ShelfStore

variable {config : LimboConfig} {ledger : Metrics.Ledger} {disk : Disk}
  {limbo : Limbo ShelfStore} {path : String} {sizes : List UInt32} {maxBlobs : UInt32}
  {tx : TxHash} {source block : UInt64} {sidecar : Sidecar} {n : Nat} {id : SlotId}

/-- What a limbo with a shelf for `n` blobs does with the transactions of `n` blobs. -/
structure KeepsShelf (n : Nat) (limbo : Limbo ShelfStore) : Prop where
  /-- One that is not tracked is kept on the shelf, if that is not full. -/
  pushed : ∀ tx block sidecar, sidecar.OfBlobs n → limbo.contains tx = false →
    ¬Full limbo.store (Layout.shelfNumber n) →
      (push tx block sidecar limbo).value = .ok () ∧
        ∃ id, shelfOf id = Layout.shelfNumber n ∧
          HeldIn (push tx block sidecar limbo).state id tx block sidecar
  /-- If the shelf is full, it is refused for that. -/
  full : ∀ tx block sidecar, sidecar.OfBlobs n → limbo.contains tx = false →
    Full limbo.store (Layout.shelfNumber n) →
      ∃ size, (push tx block sidecar limbo).value = .error (.store (.shelfFull size))
  /-- No entry is refused for its length. -/
  fits : ∀ tx block sidecar, sidecar.OfBlobs n → ∀ length maxLength,
    (push tx block sidecar limbo).value ≠ .error (.store (.recordTooLarge length maxLength))
  /-- One on the shelf can be moved to any block, even if the shelf is full, and stays there. -/
  moved : ∀ id tx source sidecar, sidecar.OfBlobs n → HeldIn limbo id tx source sidecar →
    shelfOf id = Layout.shelfNumber n → ∀ block,
      (update tx block limbo).value =
          .ok (if source = block then .unchanged else .moved source block) ∧
        ∃ id', shelfOf id' = Layout.shelfNumber n ∧
          HeldIn (update tx block limbo).state id' tx block sidecar
  /-- If the limbo has stored every record itself, each is on the shelf. -/
  settled : Placed limbo.store → ∀ id tx block sidecar, sidecar.OfBlobs n →
    HeldIn limbo id tx block sidecar → shelfOf id = Layout.shelfNumber n

/-- What is held is told by index and store. -/
theorem HeldIn.of_effect {α : Type} {outcome : Outcome (Limbo ShelfStore) α} {value : α}
    (h : HeldIn limbo id tx block sidecar)
    (heffect : effect outcome = (value, limbo.store, limbo.index)) :
    HeldIn outcome.state id tx block sidecar := by
  obtain ⟨-, hstore, hindex⟩ := effect_eq_iff.mp heffect
  obtain ⟨hslot, htracked, hentry⟩ := h
  refine ⟨hindex ▸ hslot, ?_, hstore ▸ hentry⟩
  rwa [trackedBlock, hindex]

section Shelf

variable (hopenAt : OpenAt path sizes limbo.store) (husable : Layout.Usable maxBlobs sizes)
  (hpos : 0 < maxBlobs) (hn : n ≤ maxBlobs.toNat) (hblobs : sidecar.OfBlobs n)
  (haccounted : Accounted limbo.index (live limbo.store) [])

include hopenAt husable hpos hn hblobs

/-- An entry is not stored when its shelf is full. -/
theorem insert_of_full (hfull : Full limbo.store (Layout.shelfNumber n)) (block : UInt64) :
    ∃ size, (insert ⟨tx, block, sidecar⟩ limbo).value = .error (.store (.shelfFull size)) := by
  have hshelves : Shelves maxBlobs limbo.store ⟨tx, block, sidecar⟩ n :=
    hopenAt.shelves husable hpos hblobs
  obtain ⟨size, hput⟩ := hshelves.full hn hfull
  have hrefused : effect (insert ⟨tx, block, sidecar⟩ limbo) = _ :=
    effect_insert_of_refused (congrArg Outcome.value hput)
  exact ⟨size, (effect_eq_iff.mp hrefused).1⟩

/-- An untracked transaction is not kept when its shelf is full. -/
theorem push_of_full (huntracked : limbo.contains tx = false)
    (hfull : Full limbo.store (Layout.shelfNumber n)) (block : UInt64) :
    ∃ size, (push tx block sidecar limbo).value = .error (.store (.shelfFull size)) := by
  obtain ⟨size, hvalue⟩ := insert_of_full hopenAt husable hpos hn hblobs hfull block
  have heffect := effect_push_of_untracked block sidecar huntracked
  exact ⟨size, (effect_eq_iff.mp heffect).1.trans hvalue⟩

include haccounted

/-- An entry is stored on its shelf and registered, if the shelf is not full. -/
theorem insert_of_not_full (howner : limbo.index.slotOf tx = none)
    (hfree : ¬Full limbo.store (Layout.shelfNumber n)) (block : UInt64) :
    (insert ⟨tx, block, sidecar⟩ limbo).value = .ok () ∧
      ∃ id, shelfOf id = Layout.shelfNumber n ∧
        HeldIn (insert ⟨tx, block, sidecar⟩ limbo).state id tx block sidecar := by
  have hshelves : Shelves maxBlobs limbo.store ⟨tx, block, sidecar⟩ n :=
    hopenAt.shelves husable hpos hblobs
  obtain ⟨id, hput, hshelf, -⟩ := hshelves.stored hn hfree
  rcases insert_cases hopenAt.intact haccounted howner
    (fun _ hput => readable hopenAt.intact trivial hput) with
    ⟨cause, hfailed, -⟩ | ⟨id', next, hput', heffect, -, hslots, hentry, haccounted'⟩
  · cases hput.symm.trans hfailed
  · obtain rfl : id' = id := Except.ok.inj (hput'.symm.trans hput)
    obtain ⟨hvalue, hstore, hindex⟩ := effect_eq_iff.mp heffect
    have hknown : next.slots[id']? = some ⟨tx, block⟩ := by
      rw [hslots, ExtTreeMap.getElem?_insert_self]
    have hslot : next.slotOf tx = some id' :=
      (haccounted'.consistent.owner_iff tx id').mpr ⟨block, hknown⟩
    rw [← hindex] at hknown hslot
    rw [← hstore] at hentry
    exact ⟨hvalue, id', hshelf, .of_slot hslot hknown hentry⟩

/-- An untracked transaction is kept on its shelf, if the shelf is not full. -/
theorem push_of_not_full (huntracked : limbo.contains tx = false)
    (hfree : ¬Full limbo.store (Layout.shelfNumber n)) (block : UInt64) :
    (push tx block sidecar limbo).value = .ok () ∧
      ∃ id, shelfOf id = Layout.shelfNumber n ∧
        HeldIn (push tx block sidecar limbo).state id tx block sidecar := by
  obtain ⟨hvalue, id, hshelf, hheld⟩ := insert_of_not_full hopenAt husable hpos hn hblobs
    haccounted (slotOf_of_not_contains huntracked) hfree block
  have heffect := effect_push_of_untracked block sidecar huntracked
  exact ⟨(effect_eq_iff.mp heffect).1.trans hvalue, id, hshelf, hheld.of_effect heffect⟩

/-- A transaction is not refused for the length of its entry. -/
theorem push_fits (tx : TxHash) (block : UInt64) (length maxLength : Nat) :
    (push tx block sidecar limbo).value ≠ .error (.store (.recordTooLarge length maxLength)) := by
  intro hlong
  cases hcontains : limbo.contains tx with
  | true =>
    have heffect := effect_push_of_tracked block sidecar hcontains
    simp [(effect_eq_iff.mp heffect).1] at hlong
  | false =>
    by_cases hfull : Full limbo.store (Layout.shelfNumber n)
    · obtain ⟨size, hvalue⟩ := push_of_full hopenAt husable hpos hn hblobs hcontains hfull block
      simp [hvalue] at hlong
    · obtain ⟨hvalue, -⟩ :=
        push_of_not_full hopenAt husable hpos hn hblobs haccounted hcontains hfull block
      simp [hvalue] at hlong

/-- A transaction on its shelf is moved to a block. -/
theorem update_of_shelf (hheld : HeldIn limbo id tx source sidecar)
    (hshelf : shelfOf id = Layout.shelfNumber n) (block : UInt64) :
    (update tx block limbo).value =
        .ok (if source = block then .unchanged else .moved source block) ∧
      ∃ id', shelfOf id' = Layout.shelfNumber n ∧
        HeldIn (update tx block limbo).state id' tx block sidecar := by
  have htracked : (limbo.index.slot id).map Tracked.block = some source := by
    have htracked := hheld.tracked
    rwa [trackedBlock, hheld.slot, Option.bind_some] at htracked
  by_cases hsame : source = block
  · subst hsame
    have heffect := effect_update_of_unchanged hheld.slot htracked
    exact ⟨by rw [if_pos rfl, (effect_eq_iff.mp heffect).1], id, hshelf, hheld.of_effect heffect⟩
  · have hblock : (limbo.index.slot id).map Tracked.block ≠ some block := by
      simpa [htracked] using hsame
    obtain ⟨source', hknown⟩ := (haccounted.consistent.owner_iff tx id).mp hheld.slot
    obtain rfl : source' = source := by simpa [Index.slot, hknown] using htracked
    obtain ⟨htake, hindex, -, -, hlive, -⟩ := take_of_calm hopenAt.intact trivial hheld.entryAt
    -- the slot the entry was in is free when the entry is stored again
    have hopenAt' : OpenAt path sizes (take id limbo).state.store :=
      ((upkeep_openAt path sizes).take id limbo ⟨hopenAt, hopenAt.intact.slotsWithin⟩).1
    have haccounted' : Accounted (take id limbo).state.index
        (live (take id limbo).state.store) [] := by
      rw [hindex, hlive]
      exact haccounted.drop hknown
    have howner : (take id limbo).state.index.slotOf tx = none := by
      rw [hindex]
      exact haccounted.consistent.slotOf_remove hknown
    have hnone : (take id limbo).state.store.record? id = none := by
      change live (take id limbo).state.store id = none
      rw [hlive, Function.update_self]
    have hfree := not_full_of_record?_eq_none hnone
    rw [hshelf] at hfree
    obtain ⟨hvalue, id', hshelf', hheld'⟩ :=
      insert_of_not_full hopenAt' husable hpos hn hblobs haccounted' howner hfree block
    have heffect := effect_update_of_taken hheld.slot hblock htake
    refine ⟨?_, id', hshelf', hheld'.of_effect heffect⟩
    rw [(effect_eq_iff.mp heffect).1, hvalue, if_neg hsame]
    rfl

end Shelf

/-- A limbo whose index accounts for its store keeps to the shelves. -/
theorem keepsShelf (hopenAt : OpenAt path sizes limbo.store)
    (husable : Layout.Usable maxBlobs sizes) (hpos : 0 < maxBlobs) (hn : n ≤ maxBlobs.toNat)
    (haccounted : Accounted limbo.index (live limbo.store) []) : KeepsShelf n limbo where
  pushed _ block _ hblobs huntracked hfree :=
    push_of_not_full hopenAt husable hpos hn hblobs haccounted huntracked hfree block
  full _ block _ hblobs huntracked hfull :=
    push_of_full hopenAt husable hpos hn hblobs huntracked hfull block
  fits tx block _ hblobs := push_fits hopenAt husable hpos hn hblobs haccounted tx block
  moved _ _ _ _ hblobs hheld hshelf :=
    update_of_shelf hopenAt husable hpos hn hblobs haccounted hheld hshelf
  settled hplaced id _ _ _ hblobs hheld := by
    obtain ⟨data, hdata, hdecode⟩ := hheld.entryAt
    rw [hplaced id data hdata, Entry.encode_of_decode hdecode]
    exact hopenAt.shelfFor_eq husable hblobs hpos hn

/-- A limbo has no records when it is opened in a directory without shelf files. -/
theorem NoShelfFiles.live_eq_none (h : NoShelfFiles config.datadir disk)
    (hpos : 0 < config.maxBlobsPerTx) (hlimit : config.maxBlobsPerTx ≤ Layout.maxBlobsLimit)
    (hopenable : OpenableAt config disk)
    (hopen : (openOnDisk config ledger disk).value = .ok limbo) (id : SlotId) :
    live limbo.store id = none := by
  obtain ⟨limbo', sizes, hsizes, hopen', -, hkeeps, -⟩ :=
    exists_openOnDisk hpos hlimit h.numberableAt hopenable ledger
  obtain rfl : limbo' = limbo := Except.ok.inj (hopen'.symm.trans hopen)
  obtain ⟨sizes', hsizes', hopenAt, -⟩ := openOnDisk_spec h.numberableAt hopen
  obtain rfl : sizes' = sizes := Except.ok.inj (hsizes'.symm.trans hsizes)
  by_contra hlive
  obtain ⟨entry, ⟨data, hdata, -⟩, -⟩ := hkeeps.first id hlive
  rw [payloads_of_missing (fun slotSize _ => h slotSize) hopenAt.header_lt] at hdata
  cases hdata

/-- **Every entry lands on the shelf for its blobs.** For every number of blobs a limbo may allow
there are as many slot sizes, none of which has wrapped around and which a store can be opened
with. A store with these slot sizes keeps an entry of `n` blobs on the shelf for `n` blobs, whatever
its owner, its block and its bytes are, and refuses those of more blobs than are allowed. So a limbo
never refuses a transaction of an allowed number of blobs for the length of its entry, and moving
one to another block leaves it on its shelf. -/
theorem openOnDisk_shelves (config : LimboConfig) (hpos : 0 < config.maxBlobsPerTx)
    (hlimit : config.maxBlobsPerTx ≤ Layout.maxBlobsLimit) :
    ∃ sizes, Layout.slotSizes config.maxBlobsPerTx = .ok sizes ∧
      Layout.Usable config.maxBlobsPerTx sizes ∧
      ShelvesByBlobs config.maxBlobsPerTx sizes ∧
      ∀ (ledger : Metrics.Ledger) (disk : Disk), NumberableAt config disk →
        OpenableAt config disk →
          ∃ limbo, (openOnDisk config ledger disk).value = .ok limbo ∧
            (NoShelfFiles config.datadir disk → Placed limbo.store) ∧
            ∀ calls : List Call,
              (Placed limbo.store → Placed (limbo.run calls).state.store) ∧
              ∀ n ≤ config.maxBlobsPerTx.toNat, KeepsShelf n (limbo.run calls).state := by
  obtain ⟨sizes, hsizes, husable⟩ := Layout.exists_usable hpos hlimit
  refine ⟨sizes, hsizes, husable, shelvesByBlobs husable hpos, ?_⟩
  intro ledger disk hslots hopenable
  obtain ⟨limbo, -, -, hopen, -⟩ := exists_openOnDisk hpos hlimit hslots hopenable ledger
  refine ⟨limbo, hopen, fun hmissing => ?_, fun calls => ⟨fun hplaced => ?_, fun n hn => ?_⟩⟩
  · exact placed_of_empty (hmissing.live_eq_none hpos hlimit hopenable hopen)
  · obtain ⟨sizes', -, hopenAt, -⟩ := openOnDisk_spec hslots hopen
    exact ((upkeep_placed config.datadir sizes').run (n := 0) ⟨hopenAt, hplaced⟩ calls).2
  · obtain ⟨sizes', hsizes', hopenAt, haccounted⟩ := openOnDisk_run hslots hopen calls
    obtain rfl : sizes' = sizes := Except.ok.inj (hsizes'.symm.trans hsizes)
    exact keepsShelf hopenAt husable hpos hn haccounted

/-- In a limbo for four blobs, a transaction of three blobs is kept on the third shelf, and stays
there when it is moved to the last block. -/
theorem openOnDisk_shelves_three_blobs :
    let tx : TxHash := .replicate 32 7
    let sidecar := Sidecar.filled 1 3
    ∃ limbo, (openOnDisk { maxBlobsPerTx := 4 } {} {}).value = .ok limbo ∧
      let pushed := push tx 0 sidecar limbo
      let moved := update tx 0xFFFFFFFFFFFFFFFF pushed.state
      pushed.value = .ok () ∧ moved.value = .ok (.moved 0 0xFFFFFFFFFFFFFFFF) ∧
        ∃ id, shelfOf id = 2 ∧ HeldIn moved.state id tx 0xFFFFFFFFFFFFFFFF sidecar := by
  intro tx sidecar
  have hmissing : NoShelfFiles (LimboConfig.datadir { maxBlobsPerTx := 4 }) {} :=
    fun _ => Disk.content?_empty _
  have hslots := hmissing.numberableAt
  have hblobs : sidecar.OfBlobs 3 := Sidecar.ofBlobs_filled 1 3
  obtain ⟨-, -, -, -, hopens⟩ :=
    openOnDisk_shelves { maxBlobsPerTx := 4 } (by decide) (by decide)
  obtain ⟨limbo, hopen, -, hruns⟩ := hopens {} {} hslots openableAt_emptyDisk
  have hnone := hmissing.live_eq_none (by decide) (by decide) openableAt_emptyDisk hopen
  obtain ⟨-, -, -, haccounted⟩ := openOnDisk_spec hslots hopen
  have huntracked : limbo.contains tx = false := by
    by_contra hcontains
    obtain ⟨id, block, sidecar', hheld⟩ :=
      exists_heldIn haccounted (Bool.eq_true_of_not_eq_false hcontains)
    obtain ⟨data, hdata, -⟩ := hheld.entryAt
    simp [hnone] at hdata
  have hfree : ¬Full limbo.store (Layout.shelfNumber 3) :=
    fun hfull => hfull 0 (by decide) (hnone _)
  obtain ⟨hpushed, id, hshelf, hheld⟩ :=
    ((hruns []).2 3 (by decide)).pushed tx 0 sidecar hblobs huntracked hfree
  have hafter : KeepsShelf 3 (push tx 0 sidecar limbo).state :=
    (hruns [.push tx 0 sidecar]).2 3 (by decide)
  obtain ⟨hmoved, id', hshelf', hheld'⟩ :=
    hafter.moved id tx 0 sidecar hblobs hheld hshelf 0xFFFFFFFFFFFFFFFF
  exact ⟨limbo, hopen, hpushed, hmoved, id', hshelf', hheld'⟩

end BlobLimbo.Limbo
