import BlobLimbo.Proofs.Shelf.Changes
import Mathlib.Data.List.Nodup

/-!
# Opening a shelf

Whatever a file holds, opening it as a shelf leaves a tidy shelf and lists its records
(`open_spec`). A file that a tidy shelf describes is left as it is, and the shelf is found again
(`open_of_laid`).
-/

namespace BlobLimbo.Shelf

open Std

variable {shelf : Shelf} {content : Bytes} {slot : Nat}

/-- A scan tells what each slot says. -/
theorem scan_eq (shelf : Shelf) (first count : Nat) (content : Bytes) :
    shelf.scan first count content =
      (List.range count).map fun slot => (first + slot, shelf.contentAt content slot) := by
  induction count generalizing first content with
  | zero => rfl
  | succ count ih =>
    rw [scan, ih, List.range_succ_eq_map, List.map_cons, List.map_map]
    have hfirst : content.take shelf.slotSize.toNat =
        content.region shelf.slotSize.toNat 0 := by
      rw [Bytes.region, Nat.zero_mul, List.drop_zero]
    rw [hfirst, List.cons.injEq]
    refine ⟨rfl, List.map_congr_left fun slot _ => ?_⟩
    have hregion : Bytes.region (content.drop shelf.slotSize.toNat) shelf.slotSize.toNat slot =
        content.region shelf.slotSize.toNat (slot + 1) := by
      rw [Bytes.region, Bytes.region, List.drop_drop, Nat.succ_mul, Nat.add_comm]
    simp only [contentAt, hregion, Function.comp_apply, Nat.add_right_comm first 1 slot,
      Nat.add_assoc, Nat.succ_eq_add_one]

/-- Clearing the headers of some slots frees these and changes no other. -/
theorem clearHeaders_spec (hheader : slotHeaderSize < shelf.slotSize.toNat)
    {slots : List (Nat × Nat)}
    (hslots : ∀ slot ∈ slots, (slot.1 + 1) * shelf.slotSize.toNat ≤ content.length) :
    (slots.foldl (fun content slot => shelf.clearHeader content slot.1) content).length =
        content.length ∧
      ∀ slot, shelf.contentAt
          (slots.foldl (fun content slot => shelf.clearHeader content slot.1) content) slot =
        if slot ∈ slots.map Prod.fst then .free else shelf.contentAt content slot := by
  induction slots generalizing content with
  | nil => simp
  | cons first slots ih =>
    rw [List.forall_mem_cons] at hslots
    have hlength := length_clearHeader hheader hslots.1
    have hrest : ∀ slot ∈ slots, (slot.1 + 1) * shelf.slotSize.toNat ≤
        (shelf.clearHeader content first.1).length := by
      rw [hlength]
      exact hslots.2
    obtain ⟨hkept, hcontent⟩ := ih hrest
    rw [List.foldl_cons, hkept, hlength]
    refine ⟨rfl, fun slot => ?_⟩
    rw [hcontent, List.map_cons]
    by_cases hfirst : slot = first.1
    · subst hfirst
      rw [contentAt_clearHeader_self hheader hslots.1]
      simp
    · rw [contentAt_clearHeader_of_ne hheader hslots.1 hfirst]
      simp only [List.mem_cons, hfirst, false_or]

/-- A tidy shelf has nothing to cut off. -/
theorem Laid.trimTail_eq (h : Laid shelf content) : shelf.trimTail content = (shelf, content) := by
  have htrim : trim shelf.slots shelf.gaps = (shelf.slots, shelf.gaps) := by
    cases hslots : shelf.slots with
    | zero => rw [trim]
    | succ slots =>
      have hlast : slots ∉ shelf.gaps := fun hgap => h.tidy slots hgap hslots.symm
      rw [trim, if_neg hlast]
  simp only [Shelf.trimTail, htrim, if_true]

/-- The file cut down to whole slots. -/
def wholeSlots (size : Nat) (content : Bytes) : Bytes :=
  content.take (content.length / size * size)

theorem length_wholeSlots (size : Nat) (content : Bytes) :
    (wholeSlots size content).length = content.length / size * size := by
  rw [wholeSlots, List.length_take, Nat.min_eq_left (Nat.div_mul_le_self _ _)]

/-- A slot that is cut short is cut off. -/
theorem whole_eq (size : Nat) (content : Bytes) :
    (if content.length % size = 0 then content
      else content.resize (content.length / size * size)) = wholeSlots size content := by
  split
  · rename_i hwhole
    have hlength : content.length / size * size = content.length :=
      Nat.div_mul_cancel (Nat.dvd_of_mod_eq_zero hwhole)
    rw [wholeSlots, hlength, List.take_length]
  · exact Bytes.resize_of_le (Nat.div_mul_le_self _ _)

section Open

variable (slotSize : UInt32) (content : Bytes)

/-- The shelf of a file before its gaps are known. -/
def blank : Shelf :=
  { slotSize, slots := content.length / slotSize.toNat }

/-- What a slot says when its file is opened. -/
def foundAt (slot : Nat) : SlotContent :=
  (blank slotSize content).contentAt (wholeSlots slotSize.toNat content) slot

/-- What is picked out of the slots of a file when it is opened. -/
def pickSlots {α : Type} (pick : Nat × SlotContent → Option α) : List α :=
  (List.range (blank slotSize content).slots).filterMap fun slot =>
    pick (slot, foundAt slotSize content slot)

/-- The shelf of a file that is opened, with the slots that hold no record as gaps. -/
def marked : Shelf :=
  { blank slotSize content with
    gaps := .ofList (pickSlots slotSize content fun
      | (_, .record _) => none
      | (slot, _) => some slot) }

/-- The corrupt slots of a file. -/
def corruptSlots : List (Nat × Nat) :=
  pickSlots slotSize content fun
    | (slot, .corrupt size) => some (slot, size)
    | _ => none

/-- The file with the corrupt slots freed. -/
def repaired : Bytes :=
  (corruptSlots slotSize content).foldl
    (fun content slot => (blank slotSize content).clearHeader content slot.1)
    (wholeSlots slotSize.toNat content)

/-- Opening marks the gaps, frees the corrupt slots and cuts off the free slots at the end. -/
theorem open_eq : Shelf.open slotSize content =
    { shelf := ((marked slotSize content).trimTail (repaired slotSize content)).1
      content := ((marked slotSize content).trimTail (repaired slotSize content)).2
      records := pickSlots slotSize content fun
        | (slot, .record data) => some (slot, data)
        | _ => none
      corrupt := corruptSlots slotSize content } := by
  have hpick : ∀ {α : Type} (pick : Nat × SlotContent → Option α),
      ((blank slotSize content).scan 0 (blank slotSize content).slots
        (wholeSlots slotSize.toNat content)).filterMap pick = pickSlots slotSize content pick := by
    intro α pick
    rw [scan_eq, List.filterMap_map]
    simp only [Function.comp_def, Nat.zero_add, pickSlots, foundAt]
  simp only [marked, repaired, corruptSlots, ← hpick, ← whole_eq]
  rfl

variable {slotSize content} {slot : Nat}

/-- A pick comes from one of the slots. -/
theorem mem_pickSlots {α : Type} {pick : Nat × SlotContent → Option α} {picked : α} :
    picked ∈ pickSlots slotSize content pick ↔
      ∃ slot < (blank slotSize content).slots,
        pick (slot, foundAt slotSize content slot) = some picked := by
  simp only [pickSlots, List.mem_filterMap, List.mem_range]

/-- The corrupt slots. -/
theorem mem_corruptSlots {size : Nat} :
    (slot, size) ∈ corruptSlots slotSize content ↔
      slot < (blank slotSize content).slots ∧ foundAt slotSize content slot = .corrupt size := by
  rw [corruptSlots, mem_pickSlots]
  constructor
  · rintro ⟨found, hlt, hpick⟩
    cases hfound : foundAt slotSize content found with
    | free => simp [hfound] at hpick
    | record data => simp [hfound] at hpick
    | corrupt size' =>
      simp only [hfound, Option.some.injEq, Prod.mk.injEq] at hpick
      obtain ⟨rfl, rfl⟩ := hpick
      exact ⟨hlt, hfound⟩
  · rintro ⟨hlt, hfound⟩
    exact ⟨slot, hlt, by rw [hfound]⟩

/-- The records that are found. -/
theorem mem_records_open {data : Bytes} :
    (slot, data) ∈ (Shelf.open slotSize content).records ↔
      slot < (blank slotSize content).slots ∧ foundAt slotSize content slot = .record data := by
  rw [open_eq, mem_pickSlots]
  constructor
  · rintro ⟨found, hlt, hpick⟩
    cases hfound : foundAt slotSize content found with
    | free => simp [hfound] at hpick
    | record data' =>
      simp only [hfound, Option.some.injEq, Prod.mk.injEq] at hpick
      obtain ⟨rfl, rfl⟩ := hpick
      exact ⟨hlt, hfound⟩
    | corrupt size => simp [hfound] at hpick
  · rintro ⟨hlt, hfound⟩
    exact ⟨slot, hlt, by rw [hfound]⟩

/-- The gaps are the slots that hold no record. -/
theorem mem_gaps_marked :
    slot ∈ (marked slotSize content).gaps ↔ slot < (blank slotSize content).slots ∧
      ∀ data, foundAt slotSize content slot ≠ .record data := by
  rw [marked, ExtTreeSet.mem_ofList, List.contains_iff_mem, mem_pickSlots]
  constructor
  · rintro ⟨found, hlt, hpick⟩
    cases hfound : foundAt slotSize content found with
    | record data => simp [hfound] at hpick
    | free =>
      obtain rfl : found = slot := by simpa [hfound] using hpick
      exact ⟨hlt, by simp [hfound]⟩
    | corrupt size =>
      obtain rfl : found = slot := by simpa [hfound] using hpick
      exact ⟨hlt, by simp [hfound]⟩
  · rintro ⟨hlt, hunused⟩
    refine ⟨slot, hlt, ?_⟩
    cases hfound : foundAt slotSize content slot with
    | record data => exact absurd hfound (hunused data)
    | free => rfl
    | corrupt size => rfl

/-- The records are found in the order of their slots. -/
theorem sorted_records_open (slotSize : UInt32) (content : Bytes) :
    (Shelf.open slotSize content).records.Pairwise fun a b => a.1 < b.1 := by
  rw [open_eq]
  dsimp only
  rw [pickSlots, List.pairwise_filterMap]
  refine List.pairwise_lt_range.imp ?_
  intro slot slot' hlt record hrecord record' hrecord'
  have hslot : ∀ slot record, (match (slot, foundAt slotSize content slot) with
      | (slot, .record data) => some (slot, data)
      | _ => none) = some record → slot = record.1 := by
    intro slot record hpick
    cases hfound : foundAt slotSize content slot with
    | free => simp [hfound] at hpick
    | record data =>
      simp only [hfound, Option.some.injEq] at hpick
      rw [← hpick]
    | corrupt size => simp [hfound] at hpick
  rwa [← hslot slot record hrecord, ← hslot slot' record' hrecord']

/-- No slot is listed twice. -/
theorem nodup_records_open (slotSize : UInt32) (content : Bytes) :
    ((Shelf.open slotSize content).records.map Prod.fst).Nodup := by
  rw [List.nodup_iff_pairwise_ne, List.pairwise_map]
  exact (sorted_records_open slotSize content).imp Nat.ne_of_lt

/-- The corrupt slots are whole slots of the file. -/
theorem end_le_of_mem_corruptSlots {corrupt : Nat × Nat}
    (hmem : corrupt ∈ corruptSlots slotSize content) :
    (corrupt.1 + 1) * (blank slotSize content).slotSize.toNat ≤
      (wholeSlots slotSize.toNat content).length := by
  rw [length_wholeSlots]
  exact Nat.mul_le_mul_right _ (mem_corruptSlots.mp hmem).1

variable (hheader : slotHeaderSize < slotSize.toNat) (content)

include hheader

/-- Freeing the corrupt slots keeps the length of the file. -/
theorem repaired_spec :
    (repaired slotSize content).length = (blank slotSize content).slots * slotSize.toNat ∧
      ∀ slot, (blank slotSize content).contentAt (repaired slotSize content) slot =
        if slot ∈ (corruptSlots slotSize content).map Prod.fst then .free
        else foundAt slotSize content slot := by
  obtain ⟨hlength, hcontent⟩ := clearHeaders_spec hheader
    fun _ hmem => end_le_of_mem_corruptSlots hmem
  exact ⟨hlength.trans (length_wholeSlots slotSize.toNat content), hcontent⟩

/-- Only the corrupt slots are freed. -/
theorem contentAt_marked (slot : Nat) :
    (marked slotSize content).contentAt (repaired slotSize content) slot =
      if slot ∈ (corruptSlots slotSize content).map Prod.fst then .free
      else foundAt slotSize content slot := by
  have hblank : (marked slotSize content).slotSize = (blank slotSize content).slotSize := rfl
  rw [contentAt_of_slotSize_eq hblank, (repaired_spec content hheader).2]

/-- A record that is found stays. -/
theorem contentAt_marked_of_record {data : Bytes}
    (hfound : foundAt slotSize content slot = .record data) :
    (marked slotSize content).contentAt (repaired slotSize content) slot = .record data := by
  rw [contentAt_marked content hheader, if_neg, hfound]
  intro hcorrupt
  obtain ⟨⟨slot', size⟩, hmem, rfl⟩ := List.mem_map.mp hcorrupt
  rw [(mem_corruptSlots.mp hmem).2] at hfound
  simp at hfound

/-- A gap is free once the corrupt slots are. -/
theorem contentAt_marked_of_gap (hgap : slot ∈ (marked slotSize content).gaps) :
    (marked slotSize content).contentAt (repaired slotSize content) slot = .free := by
  obtain ⟨hlt, hunused⟩ := mem_gaps_marked.mp hgap
  rw [contentAt_marked content hheader]
  cases hfound : foundAt slotSize content slot with
  | free => simp
  | record data => exact absurd hfound (hunused data)
  | corrupt size =>
    have hcorrupt : slot ∈ (corruptSlots slotSize content).map Prod.fst :=
      List.mem_map_of_mem (mem_corruptSlots.mpr ⟨hlt, hfound⟩)
    rw [if_pos hcorrupt]

omit hheader in
/-- A slot of the file that is no gap holds a record. -/
theorem exists_record_of_not_gap (hlt : slot < (marked slotSize content).slots)
    (hgap : slot ∉ (marked slotSize content).gaps) :
    ∃ data, foundAt slotSize content slot = .record data := by
  rw [mem_gaps_marked] at hgap
  push Not at hgap
  exact hgap hlt

/-- Once the corrupt slots are freed, the marked shelf describes the file. -/
theorem mapped_marked : Mapped (marked slotSize content) (repaired slotSize content) where
  header := hheader
  length := (repaired_spec content hheader).1
  gap slot hgap :=
    ⟨(mem_gaps_marked.mp hgap).1, contentAt_marked_of_gap content hheader hgap⟩
  record slot hlt hgap := by
    obtain ⟨data, hfound⟩ := exists_record_of_not_gap content hlt hgap
    exact ⟨data, contentAt_marked_of_record content hheader hfound⟩

/-- The records of the marked shelf are those that are found. -/
theorem record?_marked_eq_some_iff {data : Bytes} :
    (marked slotSize content).record? (repaired slotSize content) slot = some data ↔
      (slot, data) ∈ (Shelf.open slotSize content).records := by
  rw [mem_records_open]
  constructor
  · intro hsome
    have hlive : (marked slotSize content).record? (repaired slotSize content) slot ≠ none := by
      simp [hsome]
    obtain ⟨hlt, hgap⟩ := (mapped_marked content hheader).record?_ne_none_iff.mp hlive
    obtain ⟨found, hfound⟩ := exists_record_of_not_gap content hlt hgap
    have hsame := contentAt_of_record? hsome
    rw [contentAt_marked_of_record content hheader hfound, SlotContent.record.injEq] at hsame
    exact ⟨hlt, hsame ▸ hfound⟩
  · rintro ⟨hlt, hfound⟩
    have hinside : slot < (marked slotSize content).slots := hlt
    rw [record?, if_pos hinside, contentAt_marked_of_record content hheader hfound]

/-- Opening any file leaves a tidy shelf and lists its records. -/
theorem open_spec : Laid (Shelf.open slotSize content).shelf (Shelf.open slotSize content).content ∧
    (Shelf.open slotSize content).shelf.slotSize = slotSize ∧
    (Shelf.open slotSize content).shelf.slots ≤ content.length / slotSize.toNat ∧
    ((Shelf.open slotSize content).records.map Prod.fst).Nodup ∧
    ∀ slot data, (slot, data) ∈ (Shelf.open slotSize content).records ↔
      (Shelf.open slotSize content).shelf.record? (Shelf.open slotSize content).content slot =
        some data := by
  obtain ⟨hlaid, hsize, hslots, hsame⟩ := (mapped_marked content hheader).trimTail
  have hshelf : (Shelf.open slotSize content).shelf =
      ((marked slotSize content).trimTail (repaired slotSize content)).1 := by rw [open_eq]
  have hcontent : (Shelf.open slotSize content).content =
      ((marked slotSize content).trimTail (repaired slotSize content)).2 := by rw [open_eq]
  rw [hshelf, hcontent]
  refine ⟨hlaid, hsize, hslots, nodup_records_open slotSize content, fun slot data => ?_⟩
  rw [hsame, record?_marked_eq_some_iff content hheader]

end Open

namespace Mapped

/-- The file of a shelf has no cut slot. -/
theorem wholeSlots_eq (h : Mapped shelf content) :
    wholeSlots shelf.slotSize.toNat content = content := by
  have hpos : 0 < shelf.slotSize.toNat := Nat.zero_lt_of_lt h.header
  have hcount : content.length / shelf.slotSize.toNat = shelf.slots := by
    rw [h.length, Nat.mul_div_cancel _ hpos]
  rw [wholeSlots, hcount, ← h.length, List.take_length]

/-- The slots of a shelf are found again. -/
theorem slots_blank (h : Mapped shelf content) :
    (blank shelf.slotSize content).slots = shelf.slots := by
  have hpos : 0 < shelf.slotSize.toNat := Nat.zero_lt_of_lt h.header
  rw [blank, h.length, Nat.mul_div_cancel _ hpos]

/-- What the slots of a shelf say is found again. -/
theorem foundAt_eq (h : Mapped shelf content) (slot : Nat) :
    foundAt shelf.slotSize content slot = shelf.contentAt content slot := by
  rw [foundAt, h.wholeSlots_eq]
  exact contentAt_of_slotSize_eq rfl content slot

/-- A shelf has no corrupt slot. -/
theorem corruptSlots_eq (h : Mapped shelf content) :
    corruptSlots shelf.slotSize content = [] := by
  rw [List.eq_nil_iff_forall_not_mem]
  rintro ⟨slot, size⟩ hmem
  obtain ⟨hlt, hsize⟩ := mem_corruptSlots.mp hmem
  rw [h.slots_blank] at hlt
  rw [h.foundAt_eq] at hsize
  by_cases hgap : slot ∈ shelf.gaps
  · simp [(h.gap slot hgap).2] at hsize
  · obtain ⟨data, hdata⟩ := h.record slot hlt hgap
    simp [hdata] at hsize

/-- The gaps of a shelf are found again. -/
theorem gaps_marked (h : Mapped shelf content) :
    (marked shelf.slotSize content).gaps = shelf.gaps := by
  refine ExtTreeSet.ext_mem fun slot => ?_
  rw [mem_gaps_marked, h.slots_blank]
  simp only [h.foundAt_eq]
  constructor
  · rintro ⟨hlt, hunused⟩
    by_contra hgap
    obtain ⟨data, hdata⟩ := h.record slot hlt hgap
    exact hunused data hdata
  · intro hgap
    obtain ⟨hlt, hfree⟩ := h.gap slot hgap
    exact ⟨hlt, by simp [hfree]⟩

end Mapped

/-- A tidy shelf is found again in its file, which stays as it is. -/
theorem open_of_laid (h : Laid shelf content) :
    (Shelf.open shelf.slotSize content).shelf = shelf ∧
      (Shelf.open shelf.slotSize content).content = content ∧
      (Shelf.open shelf.slotSize content).corrupt = [] := by
  have hmapped := h.toMapped
  have hmarked : marked shelf.slotSize content = shelf := by
    calc marked shelf.slotSize content
        = ⟨shelf.slotSize, (blank shelf.slotSize content).slots,
            (marked shelf.slotSize content).gaps⟩ := rfl
      _ = shelf := by rw [hmapped.slots_blank, hmapped.gaps_marked]
  have hrepaired : repaired shelf.slotSize content = content := by
    rw [repaired, hmapped.corruptSlots_eq, List.foldl_nil, hmapped.wholeSlots_eq]
  rw [open_eq, hmarked, hrepaired, h.trimTail_eq, hmapped.corruptSlots_eq]
  exact ⟨rfl, rfl, rfl⟩

end BlobLimbo.Shelf
