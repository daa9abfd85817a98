import BlobLimbo.Limbo.Open
import BlobLimbo.Proofs.Layout
import BlobLimbo.Proofs.Limbo.FirstEntries
import BlobLimbo.Proofs.Limbo.InterruptedRecovery
import BlobLimbo.Proofs.Store.Refusal

/-!
# Configurations a limbo refuses

The slot sizes of a limbo follow from the number of blobs its configuration allows. Every number up
to the limit gives slot sizes that can be used, except zero. So a configuration is refused exactly
when it allows no blobs or too many, and the disk stays as it was.
-/

namespace BlobLimbo

/-- A failure that is about the configuration of a limbo. -/
def LimboError.IsConfiguration : LimboError → Prop
  | .tooManyBlobs _ _ => True
  | .store cause => cause.IsLayout
  | _ => False

namespace Limbo

open ShelfStore

variable {config : LimboConfig} {disk : Disk} {error : LimboError} {sizes : List UInt32}

/-- Why a number of blobs cannot be used. -/
inductive ConfigurationFault (maxBlobs : UInt32) : LimboError → Prop where
  /-- Without blobs there are no slot sizes. -/
  | noBlobs (hzero : maxBlobs = 0) : ConfigurationFault maxBlobs (.store .noShelves)
  /-- The number is above the limit. -/
  | tooManyBlobs (habove : Layout.maxBlobsLimit < maxBlobs) :
      ConfigurationFault maxBlobs (.tooManyBlobs maxBlobs Layout.maxBlobsLimit)

/-- With a fault nothing is done. -/
theorem ConfigurationFault.openOnDisk_eq (h : ConfigurationFault config.maxBlobsPerTx error)
    (ledger : Metrics.Ledger) (disk : Disk) :
    openOnDisk config ledger disk = { value := .error error, state := disk } := by
  cases h with
  | noBlobs hzero =>
    have hsizes : Layout.slotSizes config.maxBlobsPerTx = .ok [] := by
      rw [hzero]
      rfl
    have hrefused : ShelfStore.open config.datadir [] { disk } = _ :=
      (LayoutFault.noShelves rfl).open_eq _
    simp only [openOnDisk, hsizes, hrefused]
  | tooManyBlobs habove => simp only [openOnDisk, Layout.slotSizes, if_pos habove]

/-- Recovery does not fail because of slot sizes. -/
theorem not_isConfiguration_of_recover {store : ShelfStore} {records : List Record}
    (herror : (recover store records).value = .error error) : ¬error.IsConfiguration := by
  rcases deleteAll_cases store (indexRecords {} records).value with
    hdeleted | ⟨gone, id, rest, cause, hids, hfails⟩
  · rw [value_recover hdeleted] at herror
    cases herror
  · have hstops := (hfails.deleteAll_eq rest).1
    rw [← hids] at hstops
    rw [(recover_of_error hstops).1, Except.error.injEq] at herror
    rw [← herror]
    exact not_isLayout_of_delete hfails.refused

/-- An allowed number of blobs is not refused. -/
theorem not_isConfiguration_of_openOnDisk (hpos : 0 < config.maxBlobsPerTx)
    (hlimit : config.maxBlobsPerTx ≤ Layout.maxBlobsLimit) {ledger : Metrics.Ledger}
    (herror : (openOnDisk config ledger disk).value = .error error) : ¬error.IsConfiguration := by
  obtain ⟨sizes, hsizes, hne, hpairwise, hroom⟩ := Layout.exists_slotSizes hpos hlimit
  have hlayout : layoutError? sizes = none := by
    apply layoutError?_eq_none hne hpairwise
    intro size hmem
    have hlong := hroom size hmem
    rw [slotHeaderSize]
    omega
  simp only [openOnDisk, hsizes] at herror
  cases hopen : (ShelfStore.open config.datadir sizes { disk }).value with
  | error cause =>
    rw [hopen, Except.error.injEq] at herror
    obtain ⟨failure, rfl⟩ := open_error hlayout hopen
    rw [← herror]
    exact not_false
  | ok store =>
    rw [hopen] at herror
    dsimp only at herror
    cases hrecover : (recover store
        (ShelfStore.open config.datadir sizes { disk }).state.records).value with
    | error cause =>
      rw [hrecover, Except.map, Except.error.injEq] at herror
      rw [← herror]
      exact not_isConfiguration_of_recover hrecover
    | ok value =>
      rw [hrecover] at herror
      cases herror

/-- How the configuration decides over opening a limbo. -/
structure ChecksConfiguration (config : LimboConfig) (ledger : Metrics.Ledger) (disk : Disk) :
    Prop where
  /-- A limbo is refused for its configuration exactly with the fault it has. -/
  refused_iff : ∀ error : LimboError, error.IsConfiguration →
    ((openOnDisk config ledger disk).value = .error error ↔
      ConfigurationFault config.maxBlobsPerTx error)
  /-- With a fault the disk stays as it was and nothing is reported. -/
  refused_early : ∀ error, ConfigurationFault config.maxBlobsPerTx error →
    openOnDisk config ledger disk = { value := .error error, state := disk }

/-- The configuration is checked before a limbo is opened. -/
theorem checksConfiguration (config : LimboConfig) (ledger : Metrics.Ledger) (disk : Disk) :
    ChecksConfiguration config ledger disk where
  refused_iff error hconfiguration := by
    constructor
    · intro herror
      by_cases hzero : config.maxBlobsPerTx = 0
      · have hfault := ConfigurationFault.noBlobs hzero
        rw [hfault.openOnDisk_eq, Except.error.injEq] at herror
        rwa [← herror]
      · by_cases habove : Layout.maxBlobsLimit < config.maxBlobsPerTx
        · have hfault := ConfigurationFault.tooManyBlobs habove
          rw [hfault.openOnDisk_eq, Except.error.injEq] at herror
          rwa [← herror]
        · have hpos : 0 < config.maxBlobsPerTx := UInt32.pos_iff_ne_zero.mpr hzero
          have hlimit := UInt32.not_lt.mp habove
          exact absurd hconfiguration (not_isConfiguration_of_openOnDisk hpos hlimit herror)
    · intro hfault
      rw [hfault.openOnDisk_eq]
  refused_early error hfault := hfault.openOnDisk_eq ledger disk

/-- **Bad layouts are refused before the disk is touched.** For all slot sizes, a store is refused
with the first fault they have, and nothing is made, replayed or reported; slot sizes without a
fault increase throughout, have room in every slot, and are those of the store that is opened. So a
limbo is refused for its configuration exactly when that allows no blobs or too many, and the disk
stays as it was. -/
theorem openOnDisk_refuses (path : String) (sizes : List UInt32) (config : LimboConfig)
    (ledger : Metrics.Ledger) (disk : Disk) :
    ChecksLayout path sizes disk ∧ ChecksConfiguration config ledger disk :=
  ⟨checksLayout_open path sizes disk, checksConfiguration config ledger disk⟩

end Limbo

end BlobLimbo
