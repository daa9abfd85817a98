import BlobLimbo.Config
import BlobLimbo.Limbo.Operations
import BlobLimbo.Limbo.Recovery
import BlobLimbo.Store.Shelves

/-!
# Limbos on disk

A limbo on disk is opened from its configuration: the store is laid out for the number of blobs
a transaction may carry, and the entries in it are indexed.
-/

namespace BlobLimbo.Limbo

/-- The state a limbo on disk leaves the disk in. -/
def disk (limbo : Limbo ShelfStore) : Disk :=
  limbo.store.disk

/-- Opens the limbo of a configuration. When metrics are enabled, they go to the given ledger. -/
def openOnDisk (config : LimboConfig) (ledger : Metrics.Ledger) (disk : Disk) :
    Outcome Disk (Except LimboError (Limbo ShelfStore)) :=
  match Layout.slotSizes config.maxBlobsPerTx with
  | .error error => { value := .error error, state := disk }
  | .ok sizes =>
    let opened := ShelfStore.open config.datadir sizes { disk }
    match opened.value with
    | .error cause =>
      { value := .error (.store cause), state := opened.state.disk, events := opened.events }
    | .ok store =>
      let recovered := recover store opened.state.records
      let limbo := recovered.state
      let result := recovered.value.map fun () =>
        if config.metricsEnabled then limbo.withMetrics ledger else limbo
      { value := result, state := limbo.disk, events := opened.events ++ recovered.events }

end BlobLimbo.Limbo
