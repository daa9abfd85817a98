import BlobLimbo.Json.Basic
import BlobLimbo.Json.Read
import BlobLimbo.Layout

/-!
# Configuration of a limbo

Where a limbo lives on disk, how many blobs its transactions may carry, and whether it records
metrics. Every field may be left out of the written form.
-/

namespace BlobLimbo

/-- The configuration of a limbo on disk. -/
structure LimboConfig where
  /-- The directory of the shelf files. -/
  datadir : String := "limbo"
  /-- The most blobs a transaction may carry. -/
  maxBlobsPerTx : UInt32 := Layout.defaultMaxBlobs
  /-- Whether operations are recorded. -/
  metricsEnabled : Bool := false
  deriving DecidableEq

namespace LimboConfig

/-- A configuration that is being read. -/
structure Draft where
  /-- The directory, once it is known. -/
  datadir : Option String := none
  /-- The number of blobs, once it is known. -/
  maxBlobsPerTx : Option UInt32 := none
  /-- Whether metrics are enabled, once that is known. -/
  metricsEnabled : Option Bool := none
  deriving DecidableEq

/-- The fields of the written form. -/
def fields : List (Json.Field Draft) :=
  [Json.field "datadir" Draft.datadir (fun draft value => { draft with datadir := some value })
      Json.readText,
    Json.field "maxBlobsPerTx" Draft.maxBlobsPerTx
      (fun draft value => { draft with maxBlobsPerTx := some value }) Json.readUInt32,
    Json.field "metricsEnabled" Draft.metricsEnabled
      (fun draft value => { draft with metricsEnabled := some value }) Json.readBool]

/-- Fills in the defaults. -/
def ofDraft (draft : Draft) : LimboConfig :=
  let default : LimboConfig := {}
  { datadir := draft.datadir.getD default.datadir
    maxBlobsPerTx := draft.maxBlobsPerTx.getD default.maxBlobsPerTx
    metricsEnabled := draft.metricsEnabled.getD default.metricsEnabled }

/-- Reads a configuration. -/
def read (input : List Char) : Except Json.Fault (LimboConfig × List Char) := do
  let (draft, rest) ← Json.readRecord true fields {} input
  return (ofDraft draft, rest)

/-- Reads a configuration from a whole text. -/
def ofText (text : String) : Except Json.Fault LimboConfig :=
  Json.readDocument read text

/-- The configuration as a document. -/
def toJson (config : LimboConfig) : Json :=
  .object [("datadir", .string config.datadir),
    ("maxBlobsPerTx", .number config.maxBlobsPerTx.toNat),
    ("metricsEnabled", .bool config.metricsEnabled)]

/-- The configuration as it is written. -/
def toText (config : LimboConfig) : String :=
  String.ofList config.toJson.compact

end LimboConfig

end BlobLimbo
