import BlobLimbo.Bytes
import BlobLimbo.FixedBytes
import BlobLimbo.Rlp.Error
import BlobLimbo.Rlp.Encoding
import BlobLimbo.Rlp.Decoding
import BlobLimbo.Entry
import BlobLimbo.Layout
import BlobLimbo.Error
import BlobLimbo.Event
import BlobLimbo.Action
import BlobLimbo.Path
import BlobLimbo.Disk
import BlobLimbo.Store.Error
import BlobLimbo.Store.Basic
import BlobLimbo.Store.Memory
import BlobLimbo.Store.Shelf
import BlobLimbo.Store.Shelves
import BlobLimbo.Index
import BlobLimbo.Metrics.Ledger
import BlobLimbo.Metrics.Calls
import BlobLimbo.Metrics.Limbo
import BlobLimbo.Limbo.Basic
import BlobLimbo.Limbo.Operations
import BlobLimbo.Limbo.Recovery
import BlobLimbo.Limbo.Open
import BlobLimbo.Json.Basic
import BlobLimbo.Json.Scan
import BlobLimbo.Json.Read
import BlobLimbo.Config
import BlobLimbo.Text.Blank
import BlobLimbo.Text.Alphanumeric
import BlobLimbo.Text.Cut
import BlobLimbo.Pattern.Basic
import BlobLimbo.Pattern.CharacterClass
import BlobLimbo.Pattern.Read
import BlobLimbo.Logging
import BlobLimbo.Logging.SpanValue
import BlobLimbo.Logging.Directive
import BlobLimbo.Logging.Filter
import BlobLimbo.Logging.Moment
import BlobLimbo.Logging.Line
import BlobLimbo.CommandLine.Argument
import BlobLimbo.CommandLine.Parse
import BlobLimbo.CommandLine.Run
import BlobLimbo.CommandLine.Program
import BlobLimbo.Main
import BlobLimbo.Proofs.Reading
import BlobLimbo.Proofs.Codec.BigEndian
import BlobLimbo.Proofs.Codec.Header
import BlobLimbo.Proofs.Codec.Items
import BlobLimbo.Proofs.Codec.Canonical
import BlobLimbo.Proofs.Index.Consistency
import BlobLimbo.Proofs.Index.Counting
import BlobLimbo.Proofs.Index.Removal
import BlobLimbo.Proofs.Index.Splitting
import BlobLimbo.Proofs.Index.Sweep
import BlobLimbo.Proofs.Action
import BlobLimbo.Proofs.Store.Lawful
import BlobLimbo.Proofs.Limbo.Effect
import BlobLimbo.Proofs.Limbo.Tracking
import BlobLimbo.Proofs.Store.Memory
import BlobLimbo.Proofs.Codec.Length
import BlobLimbo.Proofs.Limbo.Steps
import BlobLimbo.Proofs.Limbo.Sweeping
import BlobLimbo.Proofs.Limbo.Run
import BlobLimbo.Proofs.Limbo.Erasure
import BlobLimbo.Proofs.Limbo.Recovery
import BlobLimbo.Proofs.Limbo.Activity
import BlobLimbo.Proofs.Limbo.Faults
import BlobLimbo.Proofs.Limbo.Holdings
import BlobLimbo.Proofs.Limbo.Refinement
import BlobLimbo.Proofs.Limbo.Tally
import BlobLimbo.Proofs.Limbo.Metering
import BlobLimbo.Proofs.Limbo.Observation
import BlobLimbo.Proofs.Shelf.Region
import BlobLimbo.Proofs.Shelf.Slots
import BlobLimbo.Proofs.Shelf.Changes
import BlobLimbo.Proofs.Shelf.Opening
import BlobLimbo.Proofs.Disk.Naming
import BlobLimbo.Proofs.Disk.Tree
import BlobLimbo.Proofs.Disk.Files
import BlobLimbo.Proofs.Store.Shelves
import BlobLimbo.Proofs.Store.Opening
import BlobLimbo.Proofs.Limbo.Restart
import BlobLimbo.Proofs.Layout
import BlobLimbo.Proofs.Limbo.FiniteMap
import BlobLimbo.Proofs.Limbo.FirstEntries
import BlobLimbo.Proofs.Limbo.Rehoming
import BlobLimbo.Proofs.Limbo.StaleRecords
import BlobLimbo.Proofs.Shelf.Payload
import BlobLimbo.Proofs.Store.Openable
import BlobLimbo.Proofs.Limbo.DiskRecovery
import BlobLimbo.Proofs.Metrics.Counters
import BlobLimbo.Proofs.Shelf.Allocation
import BlobLimbo.Proofs.Store.Allocation
import BlobLimbo.Proofs.Limbo.RepeatedSweeps
import BlobLimbo.Proofs.Shelf.Taken
import BlobLimbo.Proofs.Shelf.Isolation
import BlobLimbo.Proofs.Store.Steady
import BlobLimbo.Proofs.Limbo.Tampering
import BlobLimbo.Proofs.Limbo.Traced
import BlobLimbo.Proofs.Store.Footprint
import BlobLimbo.Proofs.Store.Resizing
import BlobLimbo.Proofs.Limbo.Resizing
import BlobLimbo.Proofs.Limbo.GroupSizes
import BlobLimbo.Proofs.Wording
import BlobLimbo.Proofs.CommandLine.Sessions
import BlobLimbo.Proofs.Shelf.Repair
import BlobLimbo.Proofs.Store.Repair
import BlobLimbo.Proofs.Codec.Truncation
import BlobLimbo.Proofs.Limbo.Confinement
import BlobLimbo.Proofs.Limbo.InterruptedRecovery
import BlobLimbo.Proofs.Limbo.RecoveryLog
import BlobLimbo.Proofs.Limbo.Shelving
import BlobLimbo.Proofs.Store.Refusal
import BlobLimbo.Proofs.Limbo.Refusal
import BlobLimbo.Proofs.Json.Grammar
import BlobLimbo.Proofs.Json.Strings
import BlobLimbo.Proofs.Json.Skipping
import BlobLimbo.Proofs.Json.Values
import BlobLimbo.Proofs.Json.Members
import BlobLimbo.Proofs.Configuration
import BlobLimbo.Proofs.Store.Numbering
