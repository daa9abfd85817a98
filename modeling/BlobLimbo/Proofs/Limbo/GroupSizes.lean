import BlobLimbo.Proofs.Limbo.Holdings
import Mathlib.Algebra.BigOperators.Group.List.Lemmas
import Mathlib.Data.List.Dedup

/-!
# Group sizes

How many transactions a map holds under each block. The groups are listed by ascending block, none
of them is empty, and they add up to what is held. These three properties and the number of
transactions under each block determine the list, so it is known what a change of the map makes of
it: what is evicted takes its groups along, and a transaction that leaves makes its group smaller by
one.
-/

namespace BlobLimbo

open Std

/-- Some groups when a transaction has left that of a block. A group that becomes empty goes
away. -/
def leaveBlock (block : UInt64) (groups : List (UInt64 × Nat)) : List (UInt64 × Nat) :=
  (groups.map fun group => if group.1 = block then (block, group.2 - 1) else group).filter
    fun group => 0 < group.2

namespace Holdings

variable {held : Holdings} {tx : TxHash} {block : UInt64} {sidecar : Sidecar}

/-- The number of transactions held under a block. -/
def count (held : Holdings) (block : UInt64) : Nat :=
  (held.filter fun _ entry => entry.1 = block).size

end Holdings

end BlobLimbo
