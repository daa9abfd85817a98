import BlobLimbo.Action

/-!
# Slot stores

A slot store keeps byte records and gives each an id, which stays valid until the record is
deleted. How a store is opened, and how it lists the records it holds, is its own affair.
-/

namespace BlobLimbo

/-- The number a store gives a record. A store in memory counts its records, and no run gets to
`2 ^ 64` of them; a store on disk makes it of the numbers of a shelf and of a slot, with 32 bits for
each. So it fits 64 bits, and is a natural number here. -/
abbrev SlotId := Nat

/-- A record as a store lists it when it is opened. -/
abbrev Record := SlotId × Bytes

/-- A store of byte records of type `S`. -/
class SlotStore (S : Type) where
  /-- Keeps a record and returns its id. -/
  put : Bytes → Action StoreError S SlotId
  /-- The record kept under an id. -/
  get : SlotId → Action StoreError S Bytes
  /-- Gives up the record kept under an id. -/
  delete : SlotId → Action StoreError S Unit
  /-- Writes back everything that is pending. -/
  close : Action StoreError S Unit

end BlobLimbo
