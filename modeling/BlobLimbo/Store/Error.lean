/-!
# Store failures

Why a slot store refuses an operation. Failures of the file system carry their kind and the text
the system gives them; two of them count as the same failure when the kinds agree
(`StoreError.agrees`).
-/

namespace BlobLimbo

/-- The kinds of file system failure a store meets. -/
inductive IoKind where
  /-- Something on the way to a file does not exist. -/
  | notFound
  /-- A file stands where a directory is to be made. -/
  | alreadyExists
  /-- A file stands where a directory is needed on the way. -/
  | notADirectory
  /-- A directory stands where a file is to be opened. -/
  | isADirectory
  /-- A name or a path is too long. -/
  | invalidFilename
  /-- A path cannot be handed to the system. -/
  | invalidInput
  /-- The file ends before the bytes that were asked for. -/
  | unexpectedEof
  /-- The bytes make no sense. -/
  | invalidData
  /-- Access was refused. -/
  | permissionDenied
  /-- Any other failure. -/
  | other
  deriving DecidableEq, Repr

/-- A file system failure: its kind and its text. -/
structure IoError where
  /-- What went wrong. -/
  kind : IoKind
  /-- How the system words it. -/
  text : String
  deriving DecidableEq, Repr

namespace IoError

/-- A missing file or directory. -/
def notFound : IoError := ⟨.notFound, "No such file or directory (os error 2)"⟩

/-- A directory cannot be made where a file is. -/
def alreadyExists : IoError := ⟨.alreadyExists, "File exists (os error 17)"⟩

/-- A path leads through a file. -/
def notADirectory : IoError := ⟨.notADirectory, "Not a directory (os error 20)"⟩

/-- A directory cannot be opened for writing. -/
def isADirectory : IoError := ⟨.isADirectory, "Is a directory (os error 21)"⟩

/-- A name or a path is longer than the system takes. -/
def nameTooLong : IoError := ⟨.invalidFilename, "File name too long (os error 36)"⟩

/-- A path holds the character that ends a path for the system. -/
def embeddedNul : IoError :=
  ⟨.invalidInput, "file name contained an unexpected NUL byte"⟩

/-- The file ends inside what was to be read. -/
def unexpectedEof : IoError := ⟨.unexpectedEof, "failed to fill whole buffer"⟩

/-- The header of a slot announces more bytes than the slot can hold. -/
def corruptHeader (slot size capacity : Nat) : IoError :=
  ⟨.invalidData, "slot " ++ toString slot ++ " header claims " ++ toString size ++
    " bytes, capacity is " ++ toString capacity⟩

/-- A failure that was asked for under the name of the operation. -/
def injected (operation : String) : IoError :=
  ⟨.other, "injected " ++ operation ++ " failure"⟩

end IoError

/-- Why a slot store refuses an operation. -/
inductive StoreError where
  /-- The file system failed. -/
  | io (cause : IoError)
  /-- No slot sizes were configured. -/
  | noShelves
  /-- A slot of this size cannot hold a header and one byte. -/
  | slotSizeTooSmall (size : UInt32)
  /-- Two neighbouring slot sizes do not increase. -/
  | unorderedSlotSizes (previous next : UInt32)
  /-- An empty record would look like a free slot. -/
  | emptyRecord
  /-- The record does not fit the largest slot. -/
  | recordTooLarge (size max : Nat)
  /-- There is no shelf of that number. -/
  | unknownShelf (id : Nat)
  /-- The slot lies past the end of its shelf. -/
  | slotOutOfBounds (id : Nat)
  /-- The slot is free. -/
  | emptySlot (id : Nat)
  /-- The shelf has no slot number left. -/
  | shelfFull (size : UInt32)
  deriving DecidableEq, Repr

namespace StoreError

/-- A number in the form `0x2a`. -/
def hexNumber (n : Nat) : String :=
  "0x" ++ String.ofList (Nat.toDigits 16 n)

/-- The text an operator reads. -/
def message : StoreError → String
  | .io cause => cause.text
  | .noShelves => "no slot sizes configured"
  | .slotSizeTooSmall size => "slot size " ++ toString size ++ " too small"
  | .unorderedSlotSizes previous next =>
    "slot sizes not strictly increasing: " ++ toString previous ++ " followed by " ++ toString next
  | .emptyRecord => "cannot store an empty record"
  | .recordTooLarge size max =>
    "record of " ++ toString size ++ " bytes exceeds the largest slot capacity of " ++
      toString max ++ " bytes"
  | .unknownShelf id => "unknown shelf for slot id " ++ hexNumber id
  | .slotOutOfBounds id => "slot id " ++ hexNumber id ++ " out of bounds"
  | .emptySlot id => "slot id " ++ hexNumber id ++ " is empty"
  | .shelfFull size => "shelf with slot size " ++ toString size ++ " is full"

/-- Whether two failures are the same one. The text of a file system failure does not matter. -/
def agrees : StoreError → StoreError → Bool
  | .io a, .io b => a.kind = b.kind
  | a, b => a = b

end StoreError

end BlobLimbo
