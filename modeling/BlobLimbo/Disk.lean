import BlobLimbo.Bytes
import BlobLimbo.Path
import Std.Data.ExtTreeMap

/-!
# Disks

A disk is a tree of directories and files, given as what stands at each place. Files are opened by
path and then reached through a handle. A handle keeps reaching its file after the file has been
removed from the tree, and does not reach a new file of the same path: each file has a serial
number of its own.
-/

namespace BlobLimbo

/-- What stands at a path. -/
inductive Node where
  /-- A directory. -/
  | directory
  /-- A file with its serial number and its bytes. -/
  | file (serial : Nat) (content : Bytes)
  deriving DecidableEq

/-- An open file. -/
structure Handle where
  /-- Where the file was opened. -/
  path : Path
  /-- Which of the files that have stood there it is. -/
  serial : Nat
  deriving DecidableEq

/-- A tree of files. -/
structure Disk where
  /-- What stands where. The top directories are there without being listed. -/
  nodes : Std.ExtTreeMap Path Node := ∅
  /-- The bytes of removed files, by serial number. -/
  removed : Std.ExtTreeMap Nat Bytes := ∅
  /-- The serial number of the next file. -/
  nextSerial : Nat := 0

namespace Disk

/-- What stands at a path. -/
def node? (disk : Disk) (path : Path) : Option Node :=
  if path.isTop then some .directory else disk.nodes[path]?

/-- The bytes of the file at a path. -/
def content? (disk : Disk) (path : Path) : Option Bytes :=
  match disk.node? path with
  | some (.file _ content) => some content
  | _ => none

/-- Puts a directory at a path. -/
def addDirectory (disk : Disk) (path : Path) : Disk :=
  { disk with nodes := disk.nodes.insert path .directory }

/-- Puts a new file at a path. -/
def addFile (disk : Disk) (path : Path) (content : Bytes) : Disk :=
  { disk with
    nodes := disk.nodes.insert path (.file disk.nextSerial content)
    nextSerial := disk.nextSerial + 1 }

/-- Goes from a directory to the directory a name leads to. -/
def enter (disk : Disk) (here : Path) (name : String) : Except IoError Path :=
  let next := here.step name
  if Path.nameLimit < name.utf8ByteSize then .error .nameTooLong
  else
    match disk.node? next with
    | some .directory => .ok next
    | some (.file ..) => .error .notADirectory
    | none => .error .notFound

/-- Follows the names of a path. Each must lead to a directory. -/
def walk (disk : Disk) (names : List String) : Except IoError Path :=
  names.foldlM disk.enter []

/-- Where the names of a path lead. Every name but the last must lead to a directory. -/
def destination (disk : Disk) (names : List String) : Except IoError Path :=
  match names.getLast? with
  | none => .ok []
  | some name => do
    let above ← disk.walk names.dropLast
    if Path.nameLimit < name.utf8ByteSize then throw .nameTooLong
    return above.step name

/-- Whether the names of a path lead to a directory. -/
def isDirectory (disk : Disk) (names : List String) : Bool :=
  (disk.walk names).toOption.isSome

/-- Makes one directory in a directory that is there. -/
def makeDirectory (disk : Disk) (names : List String) : Except IoError Disk := do
  let place ← disk.destination names
  if (disk.node? place).isSome then throw .alreadyExists
  return disk.addDirectory place

/-- Makes a directory, or leaves it if it is there. -/
def keepDirectory (disk : Disk) (names : List String) : Disk × Except IoError Unit :=
  match disk.makeDirectory names with
  | .ok made => (made, .ok ())
  | .error error => (disk, if disk.isDirectory names then .ok () else .error error)

/-- Makes a directory. Where something is missing on the way, the directory above is made first.
Dots at the end do not name the directory above, so a missing directory cannot be made by a path
that ends in one. -/
def keepDirectories (disk : Disk) (names : List String) : Disk × Except IoError Unit :=
  match disk.keepDirectory names with
  | (disk, .error .notFound) =>
    if _hnames : names = [] then (disk, .ok ())
    else
      match disk.keepDirectories (Path.parent names) with
      | (disk, .ok ()) => disk.keepDirectory names
      | failed => failed
  | kept => kept
termination_by names.length
decreasing_by exact Path.length_parent_lt _hnames

/-- Makes the directory of a written path and those above it, as far as they are missing. -/
def makeDirectories (disk : Disk) (path : String) : Disk × Except IoError Unit :=
  match Path.refusal? path with
  | some error => (disk, .error error)
  | none => disk.keepDirectories (Path.names path)

/-- Opens the file of a written path for reading and writing, and makes an empty one if nothing
stands there. -/
def openFile (disk : Disk) (path : String) : Disk × Except IoError Handle :=
  match Path.refusal? path, disk.destination (Path.names path) with
  | some error, _ | none, .error error => (disk, .error error)
  | none, .ok place =>
    match disk.node? place with
    | some .directory => (disk, .error .isADirectory)
    | some (.file serial _) => (disk, .ok ⟨place, serial⟩)
    | none => (disk.addFile place [], .ok ⟨place, disk.nextSerial⟩)

/-- The bytes a handle reaches. -/
def read (disk : Disk) (handle : Handle) : Bytes :=
  match disk.nodes[handle.path]? with
  | some (.file serial content) =>
    if serial = handle.serial then content else disk.removed.getD handle.serial []
  | _ => disk.removed.getD handle.serial []

/-- Replaces the bytes a handle reaches. -/
def write (disk : Disk) (handle : Handle) (content : Bytes) : Disk :=
  let onRemoved := { disk with removed := disk.removed.insert handle.serial content }
  match disk.nodes[handle.path]? with
  | some (.file serial _) =>
    if serial = handle.serial then
      { disk with nodes := disk.nodes.insert handle.path (.file serial content) }
    else onRemoved
  | _ => onRemoved

/-- Takes away whatever stands at a path or below it. -/
def remove (disk : Disk) (path : Path) : Disk :=
  let gone := disk.nodes.filter fun place _ => path.isPrefixOf place
  { disk with
    nodes := disk.nodes.filter fun place _ => !path.isPrefixOf place
    removed := gone.foldl (fun removed _ node =>
      match node with
      | .directory => removed
      | .file serial content => removed.insert serial content) disk.removed }

/-- Everything below a directory: the names from there, and the length of what is a file. -/
def listing (disk : Disk) (path : Path) : List (Path × Option Nat) :=
  disk.nodes.toList.filterMap fun (place, node) =>
    if path.isPrefixOf place ∧ path ≠ place then
      some (place.drop path.length, match node with
        | .directory => none
        | .file _ content => some content.length)
    else none

end Disk

end BlobLimbo
