import BlobLimbo.CommandLine.Program
import Std.Time.DateTime

/-!
# The `limbo` program

Copies the part of the file system a run can reach into a disk, runs the program on it, and writes
back what has changed.
-/

namespace BlobLimbo.Main

open CommandLine

/-- The time, in universal time. -/
def currentMoment : IO Moment := do
  let date := Std.Time.DateTime.ofTimestampWithZone (← Std.Time.Timestamp.now) .UTC
  return {
    year := date.year.toInt.toNat
    month := date.month.toNat
    day := date.day.toNat
    hour := date.hour.toNat
    minute := date.minute.toNat
    second := date.second.toNat
    microsecond := date.nanosecond.toNat / 1000 }

/-- The environment variables a run looks at. -/
def readEnvironment : IO Environment := do
  let values ← variableNames.mapM fun name => return (name, ← IO.getEnv name)
  return fun name => (values.lookup name).join

/-- Copies what stands at a place in the file system. A directory is copied without what is in
it. -/
def loadPlace (disk : Disk) (place : Path) : IO Disk := do
  if place.isTop then return disk
  match ← (IO.FS.realPath place.toText).toBaseIO with
  | .error _ => return disk
  | .ok found =>
    if ← found.isDir then return disk.addDirectory place
    else return disk.addFile place (← IO.FS.readBinFile found).toList

/-- Copies the directories on the way to a directory, and the files of the given names in it. -/
def loadDirectory (disk : Disk) (directory : String) (names : List String) : IO Disk := do
  if (Path.refusal? directory).isSome then return disk
  let mut disk := disk
  let mut place : Path := []
  for name in Path.names directory do
    place := place.step name
    disk ← loadPlace disk place
  for name in names do
    disk ← loadPlace disk (place ++ [name])
  return disk

/-- Whether two byte strings are the same. -/
def sameContent (a b : Bytes) : Bool :=
  a.length == b.length && (a.zip b).all fun (x, y) => x == y

/-- Writes what has changed to the file system, directories before what is in them. -/
def writeBack (old new : Disk) : IO Unit := do
  for (place, node) in new.nodes.toList do
    match node with
    | .directory => if (old.node? place).isNone then IO.FS.createDirAll place.toText
    | .file _ content =>
      let kept := match old.content? place with
        | some before => sameContent before content
        | none => false
      if !kept then IO.FS.writeBinFile place.toText (ByteArray.mk content.toArray)

/-- Copies what a command line reaches. A command line that is not understood reaches nothing. -/
def loadReach (environment : Environment) (words : List String) (moment : Moment) : IO Disk := do
  match parse environment words with
  | .error _ => return {}
  | .ok invocation =>
    (invocation.reach moment).foldlM (fun disk (directory, names) =>
      loadDirectory disk directory names) {}

end BlobLimbo.Main

/-- Runs the program. -/
def main (words : List String) : IO UInt32 := do
  let environment ← BlobLimbo.Main.readEnvironment
  let moment ← BlobLimbo.Main.currentMoment
  let disk ← BlobLimbo.Main.loadReach environment words moment
  let exit := BlobLimbo.CommandLine.runProgram environment words moment disk
  BlobLimbo.Main.writeBack disk exit.disk
  exit.output.forM IO.println
  IO.eprint exit.complaint
  return UInt32.ofNat exit.code
