import BlobLimbo.Disk
import BlobLimbo.Proofs.Disk.Naming

/-!
# Trees of files

Opening a file and writing to one leave every directory where it is, and every file under its
serial number (`Extends`). So a path that led to a directory or a file goes on leading there, and
making a directory that is there or opening a file that is there changes nothing.
-/

namespace BlobLimbo

open Std

/-- The serial number of a file; a directory has none. -/
def Node.serial? : Node → Option Nat
  | .directory => none
  | .file serial _ => some serial

namespace Disk

variable {disk other : Disk} {here place : Path} {names : List String} {name path : String}
  {content : Bytes} {serial : Nat} {handle : Handle}

/-- What stands on a disk also stands on the other, but for what the files hold. -/
def Extends (disk other : Disk) : Prop :=
  ∀ (place : Path) (node : Node), disk.node? place = some node →
    ∃ later, other.node? place = some later ∧ later.serial? = node.serial?

namespace Extends

theorem refl (disk : Disk) : disk.Extends disk :=
  fun _ node hnode => ⟨node, hnode, rfl⟩

theorem trans {last : Disk} (h : disk.Extends other) (h' : other.Extends last) :
    disk.Extends last := by
  intro place node hnode
  obtain ⟨later, hlater, hserial⟩ := h place node hnode
  obtain ⟨final, hfinal, hserial'⟩ := h' place later hlater
  exact ⟨final, hfinal, hserial'.trans hserial⟩

/-- A directory stays a directory. -/
theorem directory (h : disk.Extends other) (hnode : disk.node? place = some .directory) :
    other.node? place = some .directory := by
  obtain ⟨later, hlater, hserial⟩ := h place _ hnode
  cases later with
  | directory => exact hlater
  | file serial content => simp [Node.serial?] at hserial

/-- A file stays the same file. -/
theorem file (h : disk.Extends other) (hnode : disk.node? place = some (.file serial content)) :
    ∃ later, other.node? place = some (.file serial later) := by
  obtain ⟨later, hlater, hserial⟩ := h place _ hnode
  cases later with
  | directory => simp [Node.serial?] at hserial
  | file serial' content' =>
    simp only [Node.serial?, Option.some.injEq] at hserial
    exact ⟨content', hserial ▸ hlater⟩

end Extends

/-- A name is entered when a directory stands where it leads. -/
theorem enter_eq_ok_iff {next : Path} : disk.enter here name = .ok next ↔
    here.step name = next ∧ name.utf8ByteSize ≤ Path.nameLimit ∧
      disk.node? next = some .directory := by
  unfold enter
  dsimp only
  split
  · rename_i hlong
    simp only [reduceCtorEq, false_iff, not_and]
    omega
  · rename_i hlong
    rw [Nat.not_lt] at hlong
    split
    · rename_i hnode
      rw [Except.ok.injEq]
      exact ⟨fun heq => ⟨heq, hlong, heq ▸ hnode⟩, And.left⟩
    · rename_i hnode
      simp only [reduceCtorEq, false_iff, not_and]
      rintro rfl _
      simp [hnode]
    · rename_i hnode
      simp only [reduceCtorEq, false_iff, not_and]
      rintro rfl _
      simp [hnode]

/-- What is walked from a directory leads to a directory, and further disks agree. -/
theorem foldlM_enter {next : Path} (hhere : disk.node? here = some .directory)
    (hwalk : names.foldlM disk.enter here = .ok next) :
    names.foldl Path.step here = next ∧ disk.node? next = some .directory ∧
      ∀ other : Disk, disk.Extends other → names.foldlM other.enter here = .ok next := by
  induction names generalizing here with
  | nil =>
    cases hwalk
    exact ⟨rfl, hhere, fun _ _ => rfl⟩
  | cons name names ih =>
    rw [List.foldlM_cons] at hwalk
    cases hstep : disk.enter here name with
    | error error => simp [hstep, bind, Except.bind] at hwalk
    | ok entered =>
      rw [hstep] at hwalk
      obtain ⟨hplace, hlong, hnode⟩ := enter_eq_ok_iff.mp hstep
      obtain ⟨hlast, hdirectory, hother⟩ := ih hnode hwalk
      refine ⟨by rw [List.foldl_cons, hplace, hlast], hdirectory, fun other hextends => ?_⟩
      have hentered := enter_eq_ok_iff.mpr ⟨hplace, hlong, hextends.directory hnode⟩
      rw [List.foldlM_cons, hentered]
      exact hother other hextends

/-- A walk ends at a directory. -/
theorem node?_of_walk (hwalk : disk.walk names = .ok place) :
    disk.node? place = some .directory :=
  (foldlM_enter rfl hwalk).2.1

/-- A walk ends where its names lead. -/
theorem place_of_walk (hwalk : disk.walk names = .ok place) :
    names.foldl Path.step [] = place :=
  (foldlM_enter rfl hwalk).1

/-- A walk goes on leading where it led. -/
theorem Extends.walk (h : disk.Extends other) (hwalk : disk.walk names = .ok place) :
    other.walk names = .ok place :=
  (foldlM_enter rfl hwalk).2.2 other h

/-- Names lead somewhere when those above the last one can be walked. -/
theorem destination_concat_eq_ok_iff :
    disk.destination (names ++ [name]) = .ok place ↔ ∃ above, disk.walk names = .ok above ∧
      name.utf8ByteSize ≤ Path.nameLimit ∧ above.step name = place := by
  rw [destination, List.getLast?_concat, List.dropLast_concat]
  cases disk.walk names with
  | error error => simp [bind, Except.bind]
  | ok above =>
    simp only [bind, Except.bind, pure, Except.pure, Except.ok.injEq, exists_eq_left']
    split
    · rename_i hlong
      simp only [throw, throwThe, MonadExceptOf.throw, reduceCtorEq, false_iff, not_and]
      omega
    · rename_i hlong
      rw [Nat.not_lt] at hlong
      simp [hlong]

/-- A walk leads where its names do. -/
theorem destination_of_walk (hwalk : disk.walk names = .ok place) :
    disk.destination names = .ok place := by
  obtain rfl | ⟨above, name, rfl⟩ := names.eq_nil_or_concat'
  · exact hwalk
  · rw [walk, List.foldlM_append] at hwalk
    cases habove : above.foldlM disk.enter [] with
    | error error => simp [habove, bind, Except.bind] at hwalk
    | ok entered =>
      rw [habove] at hwalk
      obtain ⟨next, hnext, hlast⟩ : ∃ next, disk.enter entered name = .ok next ∧ next = place := by
        cases hstep : disk.enter entered name with
        | error error => simp [hstep, bind, Except.bind] at hwalk
        | ok next =>
          simp only [bind, Except.bind, List.foldlM_cons, List.foldlM_nil, hstep, pure,
            Except.pure, Except.ok.injEq] at hwalk
          exact ⟨next, rfl, hwalk⟩
      obtain ⟨hplace, hlong, -⟩ := enter_eq_ok_iff.mp hnext
      exact destination_concat_eq_ok_iff.mpr ⟨entered, habove, hlong, hplace.trans hlast⟩

/-- Names go on leading where they led. -/
theorem Extends.destination (h : disk.Extends other) (hplace : disk.destination names = .ok place) :
    other.destination names = .ok place := by
  obtain rfl | ⟨above, name, rfl⟩ := names.eq_nil_or_concat'
  · exact hplace
  · obtain ⟨entered, hwalk, hlong, hstep⟩ := destination_concat_eq_ok_iff.mp hplace
    exact destination_concat_eq_ok_iff.mpr ⟨entered, h.walk hwalk, hlong, hstep⟩

/-- Names lead where they say. -/
theorem place_of_destination (hplace : disk.destination names = .ok place) :
    names.foldl Path.step [] = place := by
  obtain rfl | ⟨above, name, rfl⟩ := names.eq_nil_or_concat'
  · exact Except.ok.inj hplace
  · obtain ⟨entered, hwalk, -, hstep⟩ := destination_concat_eq_ok_iff.mp hplace
    rw [List.foldl_append, place_of_walk hwalk]
    exact hstep

/-- Making a directory that is there changes nothing. -/
theorem makeDirectories_of_walk (hpath : Path.refusal? path = none)
    (hwalk : disk.walk (Path.names path) = .ok place) :
    disk.makeDirectories path = (disk, .ok ()) := by
  have hthere : disk.isDirectory (Path.names path) = true := by
    rw [isDirectory, hwalk]
    rfl
  have hmake : disk.makeDirectory (Path.names path) = .error .alreadyExists := by
    rw [makeDirectory, destination_of_walk hwalk]
    simp only [bind, Except.bind, node?_of_walk hwalk, Option.isSome_some, if_true]
    rfl
  have hkeep : disk.keepDirectory (Path.names path) = (disk, .ok ()) := by
    rw [keepDirectory, hmake]
    simp only [hthere, if_true]
  rw [makeDirectories, hpath]
  dsimp only
  rw [keepDirectories, hkeep]

/-- What is put at a place stands there, and nothing else changes. -/
theorem node?_of_insert {there : Path} {node : Node} (htop : place.isTop = false)
    (hnodes : other.nodes = disk.nodes.insert place node) :
    other.node? there = if there = place then some node else disk.node? there := by
  by_cases hplace : there = place
  · subst hplace
    simp [node?, htop, hnodes]
  · simp only [node?, hnodes, ExtTreeMap.getElem?_insert, LawfulEqCmp.compare_eq_iff_eq,
      eq_comm (a := place), hplace, if_false]

/-- A place that can be taken is not the top of the tree. -/
theorem isTop_of_node?_eq_none (hnode : disk.node? place = none) : place.isTop = false := by
  rw [← Bool.not_eq_true]
  intro htop
  simp [node?, htop] at hnode

/-- The bytes of a file are those of what stands at its place. -/
theorem content?_congr (hnode : other.node? place = disk.node? place) :
    other.content? place = disk.content? place := by
  rw [content?, content?, hnode]

/-- A file's bytes. -/
theorem content?_eq_some_iff :
    disk.content? place = some content ↔
      ∃ serial, disk.node? place = some (.file serial content) := by
  rw [content?]
  split
  · rename_i serial content' hnode
    simp [hnode]
  · rename_i hnone
    simp only [reduceCtorEq, false_iff, not_exists]
    exact fun serial => hnone serial content

/-- A directory is made where nothing stands. -/
theorem makeDirectory_eq_ok_iff {made : Disk} : disk.makeDirectory names = .ok made ↔
    ∃ place, disk.destination names = .ok place ∧ disk.node? place = none ∧
      disk.addDirectory place = made := by
  rw [makeDirectory]
  cases disk.destination names with
  | error error => simp [bind, Except.bind]
  | ok place =>
    cases hnode : disk.node? place with
    | none => simp [bind, Except.bind, pure, Except.pure, hnode]
    | some node =>
      simp [bind, Except.bind, throw, throwThe, MonadExceptOf.throw, hnode]

/-- Making one directory makes no file and changes none. -/
theorem content?_keepDirectory (disk : Disk) (names : List String) (place : Path) :
    (disk.keepDirectory names).1.content? place = disk.content? place := by
  unfold keepDirectory
  split
  · rename_i made hmade
    obtain ⟨there, -, hnone, rfl⟩ := makeDirectory_eq_ok_iff.mp hmade
    have hnode : (disk.addDirectory there).node? place =
        if place = there then some .directory else disk.node? place :=
      node?_of_insert (isTop_of_node?_eq_none hnone) rfl
    by_cases hplace : place = there
    · rw [content?, content?, hnode, if_pos hplace, hplace, hnone]
    · rw [content?, content?, hnode, if_neg hplace]
  · rfl

/-- Making a directory and those above it makes no file and changes none. -/
theorem content?_keepDirectories (disk : Disk) (names : List String) (place : Path) :
    (disk.keepDirectories names).1.content? place = disk.content? place := by
  fun_induction keepDirectories disk names with
  | case1 disk missing hmissing =>
    rw [← content?_keepDirectory disk [] place, hmissing]
  | case2 disk names missing hmissing hnames made hmade ih =>
    rw [hmade] at ih
    rw [content?_keepDirectory made names, ih, ← content?_keepDirectory disk names, hmissing]
  | case3 disk names missing hmissing hnames hfailed ih =>
    rw [ih, ← content?_keepDirectory disk names, hmissing]
  | case4 disk names hkept => exact content?_keepDirectory disk names place

/-- Making the directories of a written path makes no file and changes none. -/
theorem content?_makeDirectories (disk : Disk) (path : String) (place : Path) :
    (disk.makeDirectories path).1.content? place = disk.content? place := by
  unfold makeDirectories
  split
  · rfl
  · exact content?_keepDirectories disk _ place

end Disk

end BlobLimbo
