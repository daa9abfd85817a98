import BlobLimbo.Proofs.Disk.Tree

/-!
# Open files

A handle that reaches the file at its path (`Reaches`) goes on reaching it. What is written to it
is read from it, and files at other places are left alone.
-/

namespace BlobLimbo.Disk

open Std

variable {disk opened : Disk} {place : Path} {path : String} {content : Bytes} {serial : Nat}
  {handle other : Handle}

/-- The file of a handle stands where it was opened. -/
def Reaches (disk : Disk) (handle : Handle) : Prop :=
  ∃ content, disk.node? handle.path = some (.file handle.serial content)

/-- A file stands among the listed nodes. -/
theorem node?_eq_file_iff : disk.node? place = some (.file serial content) ↔
    place.isTop = false ∧ disk.nodes[place]? = some (.file serial content) := by
  by_cases htop : place.isTop
  · simp [node?, htop]
  · simp [node?, htop]

/-- On an empty disk there is no file. -/
theorem content?_empty (place : Path) : ({} : Disk).content? place = none := by
  rw [Option.eq_none_iff_forall_ne_some]
  intro content hcontent
  obtain ⟨serial, hnode⟩ := content?_eq_some_iff.mp hcontent
  simp [node?_eq_file_iff] at hnode

/-- A handle reads the file it reaches. -/
theorem read_of_node? (hnode : disk.node? handle.path = some (.file handle.serial content)) :
    disk.read handle = content := by
  rw [read, (node?_eq_file_iff.mp hnode).2]
  dsimp only
  rw [if_pos rfl]

/-- Writing replaces the bytes of the file. -/
theorem nodes_write (h : disk.Reaches handle) (content : Bytes) :
    disk.write handle content =
      { disk with nodes := disk.nodes.insert handle.path (.file handle.serial content) } := by
  obtain ⟨old, hnode⟩ := h
  rw [write, (node?_eq_file_iff.mp hnode).2]
  dsimp only
  rw [if_pos rfl]

/-- What a handle reads is decided by what stands at its path. -/
theorem Reaches.read_congr (h : disk.Reaches handle)
    (hnode : opened.node? handle.path = disk.node? handle.path) :
    opened.read handle = disk.read handle := by
  obtain ⟨content, hcontent⟩ := h
  rw [read_of_node? hcontent, read_of_node? (hnode.trans hcontent)]

/-- Writing changes what stands at one place. -/
theorem node?_write (h : disk.Reaches handle) (content : Bytes) (place : Path) :
    (disk.write handle content).node? place =
      if place = handle.path then some (.file handle.serial content) else disk.node? place := by
  have htop : handle.path.isTop = false := by
    obtain ⟨old, hnode⟩ := h
    exact (node?_eq_file_iff.mp hnode).1
  exact node?_of_insert htop (by rw [nodes_write h])

/-- A handle goes on reaching its file. -/
theorem Reaches.extend (h : disk.Reaches handle) (hextends : disk.Extends opened) :
    opened.Reaches handle := by
  obtain ⟨content, hnode⟩ := h
  exact hextends.file hnode

namespace Reaches

/-- Writing leaves everything where it stands. -/
theorem extends_write (h : disk.Reaches handle) (content : Bytes) :
    disk.Extends (disk.write handle content) := by
  intro place node hnode
  rw [node?_write h]
  split
  · rename_i hplace
    obtain ⟨old, hold⟩ := h
    rw [hplace, hold, Option.some.injEq] at hnode
    exact ⟨_, rfl, by rw [← hnode]; rfl⟩
  · exact ⟨node, hnode, rfl⟩

/-- What is written is read. -/
theorem read_write (h : disk.Reaches handle) (content : Bytes) :
    (disk.write handle content).read handle = content := by
  apply read_of_node?
  rw [node?_write h, if_pos rfl]

/-- Writing leaves the files at other places alone. -/
theorem read_write_of_ne (h : disk.Reaches handle) (hother : disk.Reaches other)
    (hne : other.path ≠ handle.path) (content : Bytes) :
    (disk.write handle content).read other = disk.read other := by
  apply hother.read_congr
  rw [node?_write h, if_neg hne]

/-- Writing what is there changes nothing. -/
theorem write_read (h : disk.Reaches handle) : disk.write handle (disk.read handle) = disk := by
  have hnode := h
  obtain ⟨content, hnode⟩ := hnode
  have hsame : disk.nodes.insert handle.path (.file handle.serial content) = disk.nodes := by
    refine ExtTreeMap.ext_getElem? fun place => ?_
    rw [ExtTreeMap.getElem?_insert]
    split
    · rename_i hplace
      rw [← LawfulEqCmp.compare_eq_iff_eq.mp hplace, (node?_eq_file_iff.mp hnode).2]
    · rfl
  rw [nodes_write h, read_of_node? hnode, hsame]

end Reaches

/-- Opening a file gives a handle that reaches it. Nothing changes but that a missing file is
made. -/
theorem openFile_spec (hopen : disk.openFile path = (opened, .ok handle)) :
    Path.refusal? path = none ∧ disk.destination (Path.names path) = .ok handle.path ∧
      disk.Extends opened ∧ opened.Reaches handle ∧
      opened.read handle = (disk.content? handle.path).getD [] ∧
      ∀ place, place ≠ handle.path → opened.node? place = disk.node? place := by
  unfold openFile at hopen
  split at hopen
  · simp at hopen
  · simp at hopen
  · rename_i place hpath hplace
    split at hopen
    · simp at hopen
    · rename_i serial content hnode
      simp only [Prod.mk.injEq, Except.ok.injEq] at hopen
      obtain ⟨rfl, rfl⟩ := hopen
      have hcontent : disk.content? place = some content :=
        content?_eq_some_iff.mpr ⟨serial, hnode⟩
      refine ⟨hpath, hplace, .refl disk, ⟨content, hnode⟩, ?_, fun _ _ => rfl⟩
      rw [read_of_node? hnode, hcontent, Option.getD_some]
    · rename_i hnode
      simp only [Prod.mk.injEq, Except.ok.injEq] at hopen
      obtain ⟨rfl, rfl⟩ := hopen
      have hadded : ∀ there, (disk.addFile place []).node? there =
          if there = place then some (.file disk.nextSerial []) else disk.node? there :=
        fun there => node?_of_insert (isTop_of_node?_eq_none hnode) rfl
      have hcontent : disk.content? place = none := by
        rw [content?, hnode]
      have hself : (disk.addFile place []).node? place = some (.file disk.nextSerial []) := by
        rw [hadded, if_pos rfl]
      refine ⟨hpath, hplace, ?_, ⟨[], hself⟩, ?_, fun there hne => ?_⟩
      · intro there node hthere
        have hne : there ≠ place := by
          rintro rfl
          simp [hnode] at hthere
        exact ⟨node, by rw [hadded, if_neg hne, hthere], rfl⟩
      · rw [read_of_node? hself, hcontent, Option.getD_none]
      · rw [hadded, if_neg hne]

/-- A file that is there is opened again without a change. -/
theorem openFile_of_reaches (hpath : Path.refusal? path = none)
    (hplace : disk.destination (Path.names path) = .ok handle.path) (h : disk.Reaches handle) :
    disk.openFile path = (disk, .ok handle) := by
  obtain ⟨content, hnode⟩ := h
  rw [openFile, hpath, hplace]
  dsimp only
  rw [hnode]

end BlobLimbo.Disk
