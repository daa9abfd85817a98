import BlobLimbo.Store.Error

/-!
# Paths

A path is written as text: names with slashes between them. A place in the tree of files is the
list of the names that lead there from the top.
-/

namespace BlobLimbo

/-- Where something stands in the tree: the names on the way from the top. An absolute path starts
with the name `/`. -/
abbrev Path := List String

namespace Path

/-- The longest name that can stand in a directory, in bytes. -/
def nameLimit : Nat := 255

/-- The longest path the system takes, in bytes. -/
def textLimit : Nat := 4095

/-- Why the system takes no notice of a path, whatever is on the disk. -/
def refusal? (text : String) : Option IoError :=
  if '\x00' ∈ text.toList then some .embeddedNul
  else if textLimit < text.utf8ByteSize then some .nameTooLong
  else none

/-- The names in a path as it is written. Slashes that follow each other count as one. -/
def names (text : String) : List String :=
  let names := ((text.toList.splitOn '/').filter (· ≠ [])).map String.ofList
  if text.toList.head? = some '/' then "/" :: names else names

/-- A path as it is written. -/
def toText : Path → String
  | [] => "."
  | "/" :: names => "/" ++ "/".intercalate names
  | names => "/".intercalate names

/-- The path of a file in a directory, as it is written. -/
def joinText (directory file : String) : String :=
  if directory = "" ∨ directory.toList.getLast? = some '/' then directory ++ file
  else directory ++ "/" ++ file

/-- The names before the single dots at the end. -/
def dropDots (names : List String) : List String :=
  (names.reverse.dropWhile (· = ".")).reverse

/-- The names of the directory above. Single dots at the end count for nothing. -/
def parent (names : List String) : List String :=
  dropDots (dropDots names).dropLast

/-- Taking away dots leaves no more names. -/
theorem length_dropDots_le (names : List String) : (dropDots names).length ≤ names.length := by
  simpa [dropDots] using (List.dropWhile_sublist (l := names.reverse) (· = ".")).length_le

/-- The directory above has fewer names. -/
theorem length_parent_lt {names : List String} (h : names ≠ []) :
    (parent names).length < names.length := by
  have hlength := List.length_pos_iff.mpr h
  have hinner := length_dropDots_le names
  have houter := length_dropDots_le (dropDots names).dropLast
  rw [List.length_dropLast] at houter
  simp only [parent]
  omega

/-- One step down the tree, or up for two dots, or none for one. There is no way up from the top of
the tree, and the way up from where relative paths start stays part of the path. -/
def step (path : Path) (name : String) : Path :=
  if name = "." then path
  else if name ≠ ".." then path ++ [name]
  else
    match path.getLast? with
    | none | some ".." => path ++ [".."]
    | some "/" => path
    | some _ => path.dropLast

/-- Whether a path is the top of the tree, or where relative paths start, or above that. -/
def isTop (path : Path) : Bool :=
  path = ["/"] ∨ path.all (· = "..")

end Path

end BlobLimbo
