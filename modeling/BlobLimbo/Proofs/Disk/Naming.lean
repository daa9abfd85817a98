import BlobLimbo.Path
import BlobLimbo.Store.Shelf
import Mathlib.Data.List.Basic

/-!
# Names of shelf files

A file in a directory is written as the directory's path and one more name (`names_joinText`), and
shelves of different slot sizes have different names (`fileName_injective`).
-/

namespace BlobLimbo

namespace Path

variable {directory file : String}

/-- A name that holds no slash is the only name in its text. -/
theorem splitOn_file (hslash : '/' ∉ file.toList) (hfile : file ≠ "") :
    ((file.toList.splitOn '/').filter (· ≠ [])).map String.ofList = [file] := by
  have hlist : file.toList ≠ [] := by
    rw [ne_eq, String.toList_eq_nil_iff]
    exact hfile
  rw [List.splitOn_eq_singleton hslash, List.filter_cons_of_pos (by simpa using hlist),
    List.filter_nil, List.map_singleton, String.ofList_toList]

/-- The names of a file in a directory are those of the directory and its own. -/
theorem names_joinText (directory : String) (hslash : '/' ∉ file.toList) (hfile : file ≠ "") :
    names (joinText directory file) = names directory ++ [file] := by
  have hlist : file.toList ≠ [] := by
    rw [ne_eq, String.toList_eq_nil_iff]
    exact hfile
  have hfirst : file.toList.head? ≠ some '/' := by
    intro hhead
    exact hslash (List.mem_of_mem_head? hhead)
  by_cases hempty : directory = ""
  · subst hempty
    have hnone : names "" = [] := rfl
    have htext : joinText "" file = file := by simp [joinText]
    rw [hnone, htext, List.nil_append]
    simp only [names, splitOn_file hslash hfile, if_neg hfirst]
  · have hdirectory : directory.toList ≠ [] := by
      rw [ne_eq, String.toList_eq_nil_iff]
      exact hempty
    have hhead : ∀ rest : List Char,
        (directory.toList ++ rest).head? = directory.toList.head? := by
      intro rest
      rw [List.head?_append_of_ne_nil _ hdirectory]
    by_cases hlast : directory.toList.getLast? = some '/'
    · obtain ⟨above, habove⟩ := List.getLast?_eq_some_iff.mp hlast
      have hsplit : ∀ rest : List Char, (directory.toList ++ rest).splitOn '/' =
          above.splitOn '/' ++ rest.splitOn '/' := by
        intro rest
        rw [habove, List.append_assoc, List.singleton_append, List.splitOn_append_cons_self]
      have hself := hsplit []
      rw [List.append_nil] at hself
      rw [joinText, if_pos (Or.inr hlast)]
      simp only [names, String.toList_append, hhead, hsplit, hself, List.filter_append,
        List.map_append, splitOn_file hslash hfile]
      split <;> simp
    · rw [joinText, if_neg (by simp [hempty, hlast])]
      have hsplit : (directory.toList ++ '/' :: file.toList).splitOn '/' =
          directory.toList.splitOn '/' ++ file.toList.splitOn '/' :=
        List.splitOn_append_cons_self _ _
      have htext : (directory ++ "/" ++ file).toList = directory.toList ++ '/' :: file.toList := by
        simp
      simp only [names, htext, hhead, hsplit, List.filter_append, List.map_append,
        splitOn_file hslash hfile]
      split <;> simp

/-- Where a written path leads when every name on the way leads to a directory. -/
def place (text : String) : Path :=
  (names text).foldl step []

/-- A name that is no dots leads to itself. -/
theorem step_of_name (path : Path) (hone : file ≠ ".") (htwo : file ≠ "..") :
    path.step file = path ++ [file] := by
  rw [step, if_neg hone, if_pos htwo]

end Path

namespace Shelf

/-- The name of a shelf file, in characters. -/
theorem toList_fileName (slotSize : UInt32) :
    (fileName slotSize).toList = "shelf-".toList ++
      ((Nat.toDigits 10 slotSize.toNat).leftpad 8 '0' ++ ".dat".toList) := by
  simp only [fileName, String.toList_append, String.toList_ofList, List.append_assoc]

/-- Shelves of different slot sizes have different names. -/
theorem fileName_injective : Function.Injective fileName := by
  intro first second hname
  have htext := congrArg String.toList hname
  rw [toList_fileName, toList_fileName, List.append_cancel_left_eq, List.append_cancel_right_eq]
    at htext
  have hnumber := congrArg (Nat.ofDigitChars 10 · 0) htext
  simpa [List.leftpad, Nat.ofDigitChars_append, UInt32.toNat_inj] using hnumber

/-- A shelf file's name holds no slash. -/
theorem slash_not_mem_fileName (slotSize : UInt32) : '/' ∉ (fileName slotSize).toList := by
  rw [toList_fileName, List.leftpad]
  simp only [List.mem_append, List.mem_replicate, not_or]
  refine ⟨by decide, ⟨by simp, fun hdigit => ?_⟩, by decide⟩
  have hisDigit := Nat.isDigit_of_mem_toDigits (by decide) (by decide) hdigit
  simp at hisDigit

/-- A shelf file's name starts with a letter. -/
theorem head?_fileName (slotSize : UInt32) : (fileName slotSize).toList.head? = some 's' := by
  rw [toList_fileName]
  rfl

end Shelf

namespace Path

/-- The names of a shelf file are those of its directory and its own. -/
theorem names_shelfFile (directory : String) (slotSize : UInt32) :
    names (joinText directory (Shelf.fileName slotSize)) =
      names directory ++ [Shelf.fileName slotSize] := by
  refine names_joinText directory (Shelf.slash_not_mem_fileName slotSize) fun hempty => ?_
  have hhead := Shelf.head?_fileName slotSize
  simp [hempty] at hhead

/-- A shelf file stands in its directory. -/
theorem step_fileName (path : Path) (slotSize : UInt32) :
    path.step (Shelf.fileName slotSize) = path ++ [Shelf.fileName slotSize] := by
  have hhead := Shelf.head?_fileName slotSize
  apply step_of_name
  · intro hdot
    simp [hdot] at hhead
  · intro hdots
    simp [hdots] at hhead

/-- The place of a shelf file is its name below the place of its directory. -/
theorem place_shelfFile (directory : String) (slotSize : UInt32) :
    place (joinText directory (Shelf.fileName slotSize)) =
      place directory ++ [Shelf.fileName slotSize] := by
  rw [place, names_shelfFile, List.foldl_append, List.foldl_cons, List.foldl_nil, step_fileName]
  rfl

/-- Shelf files of different slot sizes stand at different places. -/
theorem place_shelfFile_injective (directory : String) :
    Function.Injective fun slotSize => place (joinText directory (Shelf.fileName slotSize)) := by
  intro first second hplace
  simp only [place_shelfFile, List.append_cancel_left_eq, List.cons.injEq, and_true] at hplace
  exact Shelf.fileName_injective hplace

end Path

end BlobLimbo
