/-!
# Cutting texts

Places in a text are counted in bytes of its encoding. A text can be cut only between characters:
a place inside a character is none. Main statement: what lies before and after a place is found by
its distance from the start.
-/

namespace BlobLimbo.Text

/-- The number of bytes of a text. -/
def byteLength : List Char → Nat
  | [] => 0
  | c :: text => c.utf8Size + byteLength text

/-- Divides a text after a number of bytes, unless this is inside a character. -/
def splitAtByte? : List Char → Nat → Option (List Char × List Char)
  | text, 0 => some ([], text)
  | [], _ + 1 => some ([], [])
  | c :: text, n + 1 =>
    if c.utf8Size ≤ n + 1 then do
      let (left, right) ← splitAtByte? text (n + 1 - c.utf8Size)
      return (c :: left, right)
    else none

/-- What follows a number of bytes of a text. -/
def cutFrom? (text : List Char) (start : Nat) : Option (List Char) :=
  (splitAtByte? text start).map Prod.snd

/-- The part of a text from one number of bytes to another. -/
def cut? (text : List Char) (start stop : Nat) : Option (List Char) := do
  let rest ← cutFrom? text start
  let (part, _) ← splitAtByte? rest (stop - start)
  return part

@[simp]
theorem byteLength_nil : byteLength [] = 0 := rfl

@[simp]
theorem byteLength_cons (c : Char) (text : List Char) :
    byteLength (c :: text) = c.utf8Size + byteLength text := rfl

/-- A text is divided between two parts by the length of the first. -/
theorem splitAtByte?_append (left right : List Char) :
    splitAtByte? (left ++ right) (byteLength left) = some (left, right) := by
  induction left with
  | nil => cases right <;> rfl
  | cons c left ih =>
    obtain ⟨n, hn⟩ : ∃ n, byteLength (c :: left) = n + 1 :=
      ⟨byteLength (c :: left) - 1, by have := c.utf8Size_pos; simp; omega⟩
    have hle : c.utf8Size ≤ n + 1 := by simp at hn; omega
    have hsub : n + 1 - c.utf8Size = byteLength left := by simp at hn; omega
    simp [hn, splitAtByte?, hle, hsub, ih]

/-- What follows a part of a text is found by the length of this part. -/
theorem cutFrom?_append (left right : List Char) :
    cutFrom? (left ++ right) (byteLength left) = some right := by
  simp [cutFrom?, splitAtByte?_append]

end BlobLimbo.Text
