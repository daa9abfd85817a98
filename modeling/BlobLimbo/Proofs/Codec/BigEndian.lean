import BlobLimbo.Bytes
import Mathlib.Data.List.Induction
import Mathlib.Tactic.Ring

/-!
# Numbers as byte strings

Both written forms of a number can be read back, and each number has one minimal form: a byte
string of at most eight bytes that does not start with a zero is the minimal form of the number it
denotes. Headers and block numbers rest on these facts.
-/

namespace BlobLimbo.Bytes

/-- Reading a number is accumulation in base 256, from any value on. -/
theorem foldl_eq (bytes : Bytes) (start : Nat) :
    bytes.foldl (fun n byte => n * 256 + byte.toNat) start =
      start * 256 ^ bytes.length + toNat bytes := by
  induction bytes generalizing start with
  | nil => simp [toNat]
  | cons byte bytes ih =>
    simp only [List.foldl_cons, List.length_cons, toNat, Nat.zero_mul, Nat.zero_add]
    rw [ih (start * 256 + byte.toNat), ih byte.toNat]
    ring

/-- Byte strings one after the other denote the first number shifted, plus the second. -/
theorem toNat_append (left right : Bytes) :
    toNat (left ++ right) = toNat left * 256 ^ right.length + toNat right := by
  simp only [toNat, List.foldl_append]
  exact foldl_eq right _

/-- The first byte is the most significant one. -/
theorem toNat_cons (byte : UInt8) (bytes : Bytes) :
    toNat (byte :: bytes) = byte.toNat * 256 ^ bytes.length + toNat bytes := by
  have h := toNat_append [byte] bytes
  simpa [toNat] using h

/-- A byte string of length `w` denotes a number of `w` bytes. -/
theorem toNat_lt (bytes : Bytes) : toNat bytes < 256 ^ bytes.length := by
  induction bytes with
  | nil => simp [toNat]
  | cons byte bytes ih =>
    have hbyte : byte.toNat < 256 := byte.toNat_lt
    have hmul : byte.toNat * 256 ^ bytes.length ≤ 255 * 256 ^ bytes.length :=
      Nat.mul_le_mul_right _ (by omega)
    rw [toNat_cons, List.length_cons, Nat.pow_succ]
    omega

/-- Zeros in front do not change the number. -/
theorem toNat_replicate_zero_append (count : Nat) (bytes : Bytes) :
    toNat (List.replicate count 0 ++ bytes) = toNat bytes := by
  induction count with
  | zero => rfl
  | succ count ih =>
    rw [List.replicate_succ, List.cons_append, toNat_cons, ih]
    simp

/-- A fixed width keeps the low bytes of a number. -/
theorem toNat_ofNat (width n : Nat) : toNat (ofNat width n) = n % 256 ^ width := by
  induction width generalizing n with
  | zero => simp [ofNat, toNat, Nat.mod_one]
  | succ width ih =>
    have hlast : toNat [UInt8.ofNat n] = n % 256 := by simp [toNat]
    rw [ofNat, toNat_append, ih, hlast, List.length_singleton, Nat.pow_one, Nat.pow_succ,
      Nat.mul_comm (256 ^ width) 256, Nat.mod_mul]
    ring

/-- Writing the number of a byte string in the width of the string gives the string back. -/
theorem ofNat_toNat (bytes : Bytes) : ofNat bytes.length (toNat bytes) = bytes := by
  induction bytes using List.reverseRecOn with
  | nil => rfl
  | append_singleton bytes byte ih =>
    have hbyte : byte.toNat < 256 := byte.toNat_lt
    have hnum : toNat (bytes ++ [byte]) = toNat bytes * 256 + byte.toNat := by
      simp [toNat, List.foldl_append]
    have hdiv : (toNat bytes * 256 + byte.toNat) / 256 = toNat bytes := by omega
    rw [List.length_append, List.length_singleton, hnum, ofNat, hdiv, ih]
    congr 2
    rw [← UInt8.toNat_inj, UInt8.toNat_ofNat']
    omega

/-- What is left of a byte string after its leading zeros. -/
theorem replicate_append_dropWhile (bytes : Bytes) :
    List.replicate (bytes.length - (bytes.dropWhile (· == 0)).length) 0 ++
      bytes.dropWhile (· == 0) = bytes := by
  induction bytes with
  | nil => rfl
  | cons byte bytes ih =>
    by_cases hbyte : byte = 0
    · subst hbyte
      have hle : (bytes.dropWhile (· == 0)).length ≤ bytes.length :=
        (List.dropWhile_sublist _).length_le
      rw [List.dropWhile_cons_of_pos (by rfl), List.length_cons, Nat.sub_add_comm hle,
        List.replicate_succ, List.cons_append, ih]
    · rw [List.dropWhile_cons_of_neg (by simpa using hbyte), Nat.sub_self]
      rfl

/-- The minimal form denotes its number. -/
theorem toNat_minimal {n : Nat} (hn : n < 2 ^ 64) : toNat (minimal n) = n := by
  have h := congrArg toNat (replicate_append_dropWhile (ofNat 8 n))
  rw [toNat_replicate_zero_append, toNat_ofNat] at h
  rw [minimal, h]
  exact Nat.mod_eq_of_lt (by omega)

/-- The minimal form takes at most eight bytes. -/
theorem length_minimal_le (n : Nat) : (minimal n).length ≤ 8 := by
  have h := (List.dropWhile_sublist (l := ofNat 8 n) (· == 0)).length_le
  simpa [minimal] using h

/-- The minimal form does not start with a zero. -/
theorem head?_minimal (n : Nat) : (minimal n).head? ≠ some 0 := by
  intro h
  have hnot := List.head?_dropWhile_not (· == 0) (ofNat 8 n)
  rw [minimal] at h
  rw [h] at hnot
  simp at hnot

/-- A byte string of at most eight bytes without a leading zero is the minimal form of the number
it denotes. -/
theorem minimal_toNat {digits : Bytes} (hlength : digits.length ≤ 8)
    (hhead : digits.head? ≠ some 0) : minimal (toNat digits) = digits := by
  have hpad : ofNat 8 (toNat digits) = List.replicate (8 - digits.length) 0 ++ digits := by
    have h := ofNat_toNat (List.replicate (8 - digits.length) 0 ++ digits)
    rw [toNat_replicate_zero_append, List.length_append, List.length_replicate] at h
    rwa [Nat.sub_add_cancel hlength] at h
  have hdrop : digits.dropWhile (· == 0) = digits := by
    cases digits with
    | nil => rfl
    | cons digit digits =>
      refine List.dropWhile_cons_of_neg ?_
      simpa using hhead
  rw [minimal, hpad, List.dropWhile_append_of_pos (by simp), hdrop]

/-- A byte string that does not start with a zero needs its length. -/
theorem pow_le_toNat {byte : UInt8} (hbyte : byte ≠ 0) (bytes : Bytes) :
    256 ^ bytes.length ≤ toNat (byte :: bytes) := by
  have hpos : 0 < byte.toNat := by
    rw [Nat.pos_iff_ne_zero, ne_eq, ← UInt8.toNat_zero, UInt8.toNat_inj]
    exact hbyte
  rw [toNat_cons]
  exact Nat.le_add_right_of_le (Nat.le_mul_of_pos_left _ hpos)

/-- A larger number takes no fewer bytes. -/
theorem length_minimal_mono {m n : Nat} (hle : m ≤ n) (hn : n < 2 ^ 64) :
    (minimal m).length ≤ (minimal n).length := by
  cases hdigits : minimal m with
  | nil => exact Nat.zero_le _
  | cons byte bytes =>
    have hbyte : byte ≠ 0 := by
      intro hzero
      have hhead := head?_minimal m
      simp [hdigits, hzero] at hhead
    have hlow := pow_le_toNat hbyte bytes
    rw [← hdigits, toNat_minimal (Nat.lt_of_le_of_lt hle hn)] at hlow
    have hhigh := toNat_lt (minimal n)
    rw [toNat_minimal hn] at hhigh
    have hpow : 256 ^ bytes.length < 256 ^ (minimal n).length := by omega
    exact (Nat.pow_lt_pow_iff_right (by decide)).mp hpow

/-- A minimal form is empty only for zero. -/
theorem length_minimal_pos {n : Nat} (hpos : 0 < n) (hn : n < 2 ^ 64) :
    0 < (minimal n).length := by
  rw [List.length_pos_iff]
  intro hnil
  have h := toNat_minimal hn
  rw [hnil] at h
  simp only [toNat, List.foldl_nil] at h
  omega

end BlobLimbo.Bytes
