import BlobLimbo.Json.Read
import BlobLimbo.Proofs.Json.Skipping

/-!
# Reading values

Each reader of values takes the text of a value behind any blanks, and leaves what follows it
(`ReadsAs`). A reader that succeeds has passed over one value (`Skips`), so it can leave nothing
else than what follows the value that stands there.
-/

namespace BlobLimbo.Json

variable {α : Type} {blanks body digits input rest text : List Char} {n : Nat}

/-- A reader takes a text for a value, whatever blanks stand in front of it and whatever follows
that continues no number. -/
def ReadsAs (read : List Char → Except Fault (α × List Char)) (text : List Char) (a : α) : Prop :=
  ∀ blanks rest, Blank blanks → Stops rest → read (blanks ++ (text ++ rest)) = .ok (a, rest)

/-! ## Texts and truth values -/

/-- A text between quotes is read as the characters it spells. -/
theorem readsAs_text {s : String} (h : Spells body s.toList) :
    ReadsAs readText ('"' :: (body ++ ['"'])) s := by
  intro blanks rest hblanks _
  have hread : readString (body ++ '"' :: rest) = .ok (s.toList, rest) :=
    readString_eq_ok_iff.mpr ⟨body, h, rfl⟩
  have hskip := hblanks.skipSpace_append (c := '"') rfl (body ++ '"' :: rest)
  rw [List.cons_append, List.append_assoc, List.singleton_append, readText, hskip]
  simp [hread]

/-- The words for truth values are read as such. -/
theorem readsAs_bool (b : Bool) : ReadsAs readBool (compact (.bool b)) b := by
  intro blanks rest hblanks _
  cases b with
  | true =>
    have hskip := hblanks.skipSpace_append (c := 't') rfl ('r' :: 'u' :: 'e' :: rest)
    simp only [compact, List.cons_append, List.nil_append, readBool, hskip]
    rfl
  | false =>
    have hskip := hblanks.skipSpace_append (c := 'f') rfl ('a' :: 'l' :: 's' :: 'e' :: rest)
    simp only [compact, List.cons_append, List.nil_append, readBool, hskip]
    rfl

/-! ## Numbers -/

/-- Digits are appended to a number as long as the result stays in 64 bits. -/
theorem appendDigits_eq (significand : Nat)
    (hfits : Nat.ofDigitChars 10 digits significand ≤ maxSignificand) :
    appendDigits significand digits =
      (Nat.ofDigitChars 10 digits significand, digits.length, 0) := by
  induction digits generalizing significand with
  | nil => rfl
  | cons d digits ih =>
    have hnext : Nat.ofDigitChars 10 (d :: digits) significand =
        Nat.ofDigitChars 10 digits (significand * 10 + digitValue d) := by
      rw [Nat.ofDigitChars_cons, Nat.mul_comm]
      rfl
    have hle : significand * 10 + digitValue d ≤
        Nat.ofDigitChars 10 digits (significand * 10 + digitValue d) := by
      rw [Nat.ofDigitChars_eq_ofDigitChars_zero]
      have hpow : 1 ≤ 10 ^ digits.length := Nat.one_le_pow _ _ (by decide)
      exact Nat.le_add_right_of_le (Nat.le_mul_of_pos_left _ hpow)
    rw [hnext] at hfits ⊢
    have hnot : ¬maxSignificand < significand * 10 + digitValue d := by omega
    simp only [appendDigits, if_neg hnot, ih _ hfits, List.length_cons]

/-- A decimal number has no needless zeros in front. -/
theorem whole_toDigits (n : Nat) : Whole (Nat.toDigits 10 n) := by
  have hdigits : Digits (Nat.toDigits 10 n) :=
    ⟨Nat.toDigits_ne_nil, fun c hc => Nat.isDigit_of_mem_toDigits (by decide) (by decide) hc⟩
  have hzero : ∀ digits, Nat.toDigits 10 n = '0' :: digits → n = 0 := by
    clear hdigits
    induction n using Nat.base_induction 10 (by decide) with
    | single m hm =>
      intro digits hsame
      rw [Nat.toDigits_of_lt_base hm] at hsame
      have hchar : ∀ m < 10, m.digitChar = '0' → m = 0 := by decide
      exact hchar m hm (List.cons.inj hsame).1
    | digit m k hk hm ih =>
      intro digits hsame
      rw [← Nat.toDigits_append_toDigits (by decide) hm hk] at hsame
      obtain ⟨d, tail, hcons⟩ := List.exists_cons_of_ne_nil (Nat.toDigits_ne_nil (n := m) (b := 10))
      rw [hcons, List.cons_append] at hsame
      have hfront := ih tail (by rw [hcons, (List.cons.inj hsame).1])
      omega
  refine ⟨hdigits, fun digits hsame => ?_⟩
  rw [hzero digits hsame, Nat.toDigits_zero] at hsame
  exact (List.cons.inj hsame).2.symm

/-- A natural number of 64 bits is read from its decimal digits. -/
theorem readNumber_toDigits (hn : n ≤ maxSignificand) (hrest : Stops rest) :
    readNumber (Nat.toDigits 10 n ++ rest) = .ok (.natural n, rest) := by
  have hwhole := whole_toDigits n
  obtain ⟨htake, hdrop⟩ := hwhole.1.takeWhile_append hrest.noDigit
  have hvalue : appendDigits 0 (Nat.toDigits 10 n) = (n, (Nat.toDigits 10 n).length, 0) := by
    have hdigits := Nat.ofDigitChars_ten_toDigits (n := n)
    rw [appendDigits_eq 0 (by rwa [hdigits]), hdigits]
  obtain ⟨d, tail, hcons, hd⟩ := hwhole.1.exists_cons
  unfold readNumber
  rw [hcons, List.cons_append] at htake hdrop ⊢
  split
  rename_i negative input hsign
  obtain ⟨rfl, rfl⟩ : false = negative ∧ d :: (tail ++ rest) = input := by
    split at hsign
    · rename_i hminus
      exact absurd (List.cons.inj hminus).1 (ne_of_isDigit hd rfl)
    · exact Prod.mk.injEq .. ▸ hsign
  dsimp only
  rw [htake, hdrop]
  split
  · rename_i hnil
    cases hnil
  · rename_i hzero
    rw [hcons, hzero] at hwhole
    exact hwhole.not_zero_cons.elim
  · rw [hcons] at hvalue
    simp only [hvalue]
    split
    · exact absurd rfl (hrest _ _ rfl).2.1
    · exact absurd rfl (hrest _ _ rfl).2.2.1
    · exact absurd rfl (hrest _ _ rfl).2.2.2
    · rfl

/-- A number of 32 bits is read from its decimal digits. -/
theorem readsAs_uint32 (n : UInt32) : ReadsAs readUInt32 (Nat.toDigits 10 n.toNat) n := by
  intro blanks rest hblanks hrest
  obtain ⟨d, tail, hcons, hd⟩ := (whole_toDigits n.toNat).1.exists_cons
  have hsmall : n.toNat < UInt32.size := n.toNat_lt_size
  have hread : readNumber (Nat.toDigits 10 n.toNat ++ rest) = .ok (.natural n.toNat, rest) :=
    readNumber_toDigits (Nat.le_of_lt (Nat.lt_trans hsmall (by decide))) hrest
  have hskip := hblanks.skipSpace_append (isSpace_of_isDigit hd) (tail ++ rest)
  rw [hcons, List.cons_append] at hread ⊢
  simp only [readUInt32, hskip, hd, or_true, if_true, hread, hsmall, UInt32.ofNat_toNat]

/-! ## Names -/

/-- A name is read from the text that spells it. -/
theorem readsAs_name {ofName? : String → Option α} {name : String} {a : α}
    (h : Spells body name.toList) (hname : ofName? name = some a) :
    ReadsAs (readName ofName?) ('"' :: (body ++ ['"'])) a := by
  intro blanks rest hblanks hrest
  have hread : readText ('"' :: (body ++ '"' :: rest)) = .ok (name, rest) := by
    have htext := readsAs_text h [] rest (fun c hc => absurd hc List.not_mem_nil) hrest
    rwa [List.nil_append, List.cons_append, List.append_assoc, List.singleton_append] at htext
  have hskip := hblanks.skipSpace_append (c := '"') rfl (body ++ '"' :: rest)
  rw [List.cons_append, List.append_assoc, List.singleton_append, readName, hskip]
  simp [hread, hname]

/-! ## What a reader passes over -/

/-- A mark that is passed over stood behind blanks. -/
theorem exists_of_expectMark {mark : Char} (hread : expectMark mark input = .ok rest) :
    ∃ blanks, Blank blanks ∧ input = blanks ++ mark :: rest := by
  obtain ⟨blanks, hblanks, hinput⟩ := exists_blank_append input
  unfold expectMark at hread
  split at hread
  · cases hread
  · rename_i c tail hskip
    split at hread
    · rename_i hsame
      rw [hskip, hsame, Except.ok.inj hread] at hinput
      exact ⟨blanks, hblanks, hinput⟩
    · cases hread

/-- A value is passed over with the blanks in front of it. -/
theorem Skips.of_skipSpace (h : Skips (skipSpace input) rest) : Skips input rest := by
  obtain ⟨blanks, -, hinput⟩ := exists_blank_append input
  have hlength : (skipSpace input).length ≤ input.length :=
    (List.dropWhile_suffix _).length_le
  exact fun brackets => (h brackets).congr_skipSpace (by decide) (skipSpace_skipSpace input).symm
    hlength

/-- A reader of texts passes over a value. -/
theorem skips_of_readText {s : String} (hread : readText input = .ok (s, rest)) :
    Skips input rest := by
  apply Skips.of_skipSpace
  unfold readText at hread
  split at hread
  · rename_i behind hskip
    obtain ⟨⟨text, last⟩, hstring, hresult⟩ := bind_eq_ok_iff.mp hread
    obtain ⟨-, rfl⟩ := Prod.mk.inj (Except.ok.inj hresult)
    obtain ⟨body, hbody, rfl⟩ := readString_eq_ok_iff.mp hstring
    rw [hskip]
    exact fun brackets => hbody.quotable.passes brackets last
  · cases hread

/-- A name that is the only member of an object, with the value null, is passed over. -/
theorem skips_only_member {key first second third fourth : List Char} (hkey : Quotable key)
    (hfirst : Blank first) (hsecond : Blank second) (hthird : Blank third)
    (hfourth : Blank fourth) (rest : List Char) :
    Skips ('\x7b' :: (first ++ '"' :: (key ++ '"' :: (second ++ ':' ::
      (third ++ 'n' :: 'u' :: 'l' :: 'l' :: (fourth ++ '\x7d' :: rest)))))) rest := by
  intro brackets
  have hskip := hfirst.skipSpace_append (c := '"') rfl (key ++ '"' :: (second ++ ':' ::
    (third ++ 'n' :: 'u' :: 'l' :: 'l' :: (fourth ++ '\x7d' :: rest))))
  have hnot : closes .object '"' = false := rfl
  have hclose : closes .object '\x7d' = true := rfl
  have hname := hfirst.passes (by decide) (hkey.passes_name hsecond (.object :: brackets)
    (third ++ 'n' :: 'u' :: 'l' :: 'l' :: (fourth ++ '\x7d' :: rest)))
  have hnull := hthird.passes (by decide)
    (passes_word (.object :: brackets) (fourth ++ '\x7d' :: rest)).1
  have hend := hfourth.passes_close hclose (Or.inr rfl) brackets rest
  exact (passes_open hskip hnot brackets).trans (hname.trans (hnull.trans hend))

/-- A null value that is read stands behind blanks. -/
theorem exists_of_readNull (hread : readNull input = .ok rest) :
    ∃ blanks, Blank blanks ∧ input = blanks ++ 'n' :: 'u' :: 'l' :: 'l' :: rest := by
  obtain ⟨blanks, hblanks, hinput⟩ := exists_blank_append input
  unfold readNull at hread
  split at hread
  · rename_i behind hskip
    rw [hskip, eq_append_of_expectWord hread] at hinput
    exact ⟨blanks, hblanks, hinput⟩
  · cases hread

/-- A reader of names passes over a value. -/
theorem skips_of_readName {ofName? : String → Option α} {a : α}
    (hread : readName ofName? input = .ok (a, rest)) : Skips input rest := by
  apply Skips.of_skipSpace
  unfold readName at hread
  split at hread
  · cases hread
  · rename_i c behind hskip
    rw [hskip]
    split at hread
    · rename_i hquote
      obtain ⟨⟨name, last⟩, htext, hresult⟩ := bind_eq_ok_iff.mp hread
      dsimp only at hresult
      split at hresult
      · obtain ⟨-, rfl⟩ := Prod.mk.inj (Except.ok.inj hresult)
        exact skips_of_readText htext
      · cases hresult
    · split at hread
      · rename_i hbrace
        obtain ⟨atName, hmark, hthen⟩ := bind_eq_ok_iff.mp hread
        obtain ⟨⟨name, atColon⟩, hstring, hmember⟩ := bind_eq_ok_iff.mp hthen
        dsimp only at hmember
        split at hmember
        · obtain ⟨atValue, hcolon, hnull⟩ := bind_eq_ok_iff.mp hmember
          obtain ⟨atClose, hvalue, hclose⟩ := bind_eq_ok_iff.mp hnull
          obtain ⟨last, hend, hresult⟩ := bind_eq_ok_iff.mp hclose
          obtain ⟨-, rfl⟩ := Prod.mk.inj (Except.ok.inj hresult)
          obtain ⟨first, hfirst, rfl⟩ := exists_of_expectMark hmark
          obtain ⟨body, hbody, rfl⟩ := readString_eq_ok_iff.mp hstring
          obtain ⟨second, hsecond, rfl⟩ := exists_of_expectMark hcolon
          obtain ⟨third, hthird, rfl⟩ := exists_of_readNull hvalue
          obtain ⟨fourth, hfourth, rfl⟩ := exists_of_expectMark hend
          rw [hbrace]
          exact skips_only_member hbody.quotable hfirst hsecond hthird hfourth last
        · cases hmember
      · cases hread

end BlobLimbo.Json
