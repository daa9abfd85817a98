import BlobLimbo.Json.Basic
import BlobLimbo.Json.Scan
import BlobLimbo.Proofs.Json.Grammar
import BlobLimbo.Proofs.Reading

/-!
# Strings

The reader of strings accepts what spells characters, and nothing else (`readString_eq_ok_iff`).
What it accepts is passed over to the same place by the scanner that drops strings
(`skipString_of_quotable`). The writer spells every string (`spells_escape`).
-/

namespace BlobLimbo.Json

variable {body digits input rest text : List Char} {n : Nat}

/-! ## Characters -/

/-- A character is read as a hexadecimal digit only if it is one. -/
theorem hexDigit_of_hexValue? {c : Char} (hvalue : Bytes.hexValue? c = some n) : HexDigit c n := by
  have hdecimal : ∀ code ≤ '9'.toNat, '0'.toNat ≤ code →
      lowerDigits[code - '0'.toNat]? = some (Char.ofNat code) := by decide
  have hlower : ∀ code ≤ 'f'.toNat, 'a'.toNat ≤ code →
      lowerDigits[code - 'a'.toNat + 10]? = some (Char.ofNat code) := by decide
  have hupper : ∀ code ≤ 'F'.toNat, 'A'.toNat ≤ code →
      upperDigits[code - 'A'.toNat + 10]? = some (Char.ofNat code) := by decide
  unfold Bytes.hexValue? at hvalue
  rw [← Char.ofNat_toNat c]
  split at hvalue
  · rename_i hrange
    obtain rfl := Option.some.inj hvalue
    exact Or.inl (hdecimal c.toNat hrange.2 hrange.1)
  · split at hvalue
    · rename_i hrange
      obtain rfl := Option.some.inj hvalue
      exact Or.inl (hlower c.toNat hrange.2 hrange.1)
    · split at hvalue
      · rename_i hrange
        obtain rfl := Option.some.inj hvalue
        exact Or.inr (hupper c.toNat hrange.2 hrange.1)
      · cases hvalue

/-- Hexadecimal digits are read as the numbers they stand for, and no other character is read. -/
theorem hexValue?_eq_some_iff {c : Char} : Bytes.hexValue? c = some n ↔ HexDigit c n := by
  have hlower : ∀ n < 16, lowerDigits[n]?.bind Bytes.hexValue? = some n := by decide
  have hupper : ∀ n < 16, upperDigits[n]?.bind Bytes.hexValue? = some n := by decide
  refine ⟨hexDigit_of_hexValue?, ?_⟩
  rintro (hdigit | hdigit)
  · have hvalue := hlower n (List.getElem?_eq_some_iff.mp hdigit).1
    rwa [hdigit, Option.bind_some] at hvalue
  · have hvalue := hupper n (List.getElem?_eq_some_iff.mp hdigit).1
    rwa [hdigit, Option.bind_some] at hvalue

/-- Letters behind a backslash are read as the characters that are meant. -/
theorem escaped?_eq_some_iff {c d : Char} : escaped? d = some c ↔ (d, c) ∈ escapeLetters := by
  constructor
  · intro hletter
    unfold escaped? at hletter
    split at hletter <;> cases hletter <;> decide
  · have hall : ∀ pair ∈ escapeLetters, escaped? pair.1 = some pair.2 := by decide
    exact hall (d, c)

theorem isHighSurrogate_iff : isHighSurrogate n = true ↔ HighSurrogate n :=
  decide_eq_true_iff

theorem isLowSurrogate_iff : isLowSurrogate n = true ↔ LowSurrogate n :=
  decide_eq_true_iff

/-- A number is at most one of the two halves of a pair. -/
theorem HighSurrogate.not_lowSurrogate (h : HighSurrogate n) : ¬LowSurrogate n :=
  fun hlow => absurd hlow.1 (Nat.not_le.mpr h.2)

/-! ## Reading -/

/-- Four hexadecimal digits are read as their number. -/
theorem HexQuad.readHex4_append (h : HexQuad digits n) (rest : List Char) :
    readHex4 (digits ++ rest) = .ok (n, rest) := by
  cases h with
  | mk ha hb hc hd =>
    simp only [readHex4, List.cons_append, List.nil_append, hexValue?_eq_some_iff.mpr ha,
      hexValue?_eq_some_iff.mpr hb, hexValue?_eq_some_iff.mpr hc, hexValue?_eq_some_iff.mpr hd]

/-- Only four hexadecimal digits are read as a number. -/
theorem hexQuad_of_readHex4 (hread : readHex4 input = .ok (n, rest)) :
    ∃ digits, HexQuad digits n ∧ input = digits ++ rest := by
  unfold readHex4 at hread
  split at hread
  · split at hread
    · rename_i ha hb hc hd
      obtain ⟨rfl, rfl⟩ := Prod.mk.inj (Except.ok.inj hread)
      exact ⟨_, .mk (hexDigit_of_hexValue? ha) (hexDigit_of_hexValue? hb)
        (hexDigit_of_hexValue? hc) (hexDigit_of_hexValue? hd), rfl⟩
    · cases hread
  · split at hread <;> cases hread

/-- A word that is passed over stood there. -/
theorem eq_append_of_expectWord {word : List Char} (hread : expectWord word input = .ok rest) :
    input = word ++ rest := by
  induction word generalizing input with
  | nil => exact Except.ok.inj hread
  | cons c word ih =>
    cases input with
    | nil => cases hread
    | cons d input =>
      unfold expectWord at hread
      split at hread
      · rename_i hsame
        rw [ih hread, hsame]
        rfl
      · cases hread

/-- No letter of a short escape is that of four digits. -/
theorem ne_u_of_mem_escapeLetters {c d : Char} (hletter : (d, c) ∈ escapeLetters) : d ≠ 'u' := by
  have hall : ∀ pair ∈ escapeLetters, pair.1 ≠ 'u' := by decide
  exact hall (d, c) hletter

/-- An escape is read as the character that is meant. -/
theorem Escape.readEscape_append {c : Char} {escape : List Char} (h : Escape escape c)
    (rest : List Char) : readEscape (escape ++ rest) = .ok (c, rest) := by
  cases h with
  | @letter c d hletter =>
    have hne := ne_u_of_mem_escapeLetters hletter
    rw [List.singleton_append, readEscape.eq_3 d rest hne, escaped?_eq_some_iff.mpr hletter]
  | unicode hdigits hhigh hlow =>
    rw [List.cons_append, readEscape, readUnicode, hdigits.readHex4_append, ok_bind]
    dsimp only
    rw [if_neg (mt isLowSurrogate_iff.mp hlow), if_neg (mt isHighSurrogate_iff.mp hhigh)]
    rfl
  | @pair first second high low hfirst hhigh hsecond hlow =>
    have hsurrogate : readLowSurrogate high ('\\' :: 'u' :: (second ++ rest)) =
        .ok (Char.ofNat (0x10000 + (high - 0xD800) * 0x400 + (low - 0xDC00)), rest) := by
      rw [readLowSurrogate, expectWord, if_pos rfl, expectWord, if_pos rfl, expectWord, ok_bind,
        hsecond.readHex4_append, ok_bind]
      exact if_pos (isLowSurrogate_iff.mpr hlow)
    rw [List.cons_append, List.append_assoc, readEscape, readUnicode, hfirst.readHex4_append,
      ok_bind]
    dsimp only
    rw [if_neg (mt isLowSurrogate_iff.mp hhigh.not_lowSurrogate),
      if_pos (isHighSurrogate_iff.mpr hhigh)]
    exact hsurrogate

/-- The second escape of two is read from a backslash on. -/
theorem exists_of_readLowSurrogate {c : Char} {high : Nat}
    (hread : readLowSurrogate high input = .ok (c, rest)) :
    ∃ second low, HexQuad second low ∧ LowSurrogate low ∧
      input = '\\' :: 'u' :: (second ++ rest) ∧
      c = Char.ofNat (0x10000 + (high - 0xD800) * 0x400 + (low - 0xDC00)) := by
  unfold readLowSurrogate at hread
  obtain ⟨after, hword, hnumber⟩ := bind_eq_ok_iff.mp hread
  obtain ⟨⟨low, behind⟩, hquad, hchar⟩ := bind_eq_ok_iff.mp hnumber
  obtain ⟨second, hsecond, rfl⟩ := hexQuad_of_readHex4 hquad
  obtain rfl := eq_append_of_expectWord hword
  dsimp only at hchar
  split at hchar
  · rename_i hlow
    obtain ⟨rfl, rfl⟩ := Prod.mk.inj (Except.ok.inj hchar)
    exact ⟨second, low, hsecond, isLowSurrogate_iff.mp hlow, rfl, rfl⟩
  · cases hchar

/-- Only an escape is read as one. -/
theorem exists_escape_of_readEscape {c : Char} (hread : readEscape input = .ok (c, rest)) :
    ∃ escape, Escape escape c ∧ input = escape ++ rest := by
  unfold readEscape at hread
  split at hread
  · cases hread
  · unfold readUnicode at hread
    obtain ⟨⟨n, behind⟩, hquad, hchar⟩ := bind_eq_ok_iff.mp hread
    obtain ⟨digits, hdigits, rfl⟩ := hexQuad_of_readHex4 hquad
    dsimp only at hchar
    split at hchar
    · cases hchar
    · rename_i hlow
      split at hchar
      · rename_i hhigh
        obtain ⟨second, low, hsecond, hlow', rfl, hc⟩ := exists_of_readLowSurrogate hchar
        rw [hc]
        exact ⟨_, .pair hdigits (isHighSurrogate_iff.mp hhigh) hsecond hlow', by simp⟩
      · rename_i hhigh
        obtain ⟨rfl, rfl⟩ := Prod.mk.inj (Except.ok.inj hchar)
        exact ⟨_, .unicode hdigits (mt isHighSurrogate_iff.mpr hhigh)
          (mt isLowSurrogate_iff.mpr hlow), rfl⟩
  · split at hread
    · rename_i hletter
      obtain ⟨rfl, rfl⟩ := Prod.mk.inj (Except.ok.inj hread)
      exact ⟨_, .letter (escaped?_eq_some_iff.mp hletter), rfl⟩
    · cases hread

/-- What spells characters is read as these characters. -/
theorem Spells.readCharacters_append (h : Spells body text) {bound : Nat}
    (hbound : body.length < bound) (rest : List Char) :
    readCharacters bound (body ++ '"' :: rest) = .ok (text, rest) := by
  induction h generalizing bound with
  | nil =>
    obtain ⟨bound, rfl⟩ := Nat.exists_eq_succ_of_ne_zero (Nat.ne_zero_of_lt hbound)
    simp [readCharacters]
  | plain hquote hbackslash hcontrol h ih =>
    obtain ⟨bound, rfl⟩ := Nat.exists_eq_succ_of_ne_zero (Nat.ne_zero_of_lt hbound)
    have hrest := ih (Nat.lt_of_succ_lt_succ hbound)
    simp [readCharacters, hquote, hbackslash, Nat.not_lt.mpr hcontrol, hrest]
  | escape hescape h ih =>
    obtain ⟨bound, rfl⟩ := Nat.exists_eq_succ_of_ne_zero (Nat.ne_zero_of_lt hbound)
    rw [List.length_cons, List.length_append] at hbound
    have hrest := ih (by omega : _ < bound)
    simp [readCharacters, hescape.readEscape_append, hrest]

/-- What is read as characters spells them. -/
theorem exists_spells_of_readCharacters {bound : Nat}
    (hread : readCharacters bound input = .ok (text, rest)) :
    ∃ body, Spells body text ∧ input = body ++ '"' :: rest := by
  induction bound generalizing input text with
  | zero => cases hread
  | succ bound ih =>
    cases input with
    | nil => cases hread
    | cons c input =>
      unfold readCharacters at hread
      split at hread
      · rename_i hquote
        obtain ⟨rfl, rfl⟩ := Prod.mk.inj (Except.ok.inj hread)
        exact ⟨[], .nil, by rw [hquote]; rfl⟩
      · rename_i hquote
        split at hread
        · rename_i hbackslash
          obtain ⟨⟨d, behind⟩, hchar, hthen⟩ := bind_eq_ok_iff.mp hread
          obtain ⟨⟨found, last⟩, hrest, hresult⟩ := bind_eq_ok_iff.mp hthen
          obtain ⟨rfl, rfl⟩ := Prod.mk.inj (Except.ok.inj hresult)
          obtain ⟨escape, hescape, rfl⟩ := exists_escape_of_readEscape hchar
          obtain ⟨body, hbody, rfl⟩ := ih hrest
          exact ⟨_, .escape hescape hbody, by rw [hbackslash]; simp⟩
        · rename_i hbackslash
          split at hread
          · cases hread
          · rename_i hcontrol
            obtain ⟨⟨found, last⟩, hrest, hresult⟩ := bind_eq_ok_iff.mp hread
            obtain ⟨rfl, rfl⟩ := Prod.mk.inj (Except.ok.inj hresult)
            obtain ⟨body, hbody, rfl⟩ := ih hrest
            exact ⟨_, .plain hquote hbackslash (Nat.not_lt.mp hcontrol) hbody, rfl⟩

/-- Strings are read from what spells them, up to the quote behind it, and from nothing else. -/
theorem readString_eq_ok_iff :
    readString input = .ok (text, rest) ↔
      ∃ body, Spells body text ∧ input = body ++ '"' :: rest := by
  constructor
  · exact exists_spells_of_readCharacters
  · rintro ⟨body, hbody, rfl⟩
    apply hbody.readCharacters_append
    rw [List.length_append]
    omega

/-- What may stand between quotes is passed over up to the quote behind it. -/
theorem Quotable.skipCharacters_append (h : Quotable body) {bound : Nat}
    (hbound : body.length < bound) (rest : List Char) :
    skipCharacters bound (body ++ '"' :: rest) = .ok rest := by
  induction h generalizing bound with
  | nil =>
    obtain ⟨bound, rfl⟩ := Nat.exists_eq_succ_of_ne_zero (Nat.ne_zero_of_lt hbound)
    simp [skipCharacters]
  | plain hquote hbackslash hcontrol h ih =>
    obtain ⟨bound, rfl⟩ := Nat.exists_eq_succ_of_ne_zero (Nat.ne_zero_of_lt hbound)
    have hrest := ih (Nat.lt_of_succ_lt_succ hbound)
    simp [skipCharacters, hquote, hbackslash, Nat.not_lt.mpr hcontrol, hrest]
  | @letter c d body hletter h ih =>
    obtain ⟨bound, rfl⟩ := Nat.exists_eq_succ_of_ne_zero (Nat.ne_zero_of_lt hbound)
    rw [List.length_cons, List.length_cons] at hbound
    have hrest := ih (by omega : body.length < bound)
    have hne := ne_u_of_mem_escapeLetters hletter
    simp [skipCharacters, escaped?_eq_some_iff.mpr hletter, hrest]
  | unicode hdigits h ih =>
    obtain ⟨bound, rfl⟩ := Nat.exists_eq_succ_of_ne_zero (Nat.ne_zero_of_lt hbound)
    rw [List.length_cons, List.length_cons, List.length_append] at hbound
    have hrest := ih (by omega : _ < bound)
    simp [skipCharacters, hdigits.readHex4_append, hrest]

/-- Strings are passed over up to the quote behind them. -/
theorem skipString_of_quotable (h : Quotable body) (rest : List Char) :
    skipString (body ++ '"' :: rest) = .ok rest := by
  apply h.skipCharacters_append
  rw [List.length_append]
  omega

/-- The digits the writer uses for a control character are those of its number. -/
theorem hexQuad_controlDigits {c : Char} (hc : c.toNat < 0x20) :
    HexQuad (controlDigits c) c.toNat := by
  have hall : ∀ n < 0x20, (readHex4 ((Nat.toDigits 16 n).leftpad 4 '0')).toOption =
      some (n, []) := by
    decide
  have hread := hall c.toNat hc
  rw [← controlDigits] at hread
  cases hquad : readHex4 (controlDigits c) with
  | error fault =>
    rw [hquad] at hread
    cases hread
  | ok result =>
    rw [hquad] at hread
    obtain rfl : result = (c.toNat, []) := Option.some.inj hread
    obtain ⟨digits, hdigits, hsame⟩ := hexQuad_of_readHex4 hquad
    rw [hsame, List.append_nil]
    exact hdigits

/-- The writer spells every character. -/
theorem spells_escapeChar (c : Char) : Spells (escapeChar c) [c] := by
  unfold escapeChar
  split
  · exact .escape (.letter (by decide)) .nil
  · exact .escape (.letter (by decide)) .nil
  · exact .escape (.letter (by decide)) .nil
  · exact .escape (.letter (by decide)) .nil
  · exact .escape (.letter (by decide)) .nil
  · exact .escape (.letter (by decide)) .nil
  · exact .escape (.letter (by decide)) .nil
  · rename_i hquote hbackslash _ _ _ _ _
    split
    · rename_i hcontrol
      have hhigh : ¬HighSurrogate c.toNat := fun hhigh => by
        have := hhigh.1
        omega
      have hlow : ¬LowSurrogate c.toNat := fun hlow => by
        have := hlow.1
        omega
      have hspells := Spells.escape (.unicode (hexQuad_controlDigits hcontrol) hhigh hlow) .nil
      rwa [Char.ofNat_toNat, List.append_nil] at hspells
    · rename_i hplain
      exact .plain hquote hbackslash (Nat.not_lt.mp hplain) .nil

/-- What is spelled one after the other is spelled together. -/
theorem Spells.append {body' text' : List Char} (h : Spells body text) (h' : Spells body' text') :
    Spells (body ++ body') (text ++ text') := by
  induction h with
  | nil => exact h'
  | plain hquote hbackslash hcontrol _ ih => exact .plain hquote hbackslash hcontrol ih
  | escape hescape _ ih =>
    rw [List.cons_append, List.append_assoc]
    exact .escape hescape ih

/-- The writer spells every string. -/
theorem spells_escape (text : List Char) : Spells (text.flatMap escapeChar) text := by
  induction text with
  | nil => exact .nil
  | cons c text ih => exact (spells_escapeChar c).append ih

end BlobLimbo.Json
