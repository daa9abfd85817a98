import BlobLimbo.Proofs.Json.Strings
import Mathlib.Data.List.DropRight

/-!
# Passing over values

Values of any shape and depth are passed over up to the character behind them, provided this does
not continue a number (`Written.skips`). The scanner keeps the open brackets in a list, so the steps
it takes are followed with any brackets around (`Passes`); there are at most two of them for each
character.
-/

namespace BlobLimbo.Json

variable {input rest text digits : List Char}

/-! ## Blanks -/

theorem isSpace_iff {c : Char} : isSpace c = true ↔ c ∈ blankChars := by
  simp [isSpace, blankChars]

theorem Blank.forall_isSpace (h : Blank text) : ∀ c ∈ text, isSpace c = true :=
  fun c hc => isSpace_iff.mpr (h c hc)

/-- Blanks are passed over up to what follows them. -/
theorem Blank.skipSpace_append (h : Blank text) {c : Char} (hc : isSpace c = false)
    (rest : List Char) : skipSpace (text ++ c :: rest) = c :: rest := by
  rw [skipSpace, List.dropWhile_append_of_pos h.forall_isSpace,
    List.dropWhile_cons_of_neg (by simp [hc])]

/-- Blanks do not matter to what stands behind them. -/
theorem Blank.skipSpace_append_eq (h : Blank text) (input : List Char) :
    skipSpace (text ++ input) = skipSpace input :=
  List.dropWhile_append_of_pos h.forall_isSpace

/-- In front of what is left when blanks are passed over there were blanks. -/
theorem exists_blank_append (input : List Char) :
    ∃ blanks, Blank blanks ∧ input = blanks ++ skipSpace input :=
  ⟨input.takeWhile isSpace, fun _ hc => isSpace_iff.mp (List.mem_takeWhile_imp hc),
    List.takeWhile_append_dropWhile.symm⟩

theorem skipSpace_skipSpace (input : List Char) : skipSpace (skipSpace input) = skipSpace input :=
  List.dropWhile_idempotent _ _

/-! ## Numbers -/

/-- What follows does not start with a digit. -/
def NoDigit (rest : List Char) : Prop :=
  ∀ c tail, rest = c :: tail → c.isDigit = false

/-- What follows does not continue a number. -/
def Stops (rest : List Char) : Prop :=
  ∀ c tail, rest = c :: tail → c.isDigit = false ∧ c ≠ '.' ∧ c ≠ 'e' ∧ c ≠ 'E'

theorem Stops.noDigit (h : Stops rest) : NoDigit rest :=
  fun c tail hrest => (h c tail hrest).1

/-- A character that continues no number stops one. -/
theorem stops_cons {c : Char} (hc : c.isDigit = false ∧ c ≠ '.' ∧ c ≠ 'e' ∧ c ≠ 'E')
    (rest : List Char) : Stops (c :: rest) := by
  intro d tail hrest
  rw [(List.cons.inj hrest).1.symm]
  exact hc

/-- Blanks stop a number if what follows them does. -/
theorem Blank.stops_append {blanks : List Char} (h : Blank blanks) (hrest : Stops rest) :
    Stops (blanks ++ rest) := by
  cases blanks with
  | nil => exact hrest
  | cons c blanks =>
    have hc := h c List.mem_cons_self
    simp only [blankChars, List.mem_cons, List.not_mem_nil, or_false] at hc
    apply stops_cons
    rcases hc with rfl | rfl | rfl | rfl <;> decide

/-- A comma behind blanks stops a number. -/
theorem Blank.stops_comma {blanks : List Char} (h : Blank blanks) (rest : List Char) :
    Stops (blanks ++ ',' :: rest) :=
  h.stops_append (stops_cons ⟨rfl, by decide, by decide, by decide⟩ rest)

/-- A bracket that closes behind blanks stops a number. -/
theorem Blank.stops_close {blanks : List Char} (h : Blank blanks) {bracket : Bracket} {c : Char}
    (hclose : closes bracket c = true) (rest : List Char) : Stops (blanks ++ c :: rest) := by
  apply h.stops_append
  cases bracket with
  | list =>
    obtain rfl : c = ']' := of_decide_eq_true hclose
    exact stops_cons ⟨rfl, by decide, by decide, by decide⟩ rest
  | object =>
    obtain rfl : c = '\x7d' := of_decide_eq_true hclose
    exact stops_cons ⟨rfl, by decide, by decide, by decide⟩ rest

/-- Digits are taken up to what follows them. -/
theorem Digits.takeWhile_append (h : Digits digits) (hrest : NoDigit rest) :
    (digits ++ rest).takeWhile Char.isDigit = digits ∧
      (digits ++ rest).dropWhile Char.isDigit = rest := by
  rw [List.takeWhile_append_of_pos h.2, List.dropWhile_append_of_pos h.2]
  cases rest with
  | nil => simp
  | cons c rest => simp [hrest c rest rfl]

/-- Digits are passed over. -/
theorem Digits.skipDigits_append (h : Digits digits) (hrest : NoDigit rest) :
    skipDigits (digits ++ rest) = .ok rest := by
  obtain ⟨htake, hdrop⟩ := h.takeWhile_append hrest
  rw [skipDigits, htake, hdrop, if_neg (by simpa using h.1)]

/-- Digits start with one. -/
theorem Digits.exists_cons (h : Digits digits) :
    ∃ d tail, digits = d :: tail ∧ d.isDigit = true := by
  cases digits with
  | nil => exact absurd rfl h.1
  | cons d tail => exact ⟨d, tail, rfl, h.2 d List.mem_cons_self⟩

/-- The digits of an exponent are passed over, with a sign or without. -/
theorem Digits.skipExponent_append (h : Digits digits) (hrest : NoDigit rest) :
    skipExponent (digits ++ rest) = .ok rest ∧
      ∀ sign, sign = '+' ∨ sign = '-' → skipExponent (sign :: (digits ++ rest)) = .ok rest := by
  have hskip := h.skipDigits_append hrest
  constructor
  · obtain ⟨d, tail, rfl, hd⟩ := h.exists_cons
    rw [List.cons_append, skipExponent.eq_3]
    · exact hskip
    · rintro _ ⟨⟩
      cases hd
    · rintro _ ⟨⟩
      cases hd
  · rintro sign (rfl | rfl)
    · exact hskip
    · exact hskip

/-- A whole part is passed over as digits are. -/
theorem Whole.not_zero_cons {d : Char} {tail : List Char} (h : Whole ('0' :: d :: tail)) : False :=
  List.cons_ne_nil d tail (h.2 _ rfl)

/-- An exponent does not start with a digit. -/
theorem Exponent.noDigit_append {exponent : List Char} (h : Exponent exponent)
    (hrest : Stops rest) : NoDigit (exponent ++ rest) := by
  cases h with
  | none => exact hrest.noDigit
  | plain he _ =>
    rintro c tail ⟨⟩
    rcases he with rfl | rfl <;> rfl
  | signed he _ _ =>
    rintro c tail ⟨⟩
    rcases he with rfl | rfl <;> rfl

/-- A fraction does not start with a digit. -/
theorem Fraction.noDigit_append {fraction : List Char} (h : Fraction fraction)
    (hrest : NoDigit rest) : NoDigit (fraction ++ rest) := by
  cases h with
  | none => exact hrest
  | some _ =>
    rintro c tail ⟨⟩
    rfl

/-- An exponent is either left out, or passed over behind its `e`. -/
theorem Exponent.cases_append {exponent : List Char} (h : Exponent exponent)
    (hrest : Stops rest) :
    exponent = [] ∨ ∃ e tail, (e = 'e' ∨ e = 'E') ∧ exponent = e :: tail ∧
      skipExponent (tail ++ rest) = .ok rest := by
  cases h with
  | none => exact Or.inl rfl
  | plain he hdigits =>
    exact Or.inr ⟨_, _, he, rfl, (hdigits.skipExponent_append hrest.noDigit).1⟩
  | signed he hsign hdigits =>
    exact Or.inr ⟨_, _, he, rfl, (hdigits.skipExponent_append hrest.noDigit).2 _ hsign⟩

/-- A number without its sign is passed over. -/
theorem Magnitude.skipNumber_append (h : Magnitude text) (hrest : Stops rest) :
    skipNumber (text ++ rest) = .ok rest := by
  obtain ⟨hwhole, hfraction, hexponent⟩ := h
  rename_i whole fraction exponent
  have hbehind := hexponent.noDigit_append hrest
  obtain ⟨htake, hdrop⟩ := hwhole.1.takeWhile_append (hfraction.noDigit_append hbehind)
  rw [List.append_assoc, List.append_assoc, skipNumber, htake, hdrop]
  split
  · exact absurd rfl hwhole.1.1
  · exact hwhole.not_zero_cons.elim
  · cases hfraction with
    | none =>
      rcases hexponent.cases_append hrest with rfl | ⟨e, tail, he, rfl, hskip⟩
      · rw [List.nil_append, List.nil_append]
        split
        · rename_i hpoint
          exact absurd rfl (hrest _ _ rfl).2.1
        · exact absurd rfl (hrest _ _ rfl).2.2.1
        · exact absurd rfl (hrest _ _ rfl).2.2.2
        · rfl
      · rcases he with rfl | rfl
        · exact hskip
        · exact hskip
    | some hdigits =>
      simp only [List.cons_append, hdigits.skipDigits_append hbehind, ok_bind]
      rcases hexponent.cases_append hrest with rfl | ⟨e, tail, he, rfl, hskip⟩
      · rw [List.nil_append]
        split
        · exact absurd rfl (hrest _ _ rfl).2.2.1
        · exact absurd rfl (hrest _ _ rfl).2.2.2
        · rfl
      · rcases he with rfl | rfl
        · exact hskip
        · exact hskip

/-! ## Values -/

/-- The scanner gets from one place to another: with the brackets around, and what is left. It
takes at most two steps for each character. -/
def Passes (place : Place) (brackets : List Bracket) (input : List Char) (place' : Place)
    (brackets' : List Bracket) (rest : List Char) : Prop :=
  ∃ steps, steps + 2 * rest.length ≤ 2 * input.length ∧
    ∀ bound, skipFrom (bound + steps) place brackets input = skipFrom bound place' brackets' rest

namespace Passes

variable {place place' place'' : Place} {brackets brackets' brackets'' : List Bracket}
  {middle : List Char}

theorem trans (h : Passes place brackets input place' brackets' middle)
    (h' : Passes place' brackets' middle place'' brackets'' rest) :
    Passes place brackets input place'' brackets'' rest := by
  obtain ⟨steps, hsteps, hrun⟩ := h
  obtain ⟨steps', hsteps', hrun'⟩ := h'
  refine ⟨steps' + steps, by omega, fun bound => ?_⟩
  rw [← Nat.add_assoc, hrun, hrun']

/-- One step that takes a character or more. -/
theorem one (hlength : rest.length < input.length)
    (hstep : ∀ bound, skipFrom (bound + 1) place brackets input =
      skipFrom bound place' brackets' rest) :
    Passes place brackets input place' brackets' rest :=
  ⟨1, by omega, hstep⟩

end Passes

section Steps

variable {place : Place} {brackets outer : List Bracket} {bracket : Bracket} {c : Char}

/-- Blanks in front of a part do not matter. -/
theorem skipFrom_skipSpace (hplace : place ≠ .after) (bound : Nat) (brackets : List Bracket)
    (input : List Char) :
    skipFrom bound place brackets (skipSpace input) = skipFrom bound place brackets input := by
  cases bound with
  | zero => rfl
  | succ bound =>
    cases place with
    | after => exact absurd rfl hplace
    | value => simp only [skipFrom, skipSpace_skipSpace]
    | opened => simp only [skipFrom, skipSpace_skipSpace]
    | name => simp only [skipFrom, skipSpace_skipSpace]

/-- A part is passed over from wherever in the blanks in front of it. -/
theorem Passes.congr_skipSpace {place' : Place} {brackets' : List Bracket} {input' : List Char}
    (hplace : place ≠ .after) (hskip : skipSpace input = skipSpace input')
    (hlength : input'.length ≤ input.length)
    (h : Passes place brackets input' place' brackets' rest) :
    Passes place brackets input place' brackets' rest := by
  obtain ⟨steps, hsteps, hrun⟩ := h
  refine ⟨steps, by omega, fun bound => ?_⟩
  rw [← skipFrom_skipSpace hplace, hskip, skipFrom_skipSpace hplace]
  exact hrun bound

/-- Blanks in front of a part are passed over with it. -/
theorem Blank.passes {blanks : List Char} {place' : Place} {brackets' : List Bracket}
    (h : Blank blanks) (hplace : place ≠ .after)
    (hpasses : Passes place brackets input place' brackets' rest) :
    Passes place brackets (blanks ++ input) place' brackets' rest := by
  refine hpasses.congr_skipSpace hplace (h.skipSpace_append_eq input) ?_
  rw [List.length_append]
  omega

/-- A word is passed over. -/
theorem passes_word (brackets : List Bracket) (rest : List Char) :
    Passes .value brackets ('n' :: 'u' :: 'l' :: 'l' :: rest) .after brackets rest ∧
      Passes .value brackets ('t' :: 'r' :: 'u' :: 'e' :: rest) .after brackets rest ∧
      Passes .value brackets ('f' :: 'a' :: 'l' :: 's' :: 'e' :: rest) .after brackets rest := by
  refine ⟨.one ?_ fun _ => rfl, .one ?_ fun _ => rfl, .one ?_ fun _ => rfl⟩
  · simp only [List.length_cons]
    omega
  · simp only [List.length_cons]
    omega
  · simp only [List.length_cons]
    omega

/-- A number starts with a digit. -/
theorem Magnitude.exists_cons (h : Magnitude text) :
    ∃ d tail, text = d :: tail ∧ d.isDigit = true := by
  obtain ⟨⟨hdigits, -⟩, -, -⟩ := h
  obtain ⟨d, tail, rfl, hd⟩ := hdigits.exists_cons
  exact ⟨d, _, rfl, hd⟩

/-- A digit is no other character. -/
theorem ne_of_isDigit {d : Char} (hd : d.isDigit = true) (hc : c.isDigit = false) : d ≠ c := by
  rintro rfl
  rw [hd] at hc
  cases hc

/-- A digit is no blank. -/
theorem isSpace_of_isDigit {d : Char} (hd : d.isDigit = true) : isSpace d = false := by
  simp only [isSpace, decide_eq_false_iff_not, not_or]
  exact ⟨ne_of_isDigit hd rfl, ne_of_isDigit hd rfl, ne_of_isDigit hd rfl, ne_of_isDigit hd rfl⟩

/-- A number is passed over, with a sign or without. -/
theorem Magnitude.passes (h : Magnitude text) (hrest : Stops rest) (brackets : List Bracket) :
    Passes .value brackets (text ++ rest) .after brackets rest ∧
      Passes .value brackets ('-' :: (text ++ rest)) .after brackets rest := by
  have hskip := h.skipNumber_append hrest
  obtain ⟨d, tail, rfl, hd⟩ := h.exists_cons
  have hlength : rest.length < (d :: tail ++ rest).length := by
    rw [List.length_append, List.length_cons]
    omega
  constructor
  · refine .one hlength fun bound => ?_
    have hblank : skipSpace (d :: tail ++ rest) = d :: tail ++ rest :=
      List.dropWhile_cons_of_neg (by simp [isSpace_of_isDigit hd])
    have hne : ∀ c : Char, c.isDigit = false → d ≠ c := fun c hc => ne_of_isDigit hd hc
    rw [List.cons_append] at hblank hskip ⊢
    simp only [skipFrom, hblank, hne '[' rfl, hne '\x7b' rfl, hne 'n' rfl, hne 't' rfl,
      hne 'f' rfl, hne '-' rfl, hd, if_false, if_true, hskip, ok_bind]
  · refine .one (Nat.lt_succ_of_lt hlength) fun bound => ?_
    rw [List.cons_append] at hskip ⊢
    simp [skipFrom, skipSpace, isSpace, hskip]

/-- A string is passed over. -/
theorem Quotable.passes {body : List Char} (h : Quotable body) (brackets : List Bracket)
    (rest : List Char) :
    Passes .value brackets ('"' :: (body ++ '"' :: rest)) .after brackets rest := by
  refine .one ?_ fun bound => ?_
  · simp only [List.length_cons, List.length_append]
    omega
  · simp [skipFrom, skipSpace, isSpace, skipString_of_quotable h]

/-- The name of a member is passed over with the colon behind it. -/
theorem Quotable.passes_name {key inner : List Char} (hkey : Quotable key) (hinner : Blank inner)
    (brackets : List Bracket) (rest : List Char) :
    Passes .name brackets ('"' :: (key ++ '"' :: (inner ++ ':' :: rest))) .value brackets rest := by
  refine .one ?_ fun bound => ?_
  · simp only [List.length_cons, List.length_append]
    omega
  · have hcolon : expectMark ':' (inner ++ ':' :: rest) = .ok rest := by
      rw [expectMark, hinner.skipSpace_append rfl]
      exact if_pos rfl
    simp [skipFrom, skipSpace, isSpace, skipString_of_quotable hkey, hcolon]

/-- The character that opens a bracket. -/
def opening : Bracket → Char
  | .list => '['
  | .object => '\x7b'

/-- A bracket is opened. -/
theorem skipFrom_opening (bound : Nat) (bracket : Bracket) (brackets : List Bracket)
    (input : List Char) :
    skipFrom (bound + 1) .value brackets (opening bracket :: input) =
      skipFrom bound .opened (bracket :: brackets) input := by
  cases bracket with
  | list => rfl
  | object => rfl

/-- A bracket that does not close again encloses something. -/
theorem passes_open (hskip : skipSpace input = c :: rest) (hc : closes bracket c = false)
    (brackets : List Bracket) :
    Passes .value brackets (opening bracket :: input) (itemPlace bracket) (bracket :: brackets)
      input := by
  refine ⟨2, by rw [List.length_cons]; omega, fun bound => ?_⟩
  have hplace : itemPlace bracket ≠ .after := by cases bracket <;> decide
  rw [← skipFrom_skipSpace hplace bound, hskip]
  refine (skipFrom_opening (bound + 1) bracket brackets input).trans ?_
  simp only [skipFrom, hskip, hc, Bool.false_eq_true, if_false]

/-- A bracket closes behind blanks, whether or not it encloses something. -/
theorem Blank.passes_close {blanks : List Char} (h : Blank blanks) (hclose : closes bracket c)
    (hplace : place = .opened ∨ place = .after) (outer : List Bracket) (rest : List Char) :
    Passes place (bracket :: outer) (blanks ++ c :: rest) .after outer rest := by
  have hspace : isSpace c = false ∧ c ≠ ',' := by
    cases bracket with
    | list =>
      obtain rfl : c = ']' := by simpa [closes] using hclose
      exact ⟨rfl, by decide⟩
    | object =>
      obtain rfl : c = '\x7d' := by simpa [closes] using hclose
      exact ⟨rfl, by decide⟩
  have hskip := h.skipSpace_append hspace.1 rest
  refine .one ?_ fun bound => ?_
  · rw [List.length_append, List.length_cons]
    omega
  · rcases hplace with rfl | rfl
    · simp only [skipFrom, hskip, hclose, if_true]
    · simp only [skipFrom, hskip, hclose, hspace.2, if_true, if_false]

/-- A bracket may enclose nothing. -/
theorem Blank.passes_empty {blanks : List Char} (h : Blank blanks) (hclose : closes bracket c)
    (brackets : List Bracket) (rest : List Char) :
    Passes .value brackets (opening bracket :: (blanks ++ c :: rest)) .after brackets rest :=
  (Passes.one (Nat.lt_succ_self _) fun bound => skipFrom_opening bound bracket brackets _).trans
    (h.passes_close hclose (Or.inl rfl) brackets rest)

/-- A comma leads to the next part. -/
theorem Blank.passes_comma {blanks : List Char} (h : Blank blanks) (bracket : Bracket)
    (outer : List Bracket) (rest : List Char) :
    Passes .after (bracket :: outer) (blanks ++ ',' :: rest) (itemPlace bracket)
      (bracket :: outer) rest := by
  have hskip : skipSpace (blanks ++ ',' :: rest) = ',' :: rest := h.skipSpace_append rfl rest
  refine .one ?_ fun bound => ?_
  · rw [List.length_append, List.length_cons]
    omega
  · simp only [skipFrom, hskip, if_true]

end Steps

/-- Where the scanner stands in front of a text of each form. -/
def Form.place : Form → Place
  | .value | .items => .value
  | .members => .name

/-- Which bracket encloses a text of each form. -/
def Form.Within : Form → List Bracket → Prop
  | .value, _ => True
  | .items, brackets => ∃ outer, brackets = .list :: outer
  | .members, brackets => ∃ outer, brackets = .object :: outer

theorem Form.place_ne_after (form : Form) : form.place ≠ .after := by
  cases form <;> decide

/-- Behind its blanks no part starts with a bracket that closes. -/
theorem Written.exists_skipSpace {form : Form} (h : Written form text) (rest : List Char) :
    ∃ c tail, skipSpace (text ++ rest) = c :: tail ∧ c ≠ ']' ∧ c ≠ '\x7d' := by
  induction h generalizing rest with
  | blank hc _ ih =>
    obtain ⟨c, tail, hskip, hne⟩ := ih rest
    refine ⟨c, tail, ?_, hne⟩
    rw [List.cons_append, skipSpace, List.dropWhile_cons_of_pos (isSpace_iff.mpr hc)]
    exact hskip
  | nullWord => exact ⟨_, _, rfl, by decide, by decide⟩
  | trueWord => exact ⟨_, _, rfl, by decide, by decide⟩
  | falseWord => exact ⟨_, _, rfl, by decide, by decide⟩
  | positive h =>
    obtain ⟨d, tail, rfl, hd⟩ := h.exists_cons
    refine ⟨d, tail ++ rest, ?_, ne_of_isDigit hd rfl, ne_of_isDigit hd rfl⟩
    exact List.dropWhile_cons_of_neg (by simp [isSpace_of_isDigit hd])
  | negative _ => exact ⟨_, _, rfl, by decide, by decide⟩
  | string _ => exact ⟨_, _, rfl, by decide, by decide⟩
  | emptyArray _ => exact ⟨_, _, rfl, by decide, by decide⟩
  | array _ _ _ => exact ⟨_, _, rfl, by decide, by decide⟩
  | emptyObject _ => exact ⟨_, _, rfl, by decide, by decide⟩
  | object _ _ _ => exact ⟨_, _, rfl, by decide, by decide⟩
  | item _ ih => exact ih rest
  | items _ _ _ ih _ =>
    rw [List.append_assoc]
    exact ih _
  | member _ _ _ _ => exact ⟨_, _, rfl, by decide, by decide⟩
  | members _ _ _ _ _ _ _ => exact ⟨_, _, rfl, by decide, by decide⟩

/-- **Every part is passed over up to what follows it.** The brackets around it stay open. -/
theorem Written.passes {form : Form} (h : Written form text) {brackets : List Bracket}
    (hwithin : form.Within brackets) (hrest : Stops rest) :
    Passes form.place brackets (text ++ rest) .after brackets rest := by
  induction h generalizing brackets rest with
  | blank hc _ ih =>
    exact (ih hwithin hrest).congr_skipSpace (Form.place_ne_after _)
      (List.dropWhile_cons_of_pos (isSpace_iff.mpr hc)) (Nat.le_succ _)
  | nullWord => exact (passes_word brackets rest).1
  | trueWord => exact (passes_word brackets rest).2.1
  | falseWord => exact (passes_word brackets rest).2.2
  | positive h => exact (h.passes hrest brackets).1
  | negative h => exact (h.passes hrest brackets).2
  | string h =>
    rw [List.cons_append, List.append_assoc]
    exact h.passes brackets rest
  | emptyArray hinner =>
    rw [List.cons_append, List.append_assoc]
    have hclose : closes .list ']' = true := rfl
    exact hinner.passes_empty hclose brackets rest
  | @array items inner h hinner ih =>
    rw [List.cons_append, List.append_assoc, List.append_assoc]
    obtain ⟨c, tail, hskip, hne, -⟩ := h.exists_skipSpace (inner ++ ']' :: rest)
    have hnot : closes .list c = false := decide_eq_false hne
    have hclose : closes .list ']' = true := rfl
    have hinside := ih ⟨brackets, rfl⟩ (hinner.stops_close hclose rest)
    have hbehind := hinner.passes_close hclose (Or.inr rfl) brackets rest
    exact (passes_open hskip hnot brackets).trans (hinside.trans hbehind)
  | emptyObject hinner =>
    rw [List.cons_append, List.append_assoc]
    have hclose : closes .object '\x7d' = true := rfl
    exact hinner.passes_empty hclose brackets rest
  | @object members inner h hinner ih =>
    rw [List.cons_append, List.append_assoc, List.append_assoc]
    obtain ⟨c, tail, hskip, -, hne⟩ := h.exists_skipSpace (inner ++ '\x7d' :: rest)
    have hnot : closes .object c = false := decide_eq_false hne
    have hclose : closes .object '\x7d' = true := rfl
    have hinside := ih ⟨brackets, rfl⟩ (hinner.stops_close hclose rest)
    have hbehind := hinner.passes_close hclose (Or.inr rfl) brackets rest
    exact (passes_open hskip hnot brackets).trans (hinside.trans hbehind)
  | item _ ih => exact ih trivial hrest
  | @items value inner items _ hinner _ ih ihItems =>
    obtain ⟨outer, rfl⟩ := hwithin
    rw [List.append_assoc, List.append_assoc, List.cons_append]
    have hcomma := hinner.passes_comma .list outer (items ++ rest)
    exact (ih trivial (hinner.stops_comma _)).trans (hcomma.trans (ihItems ⟨outer, rfl⟩ hrest))
  | member hkey hinner _ ih =>
    simp only [List.cons_append, List.append_assoc]
    exact (hkey.passes_name hinner brackets _).trans (ih trivial hrest)
  | @members key inner value outer members hkey hinner _ houter _ ih ihMembers =>
    obtain ⟨around, rfl⟩ := hwithin
    simp only [List.cons_append, List.append_assoc]
    have hcomma := houter.passes_comma .object around (members ++ rest)
    exact (hkey.passes_name hinner _ _).trans
      ((ih trivial (houter.stops_comma _)).trans (hcomma.trans (ihMembers ⟨around, rfl⟩ hrest)))

/-- A value stands in front of what is left, and the scanner passes over it. -/
def Skips (input rest : List Char) : Prop :=
  ∀ brackets, Passes .value brackets input .after brackets rest

/-- Every value in JSON is passed over up to what follows it. -/
theorem Written.skips (h : Written .value text) (hrest : Stops rest) : Skips (text ++ rest) rest :=
  fun _ => h.passes trivial hrest

namespace Skips

/-- Passing over a value succeeds. -/
theorem skipValue_eq (h : Skips input rest) : skipValue input = .ok rest := by
  obtain ⟨steps, hsteps, hrun⟩ := h []
  obtain ⟨bound, hbound⟩ : ∃ bound, 2 * input.length + 2 = bound + 1 + steps :=
    ⟨2 * input.length + 1 - steps, by omega⟩
  rw [skipValue, hbound, hrun]
  rfl

/-- There is one way of passing over a value. -/
theorem unique {rest' : List Char} (h : Skips input rest) (h' : Skips input rest') :
    rest = rest' := by
  have hsame := h.skipValue_eq.symm.trans h'.skipValue_eq
  exact Except.ok.inj hsame

end Skips

end BlobLimbo.Json
