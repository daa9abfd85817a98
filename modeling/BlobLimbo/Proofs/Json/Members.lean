import BlobLimbo.Proofs.Json.Values

/-!
# Reading the members of an object

An object is read member by member into a draft. What a reader of records returns is told by what
each member does to the draft (`Consumes.readRecord_eq`), wherever blanks stand and whatever the
members are that no field has the name of. And a draft that was read has no field but those there
was a member for (`mem_names_of_readRecord`).
-/

namespace BlobLimbo.Json

variable {σ α : Type} {fields : List (Field σ)} {draft draft' : σ} {input rest : List Char}
  {bound : Nat}

/-! ## Objects as they are written -/

/-- Blanks that may stand between two parts of a text. -/
abbrev Blanks : Type :=
  {text : List Char // Blank text}

/-- A member of an object as it is written, with the blanks around its parts. -/
structure Member where
  /-- The name, as it is meant. -/
  name : String
  /-- What stands between the quotes for it. -/
  key : List Char
  spells : Spells key name.toList
  /-- The blanks in front of the name. -/
  front : Blanks
  /-- The blanks between the name and the colon. -/
  inner : Blanks
  /-- The blanks between the colon and the value. -/
  lead : Blanks
  /-- The text of the value. -/
  value : List Char
  /-- The blanks behind the value. -/
  back : Blanks

namespace Member

/-- What stands behind the name of a member, up to its value and on. -/
def behind (member : Member) (rest : List Char) : List Char :=
  member.inner.val ++ ':' :: (member.lead.val ++ (member.value ++ rest))

/-- The text of a member. -/
def text (member : Member) : List Char :=
  member.front.val ++ '"' :: (member.key ++ '"' :: member.behind member.back.val)

/-- The texts of members that follow another one, each behind a comma. -/
def others (members : List Member) : List Char :=
  members.flatMap fun member => ',' :: member.text

end Member

/-- The text of an object: its members with commas between them, in braces, and blanks around the
braces and behind the first one. -/
def objectText (before inner after : Blanks) (members : List Member) : List Char :=
  before.val ++ '\x7b' :: (inner.val ++ (separated [','] (members.map Member.text) ++
    '\x7d' :: after.val))

/-- No blanks. -/
def Blanks.none : Blanks :=
  ⟨[], fun _ hc => absurd hc List.not_mem_nil⟩

/-- A member without blanks, as it is written. -/
def Member.plain (name : String) (value : List Char) : Member where
  name := name
  key := name.toList.flatMap escapeChar
  spells := spells_escape name.toList
  front := .none
  inner := .none
  lead := .none
  value := value
  back := .none

/-- The compact form of an object has no blanks. -/
theorem compact_object (members : List (String × Json)) :
    compact (.object members) =
      objectText .none .none .none
        (members.map fun member => .plain member.1 (compact member.2)) := by
  have hmembers : compactMembers members =
      (members.map fun member => Member.plain member.1 (compact member.2)).map Member.text := by
    induction members with
    | nil => rfl
    | cons member members ih =>
      rw [compactMembers, ih, List.map_cons, List.map_cons]
      simp [Member.text, Member.behind, Member.plain, Blanks.none, quote]
  rw [compact, hmembers]
  rfl

/-- What is behind a name goes on with what is behind the value. -/
theorem Member.behind_append (member : Member) (front rest : List Char) :
    member.behind front ++ rest = member.behind (front ++ rest) := by
  simp [behind]

/-- Members between commas are the first one and the others. -/
theorem separated_members (member : Member) (members : List Member) :
    separated [','] ((member :: members).map Member.text) =
      member.text ++ Member.others members := by
  induction members generalizing member with
  | nil => simp [separated, Member.others]
  | cons second members ih =>
    rw [List.map_cons, List.map_cons, separated, ← List.map_cons, ih]
    · rfl
    · simp

theorem others_cons_append (member : Member) (members : List Member) (rest : List Char) :
    Member.others (member :: members) ++ rest =
      ',' :: (member.text ++ (Member.others members ++ rest)) := by
  simp [Member.others]

theorem length_others_ge (members : List Member) :
    members.length ≤ (Member.others members).length := by
  induction members with
  | nil => exact Nat.le_refl _
  | cons member members ih =>
    simp only [Member.others, List.flatMap_cons, List.length_append, List.length_cons] at ih ⊢
    omega

/-- The members that follow do not continue a number, and nor does the brace that closes. -/
theorem Blank.stops_others {blanks : List Char} (h : Blank blanks) (members : List Member)
    (rest : List Char) : Stops (blanks ++ (Member.others members ++ '\x7d' :: rest)) := by
  cases members with
  | nil =>
    have hclose : closes .object '\x7d' = true := rfl
    exact h.stops_close hclose rest
  | cons member members =>
    rw [others_cons_append]
    exact h.stops_comma _

/-! ## Members that are read -/

/-- Blanks in front of a member are passed over. -/
theorem Blank.readMembers_append {blanks : List Char} (h : Blank blanks) (bound : Nat)
    (first : Bool) (draft : σ) (input : List Char) :
    readMembers fields bound first draft (blanks ++ input) =
      readMembers fields bound first draft input := by
  cases bound with
  | zero => rfl
  | succ bound => simp only [readMembers, h.skipSpace_append_eq]

/-- The brace that closes ends the members. -/
theorem readMembers_close (bound : Nat) (first : Bool) (draft : σ) (rest : List Char) :
    readMembers fields (bound + 1) first draft ('\x7d' :: rest) = .ok (draft, rest) :=
  rfl

/-- The text of a member with what follows it. -/
theorem Member.text_append (member : Member) (rest : List Char) :
    member.text ++ rest = member.front.val ++ '"' ::
      (member.key ++ '"' :: member.behind (member.back.val ++ rest)) := by
  simp [text, behind_append]

/-- The name of a member is read. -/
theorem Member.read_name (member : Member) (rest : List Char) :
    expectMark '"' (member.text ++ rest) =
        .ok (member.key ++ '"' :: member.behind (member.back.val ++ rest)) ∧
      readString (member.key ++ '"' :: member.behind (member.back.val ++ rest)) =
        .ok (member.name.toList, member.behind (member.back.val ++ rest)) := by
  constructor
  · rw [member.text_append, expectMark, member.front.property.skipSpace_append rfl]
    exact if_pos rfl
  · exact readString_eq_ok_iff.mpr ⟨member.key, member.spells, rfl⟩

/-- A member behind a comma is read, and then those that follow. -/
theorem readMembers_member (bound : Nat) (draft : σ) (member : Member) (rest : List Char) :
    readMembers fields (bound + 1) false draft (',' :: (member.text ++ rest)) =
      (do
        let (draft, rest) ← readMember fields member.name draft
          (member.behind (member.back.val ++ rest))
        readMembers fields bound false draft rest) := by
  obtain ⟨hmark, hname⟩ := member.read_name rest
  have hcomma : expectMark ',' (',' :: (member.text ++ rest)) = .ok (member.text ++ rest) := rfl
  have hskip : skipSpace (',' :: (member.text ++ rest)) = ',' :: (member.text ++ rest) := rfl
  have hne : ',' ≠ '\x7d' := by decide
  simp only [readMembers, hskip, hne, if_false, hcomma, hmark, hname, ok_bind, Bool.false_eq_true,
    String.ofList_toList]

/-- The first member has no comma in front. -/
theorem readMembers_first (bound : Nat) (draft : σ) (member : Member) (rest : List Char) :
    readMembers fields (bound + 1) true draft (member.text ++ rest) =
      readMembers fields (bound + 1) false draft (',' :: (member.text ++ rest)) := by
  obtain ⟨hmark, hname⟩ := member.read_name rest
  have hskip : skipSpace (member.text ++ rest) =
      '"' :: (member.key ++ '"' :: member.behind (member.back.val ++ rest)) := by
    rw [member.text_append]
    exact member.front.property.skipSpace_append rfl _
  have hquote : expectMark '"' ('"' :: (member.key ++ '"' ::
      member.behind (member.back.val ++ rest))) =
        .ok (member.key ++ '"' :: member.behind (member.back.val ++ rest)) := rfl
  have hne : '"' ≠ '\x7d' := by decide
  rw [readMembers_member]
  simp only [readMembers, hskip, hne, if_false, if_true, hquote, hname, ok_bind,
    String.ofList_toList]

/-- An object is read by its members, of which there are not more than its characters. -/
theorem readRecord_objectText (fields : List (Field σ)) (partly : Bool) (draft : σ)
    (before inner after : Blanks) (members : List Member) :
    ∃ bound, members.length ≤ bound ∧
      readRecord partly fields draft (objectText before inner after members) =
        readMembers fields (bound + 1) true draft
          (separated [','] (members.map Member.text) ++ '\x7d' :: after.val) := by
  refine ⟨(inner.val ++ (separated [','] (members.map Member.text) ++ '\x7d' :: after.val)).length,
    ?_, ?_⟩
  · cases members with
    | nil => exact Nat.zero_le _
    | cons member members =>
      have hothers := length_others_ge members
      have htext : 1 ≤ member.text.length := by
        simp only [Member.text, List.length_append, List.length_cons]
        omega
      rw [separated_members]
      simp only [List.length_append, List.length_cons]
      omega
  · unfold readRecord objectText
    rw [before.property.skipSpace_append rfl]
    exact inner.property.readMembers_append _ true draft _

/-- What reading a member does to a draft, whatever follows it. -/
def Takes (fields : List (Field σ)) (draft : σ) (member : Member) (result : Except Fault σ) :
    Prop :=
  ∀ rest, Stops rest → readMember fields member.name draft (member.behind rest) =
    result.map fun draft => (draft, rest)

/-- What reading members one after the other does to a draft. After a fault the others are not
looked at. -/
inductive Consumes (fields : List (Field σ)) : σ → List Member → Except Fault σ → Prop
  | done (draft : σ) : Consumes fields draft [] (.ok draft)
  | step {draft next : σ} {member : Member} {members : List Member} {result : Except Fault σ}
      (h : Takes fields draft member (.ok next)) (hothers : Consumes fields next members result) :
      Consumes fields draft (member :: members) result
  | fault {draft : σ} {member : Member} {fault : Fault}
      (h : Takes fields draft member (.error fault)) (members : List Member) :
      Consumes fields draft (member :: members) (.error fault)

namespace Consumes

variable {members : List Member} {result : Except Fault σ}

/-- Members that follow another one are read up to the brace that closes. -/
theorem readMembers_eq (h : Consumes fields draft members result)
    (hbound : members.length < bound) (rest : List Char) :
    readMembers fields bound false draft (Member.others members ++ '\x7d' :: rest) =
      result.map fun draft => (draft, rest) := by
  induction h generalizing bound with
  | done draft =>
    obtain ⟨bound, rfl⟩ := Nat.exists_eq_succ_of_ne_zero (Nat.ne_zero_of_lt hbound)
    exact readMembers_close bound false draft rest
  | @step draft next member members result h _ ih =>
    obtain ⟨bound, rfl⟩ := Nat.exists_eq_succ_of_ne_zero (Nat.ne_zero_of_lt hbound)
    have hothers := ih (Nat.lt_of_succ_lt_succ hbound)
    have htaken := h _ (member.back.property.stops_others members rest)
    rw [others_cons_append, readMembers_member, htaken]
    simp only [Except.map, ok_bind, member.back.property.readMembers_append]
    exact hothers
  | @fault draft member fault h members =>
    obtain ⟨bound, rfl⟩ := Nat.exists_eq_succ_of_ne_zero (Nat.ne_zero_of_lt hbound)
    have htaken := h _ (member.back.property.stops_others members rest)
    rw [others_cons_append, readMembers_member, htaken]
    rfl

/-- **An object is read by what each of its members does to the draft.** -/
theorem readRecord_eq (h : Consumes fields draft members result) (partly : Bool)
    (before inner after : Blanks) :
    readRecord partly fields draft (objectText before inner after members) =
      result.map fun draft => (draft, after.val) := by
  obtain ⟨bound, hbound, hread⟩ := readRecord_objectText fields partly draft before inner after
    members
  rw [hread]
  cases members with
  | nil =>
    cases h
    rfl
  | cons member members =>
    rw [separated_members, List.append_assoc, readMembers_first, ← others_cons_append]
    exact h.readMembers_eq (Nat.lt_succ_of_le hbound) after.val

/-- A whole text that is an object is read by what its members do to the draft. -/
theorem readDocument_eq (h : Consumes fields draft members result) (partly : Bool)
    (finish : σ → Except Fault α) {before inner after : Blanks} :
    readDocument
        (fun input => do
          let (draft, rest) ← readRecord partly fields draft input
          let value ← finish draft
          return (value, rest))
        (String.ofList (objectText before inner after members)) = result >>= finish := by
  have hend : skipSpace after.val = [] :=
    List.dropWhile_eq_nil_iff.mpr (Blank.forall_isSpace after.property)
  unfold readDocument
  rw [String.toList_ofList]
  dsimp only
  rw [h.readRecord_eq]
  cases result with
  | error fault => rfl
  | ok last =>
    simp only [Except.map, ok_bind, pure_eq_ok]
    cases finish last with
    | error fault => rfl
    | ok value =>
      rw [ok_bind, ok_bind, hend]
      rfl

end Consumes

section Takes

variable {member : Member}

/-- The colon behind a name is passed over. -/
theorem Member.expect_colon (member : Member) (rest : List Char) :
    expectMark ':' (member.behind rest) = .ok (member.lead.val ++ (member.value ++ rest)) := by
  rw [behind, expectMark, member.inner.property.skipSpace_append rfl]
  exact if_pos rfl

/-- A value of a member is passed over with the blanks in front of it. -/
theorem Member.skips (hvalue : Written .value member.value) (hrest : Stops rest) :
    Skips (member.lead.val ++ (member.value ++ rest)) rest :=
  fun brackets => member.lead.property.passes (by decide) (hvalue.skips hrest brackets)

/-- A member that no field has the name of is passed over. -/
theorem takes_unknown (hunknown : (fields.find? fun field => field.name = member.name) = none)
    (hvalue : Written .value member.value) (draft : σ) : Takes fields draft member (.ok draft) := by
  intro rest hrest
  simp only [readMember, hunknown, member.expect_colon, ok_bind,
    (Member.skips hvalue hrest).skipValue_eq]
  rfl

/-- A second member for a field is a mismatch, whatever its value is. -/
theorem takes_repeated {field : Field σ}
    (hfield : (fields.find? fun field => field.name = member.name) = some field)
    (hpresent : field.present draft = true) : Takes fields draft member (.error .mismatch) := by
  intro rest _
  simp only [readMember, hfield, hpresent, if_true]
  rfl

/-- The first member for a field is read into the draft. -/
theorem takes_field {name : String} {get : σ → Option α} {set : σ → α → σ}
    {read : List Char → Except Fault (α × List Char)} {a : α}
    (hfield : (fields.find? fun field => field.name = member.name) =
      some (field name get set read))
    (habsent : get draft = none) (hreads : ReadsAs read member.value a) :
    Takes fields draft member (.ok (set draft a)) := by
  intro rest hrest
  have hread := hreads member.lead.val rest member.lead.property hrest
  simp only [readMember, hfield, field, habsent, Option.isSome_none, Bool.false_eq_true, if_false,
    member.expect_colon, ok_bind, hread]
  rfl

end Takes

/-! ## What a draft cannot have -/

/-- A field that reads one value, and puts nothing but itself into a draft. -/
structure Field.Sound (fields : List (Field σ)) (field : Field σ) : Prop where
  skips : ∀ {draft draft' : σ} {input rest : List Char},
    field.read draft input = .ok (draft', rest) → Skips input rest
  present_eq : ∀ {draft draft' : σ} {input rest : List Char},
    field.read draft input = .ok (draft', rest) →
      ∀ other ∈ fields, other.name ≠ field.name → other.present draft' = other.present draft

/-- A field whose reader passes over one value, and that fills its own part of a draft. -/
theorem sound_field {name : String} {get : σ → Option α} {set : σ → α → σ}
    {read : List Char → Except Fault (α × List Char)}
    (hskips : ∀ {input rest : List Char} {a : α}, read input = .ok (a, rest) → Skips input rest)
    (hset : ∀ (draft : σ) (a : α), ∀ other ∈ fields, other.name ≠ name →
      other.present (set draft a) = other.present draft) :
    (field name get set read).Sound fields where
  skips {draft draft' input rest} hread := by
    obtain ⟨⟨a, last⟩, hvalue, hresult⟩ := bind_eq_ok_iff.mp hread
    obtain ⟨-, rfl⟩ := Prod.mk.inj (Except.ok.inj hresult)
    exact hskips hvalue
  present_eq {draft draft' input rest} hread := by
    obtain ⟨⟨a, last⟩, -, hresult⟩ := bind_eq_ok_iff.mp hread
    obtain ⟨rfl, -⟩ := Prod.mk.inj (Except.ok.inj hresult)
    exact hset draft a

section Present

variable {member : Member} {members : List Member}

/-- A member that is read leaves what follows it, and adds no field of another name. -/
theorem of_readMember_eq_ok {rest' : List Char} (hsound : ∀ field ∈ fields, field.Sound fields)
    (hvalue : Written .value member.value) (hrest : Stops rest)
    (hread : readMember fields member.name draft (member.behind rest) = .ok (draft', rest')) :
    rest' = rest ∧ ∀ other ∈ fields, other.name ≠ member.name →
      other.present draft' = other.present draft := by
  have hskips := Member.skips hvalue hrest
  unfold readMember at hread
  rw [member.expect_colon] at hread
  split at hread
  · rename_i field hfind
    split at hread
    · cases hread
    · rw [ok_bind] at hread
      have hfield := List.mem_of_find?_eq_some hfind
      have hname : field.name = member.name := by simpa using List.find?_some hfind
      refine ⟨((hsound field hfield).skips hread).unique hskips, ?_⟩
      rw [← hname]
      exact (hsound field hfield).present_eq hread
  · rw [ok_bind, hskips.skipValue_eq, ok_bind] at hread
    obtain ⟨rfl, rfl⟩ := Prod.mk.inj (Except.ok.inj hread)
    exact ⟨rfl, fun _ _ _ => rfl⟩

/-- Members that are read give a draft the fields they have the names of, and no others. -/
theorem mem_names_of_readMembers (hsound : ∀ field ∈ fields, field.Sound fields)
    (hvalues : ∀ member ∈ members, Written .value member.value) {after : List Char}
    (hread : readMembers fields bound false draft (Member.others members ++ '\x7d' :: after) =
      .ok (draft', rest)) :
    ∀ field ∈ fields, field.present draft' = true →
      field.present draft = true ∨ field.name ∈ members.map Member.name := by
  induction members generalizing bound draft with
  | nil =>
    cases bound with
    | zero => cases hread
    | succ bound =>
      simp only [Member.others, List.flatMap_nil, List.nil_append, readMembers_close,
        Except.ok.injEq, Prod.mk.injEq] at hread
      obtain ⟨rfl, -⟩ := hread
      exact fun field _ hpresent => Or.inl hpresent
  | cons member members ih =>
    rw [List.forall_mem_cons] at hvalues
    cases bound with
    | zero => cases hread
    | succ bound =>
      rw [others_cons_append, readMembers_member] at hread
      obtain ⟨⟨next, behind⟩, hmember, hothers⟩ := bind_eq_ok_iff.mp hread
      obtain ⟨rfl, hsame⟩ := of_readMember_eq_ok hsound hvalues.1
        (member.back.property.stops_others members after) hmember
      dsimp only at hothers
      rw [member.back.property.readMembers_append] at hothers
      -- The first member gave the field that has its name, and no other one.
      intro field hfield hpresent
      rw [List.map_cons, List.mem_cons]
      rcases ih hvalues.2 hothers field hfield hpresent with hnext | hname
      · by_cases hname : field.name = member.name
        · exact Or.inr (Or.inl hname)
        · exact Or.inl (hsame field hfield hname ▸ hnext)
      · exact Or.inr (Or.inr hname)

/-- **A draft has no field that no member has the name of.** -/
theorem mem_names_of_readRecord {partly : Bool} {before inner after : Blanks}
    (hsound : ∀ field ∈ fields, field.Sound fields)
    (hvalues : ∀ member ∈ members, Written .value member.value)
    (hread : readRecord partly fields draft (objectText before inner after members) =
      .ok (draft', rest)) :
    ∀ field ∈ fields, field.present draft' = true →
      field.present draft = true ∨ field.name ∈ members.map Member.name := by
  obtain ⟨bound, -, hrecord⟩ := readRecord_objectText fields partly draft before inner after members
  rw [hrecord] at hread
  cases members with
  | nil =>
    simp only [List.map_nil, separated, List.nil_append, readMembers_close, Except.ok.injEq,
      Prod.mk.injEq] at hread
    obtain ⟨rfl, -⟩ := hread
    exact fun field _ hpresent => Or.inl hpresent
  | cons member members =>
    rw [separated_members, List.append_assoc, readMembers_first, ← others_cons_append] at hread
    exact mem_names_of_readMembers hsound hvalues hread

end Present

end BlobLimbo.Json
