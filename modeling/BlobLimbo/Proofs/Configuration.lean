import BlobLimbo.Config
import BlobLimbo.Logging
import BlobLimbo.Proofs.Json.Members
import Mathlib.Data.List.Nodup

/-!
# Configurations are read in any order

What a member of a configuration says depends on its name and its value alone (`LimboConfig.Says`).
So a configuration is read alike whatever the order of its members is, whatever blanks stand between
them and whatever members there are that it does not know; what is missing has its default, and a
member that is said twice is a fault. A file log must have all its members. Both are read again as
they were written (`reads_configurations`).
-/

namespace BlobLimbo

open Json

variable {before inner after : Blanks} {members : List Member}

namespace LimboConfig

/-- The members a configuration knows. -/
inductive Key where
  | datadir
  | maxBlobsPerTx
  | metricsEnabled
  deriving DecidableEq

/-- The name of a member. -/
def Key.name : Key → String
  | .datadir => "datadir"
  | .maxBlobsPerTx => "maxBlobsPerTx"
  | .metricsEnabled => "metricsEnabled"

/-- What a member says. -/
inductive Setting where
  | datadir (path : String)
  | maxBlobsPerTx (count : UInt32)
  | metricsEnabled (enabled : Bool)
  /-- Something the configuration does not know. -/
  | other

/-- The member that is needed to say it. -/
def Setting.key? : Setting → Option Key
  | .datadir _ => some .datadir
  | .maxBlobsPerTx _ => some .maxBlobsPerTx
  | .metricsEnabled _ => some .metricsEnabled
  | .other => none

/-- What the member with a name and a value says. -/
inductive Says : Member → Setting → Prop
  /-- A text. -/
  | datadir {member : Member} {body : List Char} {path : String} (hname : member.name = "datadir")
      (hbody : Spells body path.toList) (hvalue : member.value = '"' :: (body ++ ['"'])) :
      Says member (.datadir path)
  /-- A number of 32 bits. -/
  | maxBlobsPerTx {member : Member} {count : UInt32} (hname : member.name = "maxBlobsPerTx")
      (hvalue : member.value = Nat.toDigits 10 count.toNat) : Says member (.maxBlobsPerTx count)
  /-- A truth value. -/
  | metricsEnabled {member : Member} {enabled : Bool} (hname : member.name = "metricsEnabled")
      (hvalue : member.value = (toString enabled).toList) : Says member (.metricsEnabled enabled)
  /-- Any value at all, under a name that is not known. -/
  | other {member : Member} (hname : ∀ key : Key, member.name ≠ key.name)
      (hvalue : Written .value member.value) : Says member .other

/-- What a configuration has for a member. -/
def setting (config : LimboConfig) : Key → Setting
  | .datadir => .datadir config.datadir
  | .maxBlobsPerTx => .maxBlobsPerTx config.maxBlobsPerTx
  | .metricsEnabled => .metricsEnabled config.metricsEnabled

/-- What a draft has for a member, if it has something. -/
def Draft.setting? (draft : Draft) : Key → Option Setting
  | .datadir => draft.datadir.map .datadir
  | .maxBlobsPerTx => draft.maxBlobsPerTx.map .maxBlobsPerTx
  | .metricsEnabled => draft.metricsEnabled.map .metricsEnabled

variable {draft : Draft} {member : Member} {settings : List Setting} {key : Key}

/-- Each member that is known has a field, which looks at what the draft has for it. -/
theorem exists_field (key : Key) :
    ∃ field, (fields.find? fun field => field.name = key.name) = some field ∧
      ∀ draft, field.present draft = (draft.setting? key).isSome := by
  cases key with
  | datadir => exact ⟨_, rfl, fun draft => Option.isSome_map.symm⟩
  | maxBlobsPerTx => exact ⟨_, rfl, fun draft => Option.isSome_map.symm⟩
  | metricsEnabled => exact ⟨_, rfl, fun draft => Option.isSome_map.symm⟩

/-- What is said again is a fault. -/
theorem takes_again (hname : member.name = key.name) (hpresent : draft.setting? key ≠ none) :
    Takes fields draft member (.error .mismatch) := by
  obtain ⟨field, hfield, hlooks⟩ := exists_field key
  rw [← hname] at hfield
  apply takes_repeated hfield
  rw [hlooks, ← Option.ne_none_iff_isSome]
  exact hpresent

/-- What the configuration does not know leaves the draft as it is. -/
theorem takes_other (h : Says member .other) (draft : Draft) :
    Takes fields draft member (.ok draft) := by
  cases h with
  | other hname hvalue =>
    refine takes_unknown ?_ hvalue draft
    rw [List.find?_eq_none]
    intro field hfield
    simp only [fields, List.mem_cons, List.not_mem_nil, or_false] at hfield
    rcases hfield with rfl | rfl | rfl
    · exact fun hfound => hname .datadir (of_decide_eq_true hfound).symm
    · exact fun hfound => hname .maxBlobsPerTx (of_decide_eq_true hfound).symm
    · exact fun hfound => hname .metricsEnabled (of_decide_eq_true hfound).symm

/-- What is said for the first time is put into the draft, and nothing else. -/
theorem takes_known {setting : Setting} (h : Says member setting) (hkey : setting.key? = some key)
    (habsent : draft.setting? key = none) :
    ∃ next, Takes fields draft member (.ok next) ∧
      ∀ other, next.setting? other =
        if other = key then some setting else draft.setting? other := by
  cases h with
  | @datadir body path hname hbody hvalue =>
    cases hkey
    rw [Draft.setting?, Option.map_eq_none_iff] at habsent
    have hfield : (fields.find? fun field => field.name = member.name) =
        some (Json.field "datadir" Draft.datadir
          (fun draft value => { draft with datadir := some value }) readText) := by
      rw [hname]
      rfl
    have htakes := takes_field hfield habsent (hvalue ▸ readsAs_text hbody)
    exact ⟨_, htakes, fun other => by cases other <;> rfl⟩
  | @maxBlobsPerTx count hname hvalue =>
    cases hkey
    rw [Draft.setting?, Option.map_eq_none_iff] at habsent
    have hfield : (fields.find? fun field => field.name = member.name) =
        some (Json.field "maxBlobsPerTx" Draft.maxBlobsPerTx
          (fun draft value => { draft with maxBlobsPerTx := some value }) readUInt32) := by
      rw [hname]
      rfl
    have htakes := takes_field hfield habsent (hvalue ▸ readsAs_uint32 count)
    exact ⟨_, htakes, fun other => by cases other <;> rfl⟩
  | @metricsEnabled enabled hname hvalue =>
    cases hkey
    rw [Draft.setting?, Option.map_eq_none_iff] at habsent
    have hreads : ReadsAs readBool member.value enabled := by
      rw [hvalue]
      cases enabled with
      | false => exact readsAs_bool false
      | true => exact readsAs_bool true
    have hfield : (fields.find? fun field => field.name = member.name) =
        some (Json.field "metricsEnabled" Draft.metricsEnabled
          (fun draft value => { draft with metricsEnabled := some value }) readBool) := by
      rw [hname]
      rfl
    have htakes := takes_field hfield habsent hreads
    exact ⟨_, htakes, fun other => by cases other <;> rfl⟩
  | other hname hvalue => cases hkey

/-- The name of a member that says something known. -/
theorem Says.name_eq {setting : Setting} (h : Says member setting)
    (hkey : setting.key? = some key) : member.name = key.name := by
  cases h with
  | datadir hname _ _ =>
    cases hkey
    exact hname
  | maxBlobsPerTx hname _ =>
    cases hkey
    exact hname
  | metricsEnabled hname _ =>
    cases hkey
    exact hname
  | other hname _ => cases hkey

/-- What is not known is something else. -/
theorem Setting.eq_other {setting : Setting} (hkey : setting.key? = none) : setting = .other := by
  cases setting with
  | other => rfl
  | datadir path => cases hkey
  | maxBlobsPerTx count => cases hkey
  | metricsEnabled enabled => cases hkey

/-- **What members say is put into the draft, in whatever order they say it.** -/
theorem exists_consumes (h : List.Forall₂ Says members settings)
    (hnodup : (settings.filterMap Setting.key?).Nodup)
    (habsent : ∀ key ∈ settings.filterMap Setting.key?, draft.setting? key = none) :
    ∃ last, Consumes fields draft members (.ok last) ∧
      (∀ setting ∈ settings, ∀ key, setting.key? = some key →
        last.setting? key = some setting) ∧
      ∀ key ∉ settings.filterMap Setting.key?, last.setting? key = draft.setting? key := by
  -- The draft stays general: it holds what the members in front have said.
  induction h generalizing draft with
  | nil => exact ⟨draft, .done draft, fun _ hsetting => absurd hsetting List.not_mem_nil,
      fun _ _ => rfl⟩
  | @cons member setting members settings hmeans _ ih =>
    cases hkey : setting.key? with
    | none =>
      obtain rfl := Setting.eq_other hkey
      rw [List.filterMap_cons_none hkey] at hnodup habsent ⊢
      obtain ⟨last, hconsumes, hsaid, hkept⟩ := ih hnodup habsent
      refine ⟨last, .step (takes_other hmeans draft) hconsumes, ?_, hkept⟩
      rw [List.forall_mem_cons]
      exact ⟨fun key hother => absurd hother (Option.some_ne_none key).symm, hsaid⟩
    | some key =>
      rw [List.filterMap_cons_some hkey] at hnodup habsent ⊢
      rw [List.nodup_cons] at hnodup
      rw [List.forall_mem_cons] at habsent
      obtain ⟨next, htakes, hnext⟩ := takes_known hmeans hkey habsent.1
      have habsent' : ∀ other ∈ settings.filterMap Setting.key?, next.setting? other = none := by
        intro other hother
        have hne : other ≠ key := fun hsame => hnodup.1 (hsame ▸ hother)
        rw [hnext, if_neg hne]
        exact habsent.2 other hother
      obtain ⟨last, hconsumes, hsaid, hkept⟩ := ih hnodup.2 habsent'
      refine ⟨last, .step htakes hconsumes, ?_, ?_⟩
      · rw [List.forall_mem_cons]
        refine ⟨fun other hother => ?_, hsaid⟩
        obtain rfl : key = other := Option.some.inj (hkey.symm.trans hother)
        rw [hkept key hnodup.1, hnext, if_pos rfl]
      · intro other hother
        rw [List.mem_cons, not_or] at hother
        rw [hkept other hother.2, hnext, if_neg hother.1]

/-- **What is said a second time is a fault, whatever comes after it.** -/
theorem consumes_again (h : List.Forall₂ Says members settings) (hname : member.name = key.name)
    (hsaid : key ∈ settings.filterMap Setting.key? ∨ draft.setting? key ≠ none)
    (later : List Member) :
    Consumes fields draft (members ++ member :: later) (.error .mismatch) := by
  induction h generalizing draft with
  | nil =>
    have hpresent := hsaid.resolve_left List.not_mem_nil
    exact .fault (takes_again hname hpresent) later
  | @cons first setting members settings hmeans _ ih =>
    cases hkey : setting.key? with
    | none =>
      obtain rfl := Setting.eq_other hkey
      rw [List.filterMap_cons_none hkey] at hsaid
      exact .step (takes_other hmeans draft) (ih hsaid)
    | some other =>
      rw [List.filterMap_cons_some hkey, List.mem_cons] at hsaid
      by_cases habsent : draft.setting? other = none
      · obtain ⟨next, htakes, hnext⟩ := takes_known hmeans hkey habsent
        refine .step htakes (ih ?_)
        rw [hnext]
        by_cases hsame : key = other
        · rw [if_pos hsame]
          exact Or.inr (Option.some_ne_none setting)
        · rw [if_neg hsame]
          rcases hsaid with (hfirst | hlater) | hpresent
          · exact absurd hfirst hsame
          · exact Or.inl hlater
          · exact Or.inr hpresent
      · exact .fault (takes_again (hmeans.name_eq hkey) habsent) (members ++ member :: later)

/-- A configuration has what was said, and the default for what was not. -/
structure Follows (config : LimboConfig) (settings : List Setting) : Prop where
  said : ∀ setting ∈ settings, ∀ key, setting.key? = some key → config.setting key = setting
  unsaid : ∀ key ∉ settings.filterMap Setting.key?,
    config.setting key = ({} : LimboConfig).setting key

/-- A configuration has what its draft has, or the default. -/
theorem setting_ofDraft (draft : Draft) (key : Key) :
    (ofDraft draft).setting key = (draft.setting? key).getD (({} : LimboConfig).setting key) := by
  cases key with
  | datadir => cases hdraft : draft.datadir <;> simp [setting, ofDraft, Draft.setting?, hdraft]
  | maxBlobsPerTx =>
    cases hdraft : draft.maxBlobsPerTx <;> simp [setting, ofDraft, Draft.setting?, hdraft]
  | metricsEnabled =>
    cases hdraft : draft.metricsEnabled <;> simp [setting, ofDraft, Draft.setting?, hdraft]

/-- Two configurations that have the same for each member are the same. -/
theorem eq_of_setting_eq {config config' : LimboConfig}
    (h : ∀ key, config.setting key = config'.setting key) : config = config' := by
  have hdatadir := h .datadir
  have hblobs := h .maxBlobsPerTx
  have hmetrics := h .metricsEnabled
  cases config
  cases config'
  simp only [setting, Setting.datadir.injEq, Setting.maxBlobsPerTx.injEq,
    Setting.metricsEnabled.injEq] at hdatadir hblobs hmetrics
  rw [hdatadir, hblobs, hmetrics]

/-- The text of an object is read as a configuration by what its members do to the draft. -/
theorem ofText_objectText {result : Except Fault Draft} (h : Consumes fields {} members result) :
    ofText (String.ofList (objectText before inner after members)) = result.map ofDraft := by
  refine (h.readDocument_eq true fun draft => .ok (ofDraft draft)).trans ?_
  cases result with
  | error fault => rfl
  | ok draft => rfl

/-- **A configuration has what the members of an object say, in whatever order they say it.** -/
theorem exists_ofText_eq (h : List.Forall₂ Says members settings)
    (hnodup : (settings.filterMap Setting.key?).Nodup) :
    ∃ config, ofText (String.ofList (objectText before inner after members)) = .ok config ∧
      Follows config settings := by
  have habsent : ∀ key ∈ settings.filterMap Setting.key?, ({} : Draft).setting? key = none :=
    fun key _ => by cases key <;> rfl
  obtain ⟨last, hconsumes, hsaid, hkept⟩ := exists_consumes h hnodup habsent
  refine ⟨ofDraft last, ofText_objectText hconsumes, ?_, ?_⟩
  · intro setting hsetting key hkey
    rw [setting_ofDraft, hsaid setting hsetting key hkey, Option.getD_some]
  · intro key hkey
    have hnone : ({} : Draft).setting? key = none := by cases key <;> rfl
    rw [setting_ofDraft, hkept key hkey, hnone, Option.getD_none]

/-- A member that is not known is passed over, and a text may be spelled with an escape. -/
example : ofText
    " \x7b\"metricsEnabled\" : true, \"x\": [1, \x7b\x7d], \"datadir\": \"a\\u0062\"\x7d " =
      .ok ⟨"ab", 6, true⟩ := by
  rfl

/-- The members of a configuration as they are written. -/
def written (config : LimboConfig) : List Member :=
  [.plain "datadir" (compact (.string config.datadir)),
    .plain "maxBlobsPerTx" (compact (.number config.maxBlobsPerTx.toNat)),
    .plain "metricsEnabled" (compact (.bool config.metricsEnabled))]

/-- A configuration is written as the object of its members. -/
theorem toText_eq (config : LimboConfig) :
    config.toText = String.ofList (objectText .none .none .none config.written) := by
  unfold toText toJson
  rw [compact_object]
  rfl

/-- The members that are written say what the configuration has. -/
theorem says_written (config : LimboConfig) :
    List.Forall₂ Says config.written
      [config.setting .datadir, config.setting .maxBlobsPerTx, config.setting .metricsEnabled] := by
  have hdatadir : Says (.plain "datadir" (compact (.string config.datadir)))
      (.datadir config.datadir) :=
    .datadir rfl (spells_escape config.datadir.toList) rfl
  have hblobs : Says (.plain "maxBlobsPerTx" (compact (.number config.maxBlobsPerTx.toNat)))
      (.maxBlobsPerTx config.maxBlobsPerTx) :=
    .maxBlobsPerTx rfl rfl
  have hmetrics : Says (.plain "metricsEnabled" (compact (.bool config.metricsEnabled)))
      (.metricsEnabled config.metricsEnabled) := by
    refine .metricsEnabled rfl ?_
    cases config.metricsEnabled <;> rfl
  exact .cons hdatadir (.cons hblobs (.cons hmetrics .nil))

/-- **A configuration is read again as it was written.** -/
theorem ofText_toText (config : LimboConfig) : ofText config.toText = .ok config := by
  have hnodup : ([config.setting .datadir, config.setting .maxBlobsPerTx,
      config.setting .metricsEnabled].filterMap Setting.key?).Nodup := by
    change [Key.datadir, Key.maxBlobsPerTx, Key.metricsEnabled].Nodup
    decide
  obtain ⟨config', hread, hfollows⟩ :
      ∃ config', ofText (String.ofList (objectText .none .none .none config.written)) =
        .ok config' ∧ Follows config' _ := exists_ofText_eq config.says_written hnodup
  have hsame : config' = config := by
    apply eq_of_setting_eq
    intro key
    cases key with
    | datadir => exact hfollows.said (config.setting .datadir) (by simp) .datadir rfl
    | maxBlobsPerTx =>
      exact hfollows.said (config.setting .maxBlobsPerTx) (by simp) .maxBlobsPerTx rfl
    | metricsEnabled =>
      exact hfollows.said (config.setting .metricsEnabled) (by simp) .metricsEnabled rfl
  rw [toText_eq, hread, hsame]

/-- How configurations are read. -/
structure Reads : Prop where
  /-- What was written is read again. -/
  roundTrip : ∀ config : LimboConfig, ofText config.toText = .ok config
  /-- Members that say different things are read in any order, among members that are not known and
  whatever blanks there are. What is not said has its default. -/
  anyOrder : ∀ (before inner after : Blanks) (members : List Member) (settings : List Setting),
    List.Forall₂ Says members settings → (settings.filterMap Setting.key?).Nodup →
      ∃ config, ofText (String.ofList (objectText before inner after members)) = .ok config ∧
        Follows config settings
  /-- What is said twice is a fault, whatever comes after it. -/
  saidTwice : ∀ (before inner after : Blanks) (members later : List Member) (member : Member)
    (settings : List Setting) (key : Key), List.Forall₂ Says members settings →
      key ∈ settings.filterMap Setting.key? → member.name = key.name →
        ofText (String.ofList (objectText before inner after (members ++ member :: later))) =
          .error .mismatch

end LimboConfig

namespace FileLog

/-- The members of a file log as they are written. -/
def written (log : FileLog) : List Member :=
  [.plain "directory_path" (compact (.string log.directory)),
    .plain "format" (compact (.string log.format.name)),
    .plain "rotation" (compact (.string log.rotation.name))]

/-- A file log is written as the object of its members. -/
theorem toText_eq (log : FileLog) :
    log.toText = String.ofList (objectText .none .none .none log.written) := by
  unfold toText toJson
  rw [compact_object]
  rfl

/-- The members that are written fill a draft. -/
theorem consumes_written (log : FileLog) :
    Consumes fields {} log.written
      (.ok ⟨some log.directory, some log.format, some log.rotation⟩) := by
  have hformat : LogFormat.ofName? log.format.name = some log.format := by
    cases log.format <;> rfl
  have hrotation : LogRotation.ofName? log.rotation.name = some log.rotation := by
    cases log.rotation <;> rfl
  refine .step (takes_field rfl rfl (readsAs_text (spells_escape _))) ?_
  refine .step (takes_field rfl rfl (readsAs_name (spells_escape _) hformat)) ?_
  exact .step (takes_field rfl rfl (readsAs_name (spells_escape _) hrotation)) (.done _)

/-- **A file log is read again as it was written.** -/
theorem ofText_toText (log : FileLog) : ofText log.toText = .ok log := by
  rw [toText_eq]
  exact log.consumes_written.readDocument_eq false ofDraft

/-- Each field of a file log reads one value, and fills nothing but its own part of a draft. -/
theorem sound_fields : ∀ field ∈ fields, field.Sound fields := by
  intro field hfield
  simp only [fields, List.mem_cons, List.not_mem_nil, or_false] at hfield
  rcases hfield with rfl | rfl | rfl
  · refine sound_field skips_of_readText fun draft directory => ?_
    simp [fields, Json.field]
  · refine sound_field skips_of_readName fun draft format => ?_
    simp [fields, Json.field]
  · refine sound_field skips_of_readName fun draft rotation => ?_
    simp [fields, Json.field]

/-- A file log that is made of a draft has all the fields of it. -/
theorem present_of_ofDraft {draft : Draft} {log : FileLog} (h : ofDraft draft = .ok log) :
    ∀ field ∈ fields, field.present draft = true := by
  unfold ofDraft at h
  split at h
  · rename_i hdirectory hformat hrotation
    simp [fields, Json.field, hdirectory, hformat, hrotation]
  · cases h

/-- **A file log that is read had a member for each field.** -/
theorem mem_names_of_ofText {log : FileLog}
    (hvalues : ∀ member ∈ members, Written .value member.value)
    (hread : ofText (String.ofList (objectText before inner after members)) = .ok log) :
    ∀ name ∈ ["directory_path", "format", "rotation"], name ∈ members.map Member.name := by
  unfold ofText readDocument at hread
  rw [String.toList_ofList] at hread
  obtain ⟨⟨log', rest⟩, hlog, -⟩ := bind_eq_ok_iff.mp hread
  obtain ⟨⟨draft, rest⟩, hrecord, hfinish⟩ := bind_eq_ok_iff.mp hlog
  obtain ⟨log'', hdraft, -⟩ := bind_eq_ok_iff.mp hfinish
  have hpresent := present_of_ofDraft hdraft
  have hnames := mem_names_of_readRecord sound_fields hvalues hrecord
  have habsent : ∀ field ∈ fields, ¬field.present {} = true := by simp [fields, Json.field]
  have hfields : fields.map Json.Field.name = ["directory_path", "format", "rotation"] := rfl
  rw [← hfields, List.forall_mem_map]
  intro field hfield
  exact (hnames field hfield (hpresent field hfield)).resolve_left (habsent field hfield)

/-- How file logs are read. -/
structure Reads : Prop where
  /-- What was written is read again. -/
  roundTrip : ∀ log : FileLog, ofText log.toText = .ok log
  /-- An object without a member for a field is refused, whatever its other members are. -/
  missing : ∀ (before inner after : Blanks) (members : List Member) (name : String),
    (∀ member ∈ members, Written .value member.value) →
      name ∈ ["directory_path", "format", "rotation"] → name ∉ members.map Member.name →
        ∃ fault, ofText (String.ofList (objectText before inner after members)) = .error fault

end FileLog

/-- **Configurations are read in any order, and again as they were written.** A configuration of a
limbo takes from an object what its members say, whatever their order, the members it does not know
and the blanks between them are, and defaults for what they do not say; a member that is said twice
is a fault. A file log must have all its members. -/
theorem reads_configurations : LimboConfig.Reads ∧ FileLog.Reads := by
  constructor
  · refine ⟨LimboConfig.ofText_toText, ?_, ?_⟩
    · intro before inner after members settings hmeans hnodup
      exact LimboConfig.exists_ofText_eq hmeans hnodup
    · intro before inner after members later member settings key hmeans hkey hname
      have hagain : Consumes LimboConfig.fields {} (members ++ member :: later)
          (.error .mismatch) := LimboConfig.consumes_again hmeans hname (Or.inl hkey) later
      exact LimboConfig.ofText_objectText hagain
  · refine ⟨FileLog.ofText_toText, ?_⟩
    intro before inner after members name hvalues hname hmissing
    cases hread : FileLog.ofText (String.ofList (objectText before inner after members)) with
    | error fault => exact ⟨fault, rfl⟩
    | ok log => exact absurd (FileLog.mem_names_of_ofText hvalues hread name hname) hmissing

end BlobLimbo
