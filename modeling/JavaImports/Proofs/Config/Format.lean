-- SUMMARY: A configuration is read from the text it is stored as.
import JavaImports.Config.Store
import JavaImports.Proofs.Json.Views

/-! # Reading stored configurations

Each setting is read from the value that was written for it: numbers at the ends of their ranges,
texts with any characters in them, lists of any length, and a template or none. Members of a record
are read one after another, so by induction a record of some settings changes these and leaves the
others as they were, whatever other members stand between them. The stored form names all settings,
so nothing remains of what was set before. -/

namespace JavaImports

/-! ## One setting -/

namespace Setting

theorem mem_all (setting : Setting) : setting ∈ all := by
  cases setting <;> decide

theorem nodup_all : all.Nodup := by
  decide

theorem key_inj {setting other : Setting} (h : setting.key = other.key) : setting = other := by
  cases setting <;> cases other <;> first | rfl | exact absurd h (by decide)

/-- A setting is found by its key. -/
theorem ofKey?_key (setting : Setting) : ofKey? setting.key = some setting := by
  cases hFound : ofKey? setting.key with
  | none =>
    have hNone := List.find?_eq_none.1 hFound setting (mem_all setting)
    simp at hNone
  | some other =>
    have hKey : other.key = setting.key := by simpa using List.find?_some hFound
    rw [key_inj hKey]

theorem ofKey?_eq_some_iff {key : String} {setting : Setting} :
    ofKey? key = some setting ↔ key = setting.key := by
  constructor
  · intro h
    have hKey : setting.key = key := by simpa using List.find?_some h
    exact hKey.symm
  · rintro rfl
    exact ofKey?_key setting

/-- The setting that a member of a record names. -/
def ofMember? (member : List Nat × Json) : Option Setting :=
  (Json.textOfCodes? member.1).bind ofKey?

theorem ofMember?_eq_some_iff {member : List Nat × Json} {setting : Setting} :
    ofMember? member = some setting ↔ member.1 = Json.codesOf setting.key := by
  rw [ofMember?, Option.bind_eq_some_iff]
  constructor
  · rintro ⟨key, hText, hKey⟩
    rw [Json.eq_codesOf_of_textOfCodes? hText, ofKey?_eq_some_iff.1 hKey]
  · intro hCodes
    exact ⟨setting.key, by rw [hCodes, Json.textOfCodes?_codesOf], ofKey?_key setting⟩

/-- The configuration `target` with one setting as `source` has it. -/
def copy (source target : Config) : Setting → Config
  | version => { target with version := source.version }
  | rootDirectory => { target with rootDirectory := source.rootDirectory }
  | included => { target with included := source.included }
  | excluded => { target with excluded := source.excluded }
  | sizeLimit => { target with sizeLimit := source.sizeLimit }
  | filter => { target with filter := source.filter }
  | nodeSeparator => { target with nodeSeparator := source.nodeSeparator }
  | edgeSeparator => { target with edgeSeparator := source.edgeSeparator }
  | recordSeparator => { target with recordSeparator := source.recordSeparator }
  | nodesFile => { target with nodesFile := source.nodesFile }
  | edgesFile => { target with edgesFile := source.edgesFile }
  | graphmlFile => { target with graphmlFile := source.graphmlFile }
  | template => { target with template? := source.template? }

theorem below?_ofNat {bound n : Nat} (h : n < bound) : below? bound (.ofNat n) = some n := by
  rw [below?, Json.natural?_ofNat]
  exact Option.filter_eq_some_iff.2 ⟨rfl, by simpa using h⟩

theorem optionalText?_getD (text? : Option String) :
    optionalText? ((text?.map Json.ofText).getD .null) = some text? := by
  cases text? with
  | none => rfl
  | some text => exact congrArg (Option.map some) (Json.text?_ofText text)

/-- Setting a setting to the value that a configuration gives to it copies it from there. -/
theorem set?_value (setting : Setting) (source target : Config) :
    setting.set? target (setting.value source) = some (setting.copy source target) := by
  cases setting with
  | version => simp [set?, value, copy, below?_ofNat source.version.toNat_lt_size]
  | sizeLimit => simp [set?, value, copy, below?_ofNat source.sizeLimit.toNat_lt_size]
  | included | excluded => simp [set?, value, copy, Json.texts?_ofTexts]
  | template => simp [set?, value, copy, optionalText?_getD]
  | rootDirectory | filter | nodeSeparator | edgeSeparator | recordSeparator | nodesFile
  | edgesFile | graphmlFile => simp [set?, value, copy, Json.text?_ofText]

theorem set_value (setting : Setting) (source target : Config) :
    setting.set target (setting.value source) = .ok (setting.copy source target) := by
  rw [set, set?_value]

theorem isWritable_value (config : Config) (setting : Setting) :
    (setting.value config).IsWritable := by
  cases setting with
  | version | sizeLimit => exact Json.isWritable_ofNat _
  | included | excluded => exact Json.isWritable_ofTexts _
  | template =>
    rw [value]
    cases config.template? with
    | none => trivial
    | some text => exact Json.isWritable_ofText text
  | rootDirectory | filter | nodeSeparator | edgeSeparator | recordSeparator | nodesFile
  | edgesFile | graphmlFile => exact Json.isWritable_ofText _

end Setting

/-! ## All settings -/

namespace Config

/-- The configuration `target` with some settings as `source` has them. -/
def copySettings (source target : Config) (settings : List Setting) : Config :=
  settings.foldl (fun config setting => setting.copy source config) target

/-- Nothing remains of a configuration if all settings are copied. -/
theorem copySettings_all (source target : Config) :
    source.copySettings target Setting.all = source := by
  simp [copySettings, Setting.all, Setting.copy]

/-- The member of a record that holds a setting. -/
def member (config : Config) (setting : Setting) : List Nat × Json :=
  (Json.codesOf setting.key, setting.value config)

/-- A member of a record that configurations have no setting for. -/
def IsExtra (member : List Nat × Json) : Prop :=
  ∃ key, member.1 = Json.codesOf key ∧ ∀ setting : Setting, key ≠ setting.key

theorem IsExtra.ofMember?_eq_none {member : List Nat × Json} (h : IsExtra member) :
    Setting.ofMember? member = none := by
  obtain ⟨key, hKey, hOther⟩ := h
  rw [Option.eq_none_iff_forall_ne_some]
  intro setting hNamed
  have hSame := congrArg Json.textOfCodes? (hKey.symm.trans (Setting.ofMember?_eq_some_iff.1 hNamed))
  rw [Json.textOfCodes?_codesOf, Json.textOfCodes?_codesOf] at hSame
  exact hOther setting (Option.some.inj hSame)

section Members

variable {target : Config} {seen : List Setting} {more : List (List Nat × Json)}

theorem readMembers_extra {member : List Nat × Json} (h : IsExtra member) :
    readMembers target seen (member :: more) = readMembers target seen more := by
  obtain ⟨key, hKey, hOther⟩ := h
  have hNone : Setting.ofKey? key = none := by
    rw [Option.eq_none_iff_forall_ne_some]
    exact fun setting hFound => hOther setting (Setting.ofKey?_eq_some_iff.1 hFound)
  simp only [readMembers, hKey, Json.textOfCodes?_codesOf, hNone]

theorem readMembers_named (setting : Setting) (value : Json) :
    readMembers target seen ((Json.codesOf setting.key, value) :: more) =
      if setting ∈ seen then .error (.repeatedKey setting.key)
      else match setting.set target value with
        | .ok config => readMembers config (setting :: seen) more
        | .error e => .error e := by
  simp only [readMembers, Json.textOfCodes?_codesOf, Setting.ofKey?_key]
  by_cases hSeen : setting ∈ seen <;> cases setting.set target value <;> simp [hSeen]

end Members

/-- Members for settings that are named for the first time change these settings, and the other
    members change nothing. -/
theorem readMembers_eq_ok {source target : Config} {seen : List Setting}
    {members : List (List Nat × Json)}
    (hMembers : ∀ member ∈ members, (∃ setting, member = source.member setting) ∨ IsExtra member)
    (hNodup : (members.filterMap Setting.ofMember?).Nodup)
    (hSeen : ∀ setting ∈ members.filterMap Setting.ofMember?, setting ∉ seen) :
    readMembers target seen members =
      .ok (source.copySettings target (members.filterMap Setting.ofMember?)) := by
  induction members generalizing target seen with
  | nil => rfl
  | cons member more ih =>
    obtain ⟨hMember, hMore⟩ := List.forall_mem_cons.1 hMembers
    rcases hMember with ⟨setting, rfl⟩ | hExtra
    · have hNamed : Setting.ofMember? (source.member setting) = some setting :=
        Setting.ofMember?_eq_some_iff.2 rfl
      rw [List.filterMap_cons_some hNamed] at hNodup hSeen ⊢
      obtain ⟨hFresh, hRest⟩ := List.nodup_cons.1 hNodup
      obtain ⟨hUnseen, hUnseenRest⟩ := List.forall_mem_cons.1 hSeen
      have hNext : ∀ other ∈ more.filterMap Setting.ofMember?, other ∉ setting :: seen := by
        rintro other hMem (- | ⟨-, hOther⟩)
        · exact hFresh hMem
        · exact hUnseenRest other hMem hOther
      rw [member, readMembers_named, if_neg hUnseen, Setting.set_value]
      exact ih hMore hRest hNext
    · rw [List.filterMap_cons_none hExtra.ofMember?_eq_none] at hNodup hSeen ⊢
      rw [readMembers_extra hExtra]
      exact ih hMore hNodup hSeen

theorem filterMap_ofMember?_member (config : Config) (settings : List Setting) :
    (settings.map config.member).filterMap Setting.ofMember? = settings := by
  have hNamed : (Setting.ofMember? ∘ config.member) = some :=
    funext fun _ => Setting.ofMember?_eq_some_iff.2 rfl
  rw [List.filterMap_map, hNamed, List.filterMap_some]

theorem ofJson_toJson (config : Config) : ofJson config.toJson = .ok config := by
  have hNames := config.filterMap_ofMember?_member Setting.all
  have hMembers : readMembers {} [] (Setting.all.map config.member) =
      .ok (config.copySettings {} ((Setting.all.map config.member).filterMap
        Setting.ofMember?)) := by
    refine readMembers_eq_ok ?_ (hNames.symm ▸ Setting.nodup_all) fun _ _ => List.not_mem_nil
    intro member hMem
    obtain ⟨setting, -, rfl⟩ := List.mem_map.1 hMem
    exact .inl ⟨setting, rfl⟩
  rw [hNames, copySettings_all] at hMembers
  exact hMembers

theorem areWritableMembers_member (config : Config) (settings : List Setting) :
    Json.AreWritableMembers (settings.map config.member) := by
  induction settings with
  | nil => trivial
  | cons setting settings ih => exact ⟨⟨setting.key, rfl⟩, setting.isWritable_value config, ih⟩

theorem isWritable_toJson (config : Config) : config.toJson.IsWritable :=
  config.areWritableMembers_member Setting.all

/-- A configuration is read from the text it is stored as. -/
theorem ofString_render (config : Config) : ofString config.render = .ok config := by
  rw [ofString, render, Json.ofString?_render config.isWritable_toJson]
  exact config.ofJson_toJson

end Config

end JavaImports
