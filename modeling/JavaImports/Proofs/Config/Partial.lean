-- SUMMARY: A stored record changes the settings it names and leaves the others at their defaults.
import JavaImports.Proofs.Config.Store
import Mathlib.Data.List.Nodup

/-! # Records of some settings

A stored configuration is a record that need not name all settings and may have members of other
names, in any order and any written form. What it loads as has the given values in the settings
that are named and the defaults in all others. A setting that is named twice and a value that its
setting cannot have are refused, wherever in the record they stand. -/

namespace JavaImports

/-! ## Single settings -/

namespace Setting

/-- Whether two configurations have the same value for a setting. -/
def SameIn (a b : Config) : Setting → Prop
  | version => a.version = b.version
  | rootDirectory => a.rootDirectory = b.rootDirectory
  | included => a.included = b.included
  | excluded => a.excluded = b.excluded
  | sizeLimit => a.sizeLimit = b.sizeLimit
  | filter => a.filter = b.filter
  | nodeSeparator => a.nodeSeparator = b.nodeSeparator
  | edgeSeparator => a.edgeSeparator = b.edgeSeparator
  | recordSeparator => a.recordSeparator = b.recordSeparator
  | nodesFile => a.nodesFile = b.nodesFile
  | edgesFile => a.edgesFile = b.edgesFile
  | graphmlFile => a.graphmlFile = b.graphmlFile
  | template => a.template? = b.template?

theorem sameIn_refl (setting : Setting) (config : Config) : setting.SameIn config config := by
  cases setting <;> rfl

theorem SameIn.trans {setting : Setting} {a b c : Config} (h : setting.SameIn a b)
    (hMore : setting.SameIn b c) : setting.SameIn a c := by
  cases setting <;> exact Eq.trans h hMore

/-- Copying a setting changes this one and no other. -/
theorem sameIn_copy (setting other : Setting) (source target : Config) :
    setting.SameIn (other.copy source target) (if setting = other then source else target) := by
  cases setting <;> cases other <;> rfl

/-- A value that a setting can have: one of the type and in the range of the setting. -/
def Fits (given : Json) : Setting → Prop
  | version => ∃ n < UInt32.size, given = .ofNat n
  | sizeLimit => ∃ n < UInt64.size, given = .ofNat n
  | included | excluded => ∃ globs, given = .ofTexts globs
  | template => given = .null ∨ ∃ text, given = .ofText text
  | rootDirectory | filter | nodeSeparator | edgeSeparator | recordSeparator | nodesFile
  | edgesFile | graphmlFile => ∃ text, given = .ofText text

theorem exists_below?_iff {bound : Nat} {given : Json} {form : List Char}
    (hForm : Json.Writes given form) :
    (∃ n, below? bound given = some n) ↔ ∃ n < bound, given = .ofNat n := by
  constructor
  · rintro ⟨n, hBelow⟩
    obtain ⟨hNatural, hBound⟩ := Option.filter_eq_some_iff.1 hBelow
    exact ⟨n, by simpa using hBound, Json.eq_ofNat_of_natural? hForm hNatural⟩
  · rintro ⟨n, hBound, rfl⟩
    exact ⟨n, below?_ofNat hBound⟩

theorem exists_optionalText?_iff {given : Json} :
    (∃ text?, optionalText? given = some text?) ↔ given = .null ∨ ∃ text, given = .ofText text := by
  constructor
  · rintro ⟨text?, hText⟩
    unfold optionalText? at hText
    split at hText
    · exact .inl rfl
    · obtain ⟨text, hText, -⟩ := Option.map_eq_some_iff.1 hText
      exact .inr ⟨text, Json.eq_ofText_of_text? hText⟩
  · rintro (rfl | ⟨text, rfl⟩)
    · exact ⟨none, rfl⟩
    · exact ⟨some text, optionalText?_getD (some text)⟩

/-- A setting can be set to the values that fit it and to no others. -/
theorem exists_set?_iff {setting : Setting} {target : Config} {given : Json} {form : List Char}
    (hForm : Json.Writes given form) :
    (∃ changed, setting.set? target given = some changed) ↔ setting.Fits given := by
  have hText : (∃ text, given.text? = some text) ↔ ∃ text, given = .ofText text :=
    exists_congr fun text => ⟨Json.eq_ofText_of_text?, fun h => h ▸ Json.text?_ofText text⟩
  have hTexts : (∃ texts, given.texts? = some texts) ↔ ∃ texts, given = .ofTexts texts :=
    exists_congr fun texts => ⟨Json.eq_ofTexts_of_texts?, fun h => h ▸ Json.texts?_ofTexts texts⟩
  cases setting with
  | version | sizeLimit => simpa [set?, Fits] using exists_below?_iff hForm
  | included | excluded => simpa [set?, Fits] using hTexts
  | template => simpa [set?, Fits] using exists_optionalText?_iff
  | rootDirectory | filter | nodeSeparator | edgeSeparator | recordSeparator | nodesFile
  | edgesFile | graphmlFile => simpa [set?, Fits] using hText

end Setting

namespace Config

/-! ## Members -/

theorem sameIn_copySettings (source target : Config) (settings : List Setting)
    (setting : Setting) : setting.SameIn (source.copySettings target settings)
      (if setting ∈ settings then source else target) := by
  induction settings generalizing target with
  | nil => exact setting.sameIn_refl target
  | cons first settings ih =>
    have hRest := ih (first.copy source target)
    by_cases hMem : setting ∈ settings
    · rw [if_pos hMem] at hRest
      rwa [if_pos (List.mem_cons_of_mem _ hMem)]
    · rw [if_neg hMem] at hRest
      have hFirst := setting.sameIn_copy first source target
      have hCons : setting ∈ first :: settings ↔ setting = first := by simp [hMem]
      simp only [hCons]
      exact hRest.trans hFirst

/-- What reading the first member of a record does, if the record can be read. -/
theorem readMembers_cons_cases {target config : Config} {seen : List Setting}
    {member : List Nat × Json} {more : List (List Nat × Json)}
    (h : readMembers target seen (member :: more) = .ok config) :
    (Setting.ofMember? member = none ∧ readMembers target seen more = .ok config) ∨
      ∃ setting changed, Setting.ofMember? member = some setting ∧ setting ∉ seen ∧
        setting.set? target member.2 = some changed ∧
        readMembers changed (setting :: seen) more = .ok config := by
  obtain ⟨codes, given⟩ := member
  cases hNamed : Setting.ofMember? (codes, given) with
  | none =>
    refine .inl ⟨rfl, ?_⟩
    rw [readMembers] at h
    cases hText : Json.textOfCodes? codes with
    | none => simp [hText] at h
    | some key =>
      have hKey : Setting.ofKey? key = none := by simpa [Setting.ofMember?, hText] using hNamed
      simpa [hText, hKey] using h
  | some setting =>
    obtain rfl : codes = Json.codesOf setting.key := Setting.ofMember?_eq_some_iff.1 hNamed
    rw [readMembers_named] at h
    split at h
    · cases h
    · next hUnseen =>
      rw [Setting.set] at h
      cases hSet : setting.set? target given with
      | none => simp [hSet] at h
      | some changed => exact .inr ⟨setting, changed, rfl, hUnseen, hSet, by simpa [hSet] using h⟩

/-- A record that can be read names no setting twice. -/
theorem nodup_of_readMembers {target config : Config} {seen : List Setting}
    {members : List (List Nat × Json)} (h : readMembers target seen members = .ok config) :
    (members.filterMap Setting.ofMember?).Nodup ∧
      ∀ setting ∈ members.filterMap Setting.ofMember?, setting ∉ seen := by
  induction members generalizing target seen with
  | nil => simp
  | cons member more ih =>
    rcases readMembers_cons_cases h with
      ⟨hNone, hMore⟩ | ⟨setting, changed, hNamed, hUnseen, -, hMore⟩
    · rw [List.filterMap_cons_none hNone]
      exact ih hMore
    · obtain ⟨hNodup, hSeen⟩ := ih hMore
      rw [List.filterMap_cons_some hNamed]
      refine ⟨List.nodup_cons.2 ⟨fun hMem => ?_, hNodup⟩, ?_⟩
      · exact hSeen setting hMem (List.mem_cons_self ..)
      · refine List.forall_mem_cons.2 ⟨hUnseen, fun other hMem hOther => ?_⟩
        exact hSeen other hMem (List.mem_cons_of_mem _ hOther)

/-- A record that can be read gives to each setting that it names a value the setting can have. -/
theorem exists_set?_of_readMembers {target config : Config} {seen : List Setting}
    {members : List (List Nat × Json)} (h : readMembers target seen members = .ok config)
    {member : List Nat × Json} (hMem : member ∈ members) {setting : Setting}
    (hNamed : Setting.ofMember? member = some setting) :
    ∃ before after, setting.set? before member.2 = some after := by
  induction members generalizing target seen with
  | nil => cases hMem
  | cons first more ih =>
    rcases readMembers_cons_cases h with ⟨hNone, hMore⟩ | ⟨other, changed, hOther, -, hSet, hMore⟩
    · rcases List.mem_cons.1 hMem with rfl | hRest
      · cases hNone.symm.trans hNamed
      · exact ih hMore hRest
    · rcases List.mem_cons.1 hMem with rfl | hRest
      · obtain rfl := Option.some.inj (hOther.symm.trans hNamed)
        exact ⟨target, changed, hSet⟩
      · exact ih hMore hRest

/-- A setting is named as often as its key is one of the keys. -/
theorem count_ofMember? (setting : Setting) (members : List (List Nat × Json)) :
    (members.filterMap Setting.ofMember?).count setting =
      (members.map Prod.fst).count (Json.codesOf setting.key) := by
  induction members with
  | nil => rfl
  | cons member more ih =>
    rw [List.map_cons]
    by_cases hNamed : Setting.ofMember? member = some setting
    · rw [List.filterMap_cons_some hNamed, List.count_cons_self, ih,
        Setting.ofMember?_eq_some_iff.1 hNamed, List.count_cons_self]
    · have hKey : member.1 ≠ Json.codesOf setting.key := fun hSame =>
        hNamed (Setting.ofMember?_eq_some_iff.2 hSame)
      rw [List.count_cons_of_ne hKey, ← ih]
      cases hOther : Setting.ofMember? member with
      | none => rw [List.filterMap_cons_none hOther]
      | some other =>
        rw [List.filterMap_cons_some hOther]
        exact List.count_cons_of_ne fun hSame => hNamed (hOther.trans (congrArg some hSame))

/-! ## Stored records -/

/-- The file of a configuration holds a record in one of its written forms, with gaps around it. -/
def StoresRecord (fs : FileSystem) (root : String) (members : List (List Nat × Json)) : Prop :=
  ∃ before form after, Json.IsGap before ∧ Json.Writes (.record members) form ∧
    Json.IsGap after ∧ fs.readText (path root) = .ok (String.ofList (before ++ form ++ after))

theorem load_of_storesRecord {fs : FileSystem} {root : String} {members : List (List Nat × Json)}
    (h : StoresRecord fs root members) :
    load fs root = (readMembers {} [] members).mapError fun error =>
      .config (.invalid (path root) error) := by
  obtain ⟨before, form, after, hBefore, hForm, hAfter, hText⟩ := h
  rw [load_of_readText hText, ofString, Json.ofString?_of_writes hBefore hForm hAfter]
  rfl

/-- The members for some settings, in any order and among extra ones, load as these settings. -/
theorem load_of_perm {fs : FileSystem} {root : String} {members : List (List Nat × Json)}
    (hStored : StoresRecord fs root members) {config : Config} {settings : List Setting}
    {extras : List (List Nat × Json)} (hNodup : settings.Nodup)
    (hExtras : ∀ extra ∈ extras, IsExtra extra)
    (hPerm : members.Perm (settings.map config.member ++ extras)) :
    ∃ loaded, load fs root = .ok loaded ∧
      ∀ setting : Setting, setting.SameIn loaded (if setting ∈ settings then config else {}) := by
  have hMembers : ∀ member ∈ members,
      (∃ setting, member = config.member setting) ∨ IsExtra member := by
    intro member hMem
    rcases List.mem_append.1 (hPerm.subset hMem) with hSetting | hOther
    · obtain ⟨setting, -, rfl⟩ := List.mem_map.1 hSetting
      exact .inl ⟨setting, rfl⟩
    · exact .inr (hExtras member hOther)
  -- the settings that are named are those that were chosen, in another order
  have hNamed : (members.filterMap Setting.ofMember?).Perm settings := by
    have hOthers : extras.filterMap Setting.ofMember? = [] :=
      List.filterMap_eq_nil_iff.2 fun extra hMem => (hExtras extra hMem).ofMember?_eq_none
    have hAll := hPerm.filterMap Setting.ofMember?
    rwa [List.filterMap_append, filterMap_ofMember?_member, hOthers, List.append_nil] at hAll
  have hRead : readMembers {} [] members =
      .ok (config.copySettings {} (members.filterMap Setting.ofMember?)) :=
    readMembers_eq_ok hMembers (hNamed.nodup_iff.2 hNodup) fun _ _ => List.not_mem_nil
  refine ⟨config.copySettings {} (members.filterMap Setting.ofMember?), ?_, fun setting => ?_⟩
  · rw [load_of_storesRecord hStored, hRead]
    rfl
  · have hSame := config.sameIn_copySettings {} (members.filterMap Setting.ofMember?) setting
    simpa only [hNamed.mem_iff] using hSame

/-- A record that names a setting twice or gives it a value that it cannot have is refused. -/
theorem load_of_wrong {fs : FileSystem} {root : String} {members : List (List Nat × Json)}
    (hStored : StoresRecord fs root members) {setting : Setting}
    (hWrong : 2 ≤ (members.map Prod.fst).count (Json.codesOf setting.key) ∨
      ∃ value, (Json.codesOf setting.key, value) ∈ members ∧ ¬ setting.Fits value) :
    ∃ error, load fs root = .error (.config (.invalid (path root) error)) := by
  rw [load_of_storesRecord hStored]
  cases hRead : readMembers {} [] members with
  | error error => exact ⟨error, rfl⟩
  | ok config =>
    exfalso
    rcases hWrong with hTwice | ⟨value, hMem, hUnfit⟩
    · rw [← count_ofMember?] at hTwice
      have hOnce := List.nodup_iff_count_le_one.1 (nodup_of_readMembers hRead).1 setting
      omega
    · obtain ⟨_, form, _, -, hForm, -, -⟩ := hStored
      obtain ⟨given, hGiven⟩ := Json.exists_writes_of_mem hForm hMem
      obtain ⟨before, hSet⟩ := exists_set?_of_readMembers hRead hMem
        (Setting.ofMember?_eq_some_iff.2 rfl)
      exact hUnfit ((Setting.exists_set?_iff hGiven).1 hSet)

/-- A stored record changes exactly the settings that it names, whatever its order, its written form
    and its other members. If it names a setting twice or gives it a value that does not fit, no
    configuration is loaded. -/
theorem load_storedRecord {fs : FileSystem} {root : String} {members : List (List Nat × Json)}
    (hStored : StoresRecord fs root members) :
    (∀ (config : Config) (settings : List Setting) (extras : List (List Nat × Json)),
      settings.Nodup → (∀ extra ∈ extras, IsExtra extra) →
      members.Perm (settings.map config.member ++ extras) →
      ∃ loaded, load fs root = .ok loaded ∧
        ∀ setting : Setting, setting.SameIn loaded (if setting ∈ settings then config else {})) ∧
    (∀ setting : Setting, (2 ≤ (members.map Prod.fst).count (Json.codesOf setting.key) ∨
        ∃ value, (Json.codesOf setting.key, value) ∈ members ∧ ¬ setting.Fits value) →
      ∃ error, load fs root = .error (.config (.invalid (path root) error))) :=
  ⟨fun _ _ _ hNodup hExtras hPerm => load_of_perm hStored hNodup hExtras hPerm,
    fun _ hWrong => load_of_wrong hStored hWrong⟩

section Sample

/-- A written record with gaps around it. -/
private def recordText (members : List (List Nat × Json)) : String :=
  String.ofList (Json.newLine 1 ++ Json.write 0 (.record members) ++ Json.newLine 0)

/-- A project that stores a record. -/
private def projectStoring (members : List (List Nat × Json)) : FileSystem :=
  (FileSystem.bare.put [".importgraph"] .directory).put [".importgraph", "config.json"]
    (.file (recordText members).toUTF8)

private theorem storesRecord_projectStoring {members : List (List Nat × Json)}
    (h : Json.AreWritableMembers members) : StoresRecord (projectStoring members) "/" members := by
  refine ⟨Json.newLine 1, Json.write 0 (.record members), Json.newLine 0, Json.isGap_newLine 1,
    Json.writes_write 0 (.record members) h, Json.isGap_newLine 0, ?_⟩
  have hNode (location : Location) : (projectStoring members).nodeAt? location =
      if location = [".importgraph", "config.json"] then some (.file (recordText members).toUTF8)
      else if location = [".importgraph"] then some .directory
      else FileSystem.bare.nodeAt? location := by
    rw [projectStoring, FileSystem.nodeAt?_put (by simp), FileSystem.nodeAt?_put (by simp)]
  have hHere : (projectStoring members).directory? (directory "/") = some [".importgraph"] :=
    directory?_directory (by simp [hNode])
  have hFile : (projectStoring members).nodeAt? ([".importgraph"] ++ ["config.json"]) =
      some (.file (recordText members).toUTF8) := by
    rw [hNode, List.singleton_append, if_pos rfl]
  have hPlace : (projectStoring members).resolve true (path "/") = .ok ⟨_, _⟩ :=
    FileSystem.resolve_join_follow isFileName_path hHere true (by rw [hFile]; nofun)
  rw [hFile] at hPlace
  exact FileSystem.readText_eq_ok_iff.2 ⟨_, _, hPlace, FileSystem.fromUTF8?_toUTF8 _⟩

/-- A configuration with other than the default values in two settings. -/
private def chosen : Config :=
  { filter := "**", sizeLimit := 18446744073709551615 }

/-- A key that no setting has, given twice. The record that the first one holds has the key of a
    setting. -/
private def others : List (List Nat × Json) :=
  [(Json.codesOf "Filter", .list [.record [(Json.codesOf "filter", .null)]]),
    (Json.codesOf "Filter", .bool true)]

private theorem isExtra_of_mem_others {extra : List Nat × Json} (h : extra ∈ others) :
    IsExtra extra := by
  have hName : extra.1 = Json.codesOf "Filter" := by
    rcases List.mem_cons.1 h with rfl | hMore
    · rfl
    · rw [List.mem_singleton.1 hMore]
  exact ⟨"Filter", hName, fun setting => by cases setting <;> decide⟩

private theorem not_fits_version : ¬ Setting.version.Fits (.ofNat 4294967296) := by
  rintro ⟨n, hBound, hSame⟩
  have hNumber := congrArg Json.natural? hSame
  rw [Json.natural?_ofNat, Json.natural?_ofNat] at hNumber
  obtain rfl := Option.some.inj hNumber
  exact absurd hBound (by decide)

/-- A record of three settings behind two members of another name is loaded. A record with the same
    setting twice and one with a version that is too great by one are not. -/
theorem load_storedRecord_samples :
    (∃ loaded, load (projectStoring (others ++
        [Setting.sizeLimit, .template, .filter].map chosen.member)) "/" = .ok loaded ∧
      loaded.sizeLimit = 18446744073709551615 ∧ loaded.filter = "**" ∧ loaded.version = 1) ∧
    (∃ error, load (projectStoring ([Setting.filter, .template, .filter].map chosen.member)) "/" =
      .error (.config (.invalid (path "/") error))) ∧
    (∃ error, load (projectStoring [(Json.codesOf "version", .ofNat 4294967296)]) "/" =
      .error (.config (.invalid (path "/") error))) := by
  refine ⟨?_, ?_, ?_⟩
  · have hWritable : Json.AreWritableMembers (others ++
        [Setting.sizeLimit, .template, .filter].map chosen.member) :=
      ⟨⟨_, rfl⟩, ⟨⟨⟨_, rfl⟩, trivial, trivial⟩, trivial⟩, ⟨_, rfl⟩, trivial,
        chosen.areWritableMembers_member _⟩
    obtain ⟨loaded, hLoaded, hSame⟩ := (load_storedRecord (storesRecord_projectStoring hWritable)).1
      chosen [.sizeLimit, .template, .filter] others (by decide)
      (fun _ => isExtra_of_mem_others) List.perm_append_comm
    exact ⟨loaded, hLoaded, hSame .sizeLimit, hSame .filter, hSame .version⟩
  · exact (load_storedRecord (storesRecord_projectStoring (chosen.areWritableMembers_member _))).2
      .filter (.inl (by decide))
  · have hWritable : Json.AreWritableMembers [(Json.codesOf "version", .ofNat 4294967296)] :=
      ⟨⟨_, rfl⟩, Json.isWritable_ofNat _, trivial⟩
    exact (load_storedRecord (storesRecord_projectStoring hWritable)).2 .version
      (.inr ⟨_, List.mem_singleton_self _, not_fits_version⟩)

end Sample

end Config

end JavaImports
