-- SUMMARY: What a build warns about: files left out for their size, and units of several files.
import JavaImports.Proofs.Scan
import JavaImports.Proofs.Selection

/-! # What a build warns about

First come the files that are left out for their size, then the files whose unit has imports from a
file before. The first file that gives a unit some imports makes an entry in the map, each later one
a warning. So the units and these warnings are together as many as the files that have imports to
give, and a file that has none makes neither. -/

namespace JavaImports

/-! ## Files that are too large -/

namespace Selection

/-- What is left out below the root of a project, which leads to `directory`, for its size only. -/
structure IsOversized (fs : FileSystem) (config : Config) (accepts : String → Bool) (root : String)
    (directory relative : Location) (size : Nat) : Prop where
  file : ∃ node, fs.Leads directory relative node ∧ node.size? = some size
  overLimit : config.sizeLimit.toNat < size
  selects : config.selects (relativePath relative)
  accepts : accepts (pathBelow root relative)

/-- The location and the size of an entry below a root, if it is a file left out for its size. -/
def oversized? (config : Config) (accepts : String → Bool) (root : String)
    (entry : Location × Node) : Option (Location × Nat) :=
  match candidate? config accepts root entry with
  | some size => if config.sizeLimit.toNat < size then some (entry.1, size) else none
  | none => none

variable {config : Config} {accepts : String → Bool} {root : String}

theorem oversized?_eq_some_iff {entry : Location × Node} {relative : Location} {size : Nat} :
    oversized? config accepts root entry = some (relative, size) ↔
      entry.1 = relative ∧ entry.2.size? = some size ∧
        config.selects (relativePath relative) ∧ accepts (pathBelow root relative) ∧
        config.sizeLimit.toNat < size := by
  have hOversized : oversized? config accepts root entry = some (relative, size) ↔
      candidate? config accepts root entry = some size ∧ config.sizeLimit.toNat < size ∧
        entry.1 = relative := by
    unfold oversized?
    cases candidate? config accepts root entry with
    | none => simp
    | some found =>
      simp only [Option.ite_none_right_eq_some, Option.some.injEq, Prod.mk.injEq]
      constructor
      · rintro ⟨hLimit, hPlace, rfl⟩
        exact ⟨rfl, hLimit, hPlace⟩
      · rintro ⟨rfl, hLimit, hPlace⟩
        exact ⟨hLimit, hPlace, rfl⟩
  rw [hOversized, candidate?_eq_some_iff]
  constructor
  · rintro ⟨⟨hSize, hSelects, hAccepts⟩, hLimit, rfl⟩
    exact ⟨rfl, hSize, hSelects, hAccepts, hLimit⟩
  · rintro ⟨rfl, hSize, hSelects, hAccepts, hLimit⟩
    exact ⟨⟨hSize, hSelects, hAccepts⟩, hLimit, rfl⟩

theorem overLimit?_eq_map (entry : Location × Node) :
    overLimit? config accepts root entry = (oversized? config accepts root entry).map fun file =>
      .overLimit (relativePath file.1) file.2 config.sizeLimit.toNat := by
  unfold overLimit? oversized?
  cases candidate? config accepts root entry with
  | none => rfl
  | some size => by_cases hLimit : config.sizeLimit.toNat < size <;> simp [hLimit]

theorem mem_filterMap_oversized?_iff {fs : FileSystem} {directory relative : Location}
    (hListable : fs.IsListable directory) {size : Nat} :
    (relative, size) ∈ (fs.toldBelow directory).filterMap (oversized? config accepts root) ↔
      IsOversized fs config accepts root directory relative size := by
  simp only [List.mem_filterMap, oversized?_eq_some_iff]
  constructor
  · rintro ⟨⟨there, node⟩, hMem, rfl, hSize, hSelects, hAccepts, hLimit⟩
    exact ⟨⟨node, hListable.mem_toldBelow_iff.1 hMem, hSize⟩, hLimit, hSelects, hAccepts⟩
  · rintro ⟨⟨node, hLeads, hSize⟩, hLimit, hSelects, hAccepts⟩
    exact ⟨_, hListable.mem_toldBelow_iff.2 hLeads, rfl, hSize, hSelects, hAccepts, hLimit⟩

theorem pairwise_filterMap_oversized? (fs : FileSystem) (directory : Location) :
    ((fs.toldBelow directory).filterMap (oversized? config accepts root)).Pairwise
      fun a b => compare a.1 b.1 = .lt := by
  refine List.pairwise_filterMap.2 ((fs.pairwise_toldBelow directory).imp ?_)
  intro a b hLess file hFile other hOther
  rw [← (oversized?_eq_some_iff.1 hFile).1, ← (oversized?_eq_some_iff.1 hOther).1]
  exact hLess

/-- The warnings of a visit that finds its files tell those that are left out for their size, each
    once, in the order of their locations. -/
theorem exists_oversized {fs : FileSystem} (hTree : fs.IsTree) {directory : Location}
    (hRoot : fs.directory? root = some directory) {files : List String}
    (hFiles : (ofProject fs config accepts root).result = .ok files) :
    ∃ oversized : List (Location × Nat),
      (ofProject fs config accepts root).warnings = (oversized.map fun file =>
        .overLimit (relativePath file.1) file.2 config.sizeLimit.toNat) ∧
      oversized.Pairwise (fun a b => List.Lex (fun x y => Text.bytes x < Text.bytes y) a.1 b.1) ∧
      ∀ relative size, (relative, size) ∈ oversized ↔
        IsOversized fs config accepts root directory relative size := by
  have hTold := (exists_result_ofProject_iff hTree hRoot).1 ⟨files, hFiles⟩
  rw [ofProject_of_isTold hTree hRoot hTold]
  refine ⟨(fs.toldBelow directory).filterMap (oversized? config accepts root), ?_,
    (pairwise_filterMap_oversized? fs directory).imp Text.lex_bytes_of_compare,
    fun relative size => mem_filterMap_oversized?_iff hTold.listable⟩
  simp only [List.map_filterMap, overLimit?_eq_map]

end Selection

/-! ## Units with imports from several files -/

namespace ImportMap

variable {imports : ImportMap} {filter : SymbolFilter} {file : SourceUnit}

/-- The unit with imports to which adding a file gives more, if there is one. -/
def mergedInto? (imports : ImportMap) (filter : SymbolFilter) (file : SourceUnit) : Option String :=
  (written? filter file).filter fun unit => decide (unit ∈ imports.units)

theorem mergedInto?_eq_some_iff {unit : String} : imports.mergedInto? filter file = some unit ↔
    written? filter file = some unit ∧ unit ∈ imports.units := by
  simp [mergedInto?, Option.filter_eq_some_iff]

/-- Adding a file merges exactly if it gives more imports to the unit of the file. -/
theorem mergedInto?_eq_ite : imports.mergedInto? filter file =
    if imports.merges filter file then some file.name else none := by
  have hUnit : imports.contains file.name ↔ file.name ∈ imports.units := by
    rw [mem_units_iff, SortedMap.contains, Option.isSome_iff_exists]
  unfold mergedInto? written? merges
  cases kept filter file with
  | nil => rfl
  | cons symbol more => by_cases hMem : file.name ∈ imports.units <;> simp [hMem, hUnit]

/-- A file that writes to a unit makes an entry for it or merges into one, and not both. -/
theorem length_units_add (imports : ImportMap) (filter : SymbolFilter) (file : SourceUnit) :
    (imports.mergedInto? filter file).toList.length + (imports.add filter file).units.length =
      (written? filter file).toList.length + imports.units.length := by
  cases hWritten : written? filter file with
  | none => simp [mergedInto?, hWritten, add_of_written?_eq_none hWritten]
  | some unit =>
    have hMem (name : String) :
        name ∈ (imports.add filter file).units ↔ name ∈ imports.units ∨ unit = name := by
      rw [mem_units_add_iff, hWritten, Option.some.injEq]
    have hNodup := (imports.add filter file).nodup_units
    by_cases hOld : unit ∈ imports.units
    · have hPerm : (imports.add filter file).units.Perm imports.units := by
        refine (List.perm_ext_iff_of_nodup hNodup imports.nodup_units).2 fun name => ?_
        rw [hMem]
        exact or_iff_left_of_imp fun hName => hName ▸ hOld
      simp [mergedInto?_eq_some_iff.2 ⟨hWritten, hOld⟩, hPerm.length_eq]
    · have hPerm : (imports.add filter file).units.Perm (unit :: imports.units) := by
        refine (List.perm_ext_iff_of_nodup hNodup
          (List.nodup_cons.2 ⟨hOld, imports.nodup_units⟩)).2 fun name => ?_
        rw [hMem, List.mem_cons, or_comm, eq_comm]
      have hNone : imports.mergedInto? filter file = none := by
        simp [mergedInto?, hWritten, hOld]
      simp [hNone, hPerm.length_eq, Nat.add_comm]

end ImportMap

namespace Scan

variable {fs : FileSystem} {languages : Languages} {filter : SymbolFilter}

/-- Whether a file imports something for a unit that the filter keeps. -/
def ContributesTo (fs : FileSystem) (languages : Languages) (filter : SymbolFilter)
    (path unit : String) : Prop :=
  ∃ symbol, Contributes fs languages filter [path] unit symbol

/-- Whether a file imports something that the filter keeps. -/
def IsContributing (fs : FileSystem) (languages : Languages) (filter : SymbolFilter)
    (path : String) : Prop :=
  ∃ unit, ContributesTo fs languages filter path unit

/-- Whether the file at a place among others imports something for a unit. -/
def ContributesAt (fs : FileSystem) (languages : Languages) (filter : SymbolFilter)
    (paths : List String) (place : Nat) (unit : String) : Prop :=
  ∃ path, paths[place]? = some path ∧ ContributesTo fs languages filter path unit

/-- The unit that the scan of a file writes to, if it writes to one. -/
def written? (fs : FileSystem) (languages : Languages) (filter : SymbolFilter) (path : String) :
    Option String :=
  match unit? fs languages path with
  | .ok (some file) => ImportMap.written? filter file
  | _ => none

theorem exists_declares_of_unit? {path : String} {file : SourceUnit}
    (h : unit? fs languages path = .ok (some file)) :
    ∃ declarations, Declares fs languages path declarations := by
  have hLanguage : (languages.forFile? path).isSome := by
    by_contra hNone
    simp [unit?, Option.not_isSome_iff_eq_none.1 hNone] at h
  rcases declares_or_failsWith hLanguage with hDeclares | ⟨failure, hFails⟩
  · exact hDeclares
  · simp [unit?_of_failsWith hFails] at h

theorem written?_of_declares {path : String} {declarations : List Declaration}
    (h : Declares fs languages path declarations) : written? fs languages filter path =
      ImportMap.written? filter (SourceUnit.ofDeclarations path declarations) := by
  simp only [written?, unit?_of_declares h]

theorem contributesTo_iff_of_declares {path unit : String} {declarations : List Declaration}
    (h : Declares fs languages path declarations) : ContributesTo fs languages filter path unit ↔
      ImportMap.written? filter (SourceUnit.ofDeclarations path declarations) = some unit := by
  have hNone (symbol : String) : ¬ Contributes fs languages filter [] unit symbol := by
    simp [Contributes]
  rw [ImportMap.written?_eq_some_iff]
  simp only [ContributesTo, contributes_cons_iff h, hNone, or_false, exists_and_left]

theorem contributesTo_iff {path unit : String} :
    ContributesTo fs languages filter path unit ↔
      written? fs languages filter path = some unit := by
  constructor
  · intro hContributes
    obtain ⟨symbol, _, hPath, declarations, hDeclares, -⟩ := id hContributes
    obtain rfl := List.mem_singleton.1 hPath
    rw [written?_of_declares hDeclares]
    exact (contributesTo_iff_of_declares hDeclares).1 hContributes
  · intro hWritten
    cases hUnit : unit? fs languages path with
    | error failure => simp [written?, hUnit] at hWritten
    | ok file? =>
      cases file? with
      | none => simp [written?, hUnit] at hWritten
      | some file =>
        obtain ⟨declarations, hDeclares⟩ := exists_declares_of_unit? hUnit
        rw [written?_of_declares hDeclares] at hWritten
        exact (contributesTo_iff_of_declares hDeclares).2 hWritten

theorem isContributing_iff_of_declares {path : String} {declarations : List Declaration}
    (h : Declares fs languages path declarations) : IsContributing fs languages filter path ↔
      (ImportMap.written? filter (SourceUnit.ofDeclarations path declarations)).isSome := by
  simp only [IsContributing, contributesTo_iff_of_declares h, Option.isSome_iff_exists]

theorem isContributing_iff {path : String} :
    IsContributing fs languages filter path ↔ (written? fs languages filter path).isSome := by
  simp only [IsContributing, contributesTo_iff, Option.isSome_iff_exists]

instance (path : String) : Decidable (IsContributing fs languages filter path) :=
  decidable_of_iff _ isContributing_iff.symm

/-- One more file: what it warns about, and what it adds for those behind it. -/
theorem ofFiles_cons {path : String} {declarations : List Declaration}
    (h : Declares fs languages path declarations) (imports : ImportMap) (paths : List String) :
    let file := SourceUnit.ofDeclarations path declarations
    let rest := ofFiles fs languages filter (imports.add filter file) paths
    ofFiles fs languages filter imports (path :: paths) =
      ⟨(imports.mergedInto? filter file).toList.map .mergedUnit ++ rest.warnings, rest.result⟩ := by
  intro file rest
  simp only [ofFiles, unit?_of_declares h, ImportMap.mergedInto?_eq_ite]
  split <;> rfl

@[simp] theorem contributesAt_zero {path : String} {paths : List String} {unit : String} :
    ContributesAt fs languages filter (path :: paths) 0 unit ↔
      ContributesTo fs languages filter path unit := by
  simp [ContributesAt]

@[simp] theorem contributesAt_succ {path : String} {paths : List String} {place : Nat}
    {unit : String} : ContributesAt fs languages filter (path :: paths) (place + 1) unit ↔
      ContributesAt fs languages filter paths place unit := by
  simp [ContributesAt]

/-- Whether the file at a place imports something for a unit that has imports by then: in the map
    that a scan starts with, or from a file before it. -/
def MergesAt (fs : FileSystem) (languages : Languages) (filter : SymbolFilter) (imports : ImportMap)
    (paths : List String) (place : Nat) (unit : String) : Prop :=
  ContributesAt fs languages filter paths place unit ∧
    (unit ∈ imports.units ∨ ∃ before < place, ContributesAt fs languages filter paths before unit)

section

variable {path : String} {declarations : List Declaration}
  (h : Declares fs languages path declarations) {imports : ImportMap} {paths : List String}
  {unit : String}

include h

theorem mergesAt_zero : MergesAt fs languages filter imports (path :: paths) 0 unit ↔
    imports.mergedInto? filter (SourceUnit.ofDeclarations path declarations) = some unit := by
  simp [MergesAt, ImportMap.mergedInto?_eq_some_iff, contributesTo_iff_of_declares h]

/-- For the files behind the first it is all one whether a unit was in the map or comes from it. -/
theorem mergesAt_succ {place : Nat} :
    MergesAt fs languages filter imports (path :: paths) (place + 1) unit ↔
      MergesAt fs languages filter
        (imports.add filter (SourceUnit.ofDeclarations path declarations)) paths place unit := by
  have hBefore : (∃ before < place + 1,
      ContributesAt fs languages filter (path :: paths) before unit) ↔
      ContributesTo fs languages filter path unit ∨
        ∃ before < place, ContributesAt fs languages filter paths before unit := by
    simp only [Nat.exists_lt_succ_left, contributesAt_zero, contributesAt_succ]
  unfold MergesAt
  rw [contributesAt_succ, hBefore, ImportMap.mem_units_add_iff, contributesTo_iff_of_declares h,
    or_assoc]

end

/-- A scan warns about each file that merges into a unit, in their order. -/
theorem exists_merged {paths : List String}
    (h : ∀ path ∈ paths, ∃ declarations, Declares fs languages path declarations)
    (imports : ImportMap) :
    ∃ merged : List (Nat × String),
      (ofFiles fs languages filter imports paths).warnings =
        (merged.map fun file => .mergedUnit file.2) ∧
      merged.Pairwise (fun a b => a.1 < b.1) ∧
      ∀ place unit, (place, unit) ∈ merged ↔
        MergesAt fs languages filter imports paths place unit := by
  induction paths generalizing imports with
  | nil => exact ⟨[], rfl, .nil, by simp [MergesAt, ContributesAt]⟩
  | cons path paths ih =>
    obtain ⟨⟨declarations, hDeclares⟩, hRest⟩ := List.forall_mem_cons.1 h
    let file := SourceUnit.ofDeclarations path declarations
    obtain ⟨merged, hWarnings, hOrder, hMem⟩ := ih hRest (imports.add filter file)
    -- behind the first file every place is one further
    let first := (imports.mergedInto? filter file).toList.map fun unit => (0, unit)
    let more := merged.map fun other => (other.1 + 1, other.2)
    refine ⟨first ++ more, ?_, ?_, ?_⟩
    · rw [ofFiles_cons hDeclares, hWarnings, List.map_append, List.map_map, List.map_map]
      rfl
    · refine List.pairwise_append.2 ⟨?_, ?_, ?_⟩
      · cases hFirst : imports.mergedInto? filter file <;> simp [first, hFirst]
      · exact List.pairwise_map.2 (hOrder.imp fun hLess => Nat.succ_lt_succ hLess)
      · intro a hFirst b hMore
        obtain ⟨unit, -, rfl⟩ := List.mem_map.1 hFirst
        obtain ⟨other, -, rfl⟩ := List.mem_map.1 hMore
        exact Nat.succ_pos other.1
    · intro place unit
      cases place with
      | zero => simp [first, more, file, mergesAt_zero hDeclares]
      | succ place => simp [first, more, file, mergesAt_succ hDeclares, hMem]

/-- Each file that contributes makes either a new unit or a warning. -/
theorem length_warnings_ofFiles {paths : List String}
    (h : ∀ path ∈ paths, ∃ declarations, Declares fs languages path declarations)
    {imports scanned : ImportMap}
    (hResult : (ofFiles fs languages filter imports paths).result = .ok scanned) :
    (ofFiles fs languages filter imports paths).warnings.length + scanned.units.length =
      paths.countP (fun path => IsContributing fs languages filter path) +
        imports.units.length := by
  induction paths generalizing imports with
  | nil =>
    obtain rfl : imports = scanned := Except.ok.inj hResult
    simp [ofFiles]
  | cons path paths ih =>
    obtain ⟨⟨declarations, hDeclares⟩, hRest⟩ := List.forall_mem_cons.1 h
    rw [ofFiles_cons hDeclares] at hResult ⊢
    have hContributing := @isContributing_iff_of_declares _ _ filter _ _ hDeclares
    generalize SourceUnit.ofDeclarations path declarations = file at hResult hContributing ⊢
    have hMore := ih hRest hResult
    have hFile := ImportMap.length_units_add imports filter file
    have hOne : (ImportMap.written? filter file).toList.length =
        if IsContributing fs languages filter path then 1 else 0 := by
      simp only [hContributing]
      cases ImportMap.written? filter file <;> rfl
    rw [List.length_append, List.length_map, List.countP_cons]
    simp only [decide_eq_true_eq]
    omega

/-- Files that contribute nothing neither change what a scan gives nor what it warns about. -/
theorem ofFiles_filter_isContributing {paths : List String}
    (h : ∀ path ∈ paths, ∃ declarations, Declares fs languages path declarations)
    (imports : ImportMap) :
    ofFiles fs languages filter imports
      (paths.filter fun path => IsContributing fs languages filter path) =
        ofFiles fs languages filter imports paths := by
  induction paths generalizing imports with
  | nil => rfl
  | cons path paths ih =>
    obtain ⟨⟨declarations, hDeclares⟩, hRest⟩ := List.forall_mem_cons.1 h
    by_cases hContributing : IsContributing fs languages filter path
    · rw [List.filter_cons_of_pos (by simpa using hContributing), ofFiles_cons hDeclares,
        ofFiles_cons hDeclares, ih hRest]
    · have hNone : ImportMap.written? filter (SourceUnit.ofDeclarations path declarations) =
          none := by
        simpa [isContributing_iff_of_declares hDeclares] using hContributing
      rw [List.filter_cons_of_neg (by simpa using hContributing), ih hRest, ofFiles_cons hDeclares,
        ImportMap.add_of_written?_eq_none hNone]
      simp [ImportMap.mergedInto?, hNone]

end Scan

/-! ## Builds -/

namespace Project

open Scan

variable {project : Project} {fs : FileSystem} {pattern : String}

/-- A build warns about each file that is left out for its size, in the order of their locations,
    and then about each file that imports something for a unit for which a file before it does, in
    the order they are read. The latter and the units of the map are together as many as the files with
    imports that the filter keeps. Without all other files the scan is the same. -/
theorem build_warnings (hTree : fs.IsTree) {imports : ImportMap}
    (hResult : (project.build fs pattern).2.result = .ok imports) :
    ∃ filter directory files, ∃ oversized : List (Location × Nat), ∃ merged : List (Nat × String),
      SymbolFilter.ofText pattern = .ok filter ∧
      fs.directory? project.root = some directory ∧ project.Visits fs files ∧
      (project.build fs pattern).2.warnings =
        (oversized.map fun file =>
          .overLimit (relativePath file.1) file.2 project.config.sizeLimit.toNat) ++
        (merged.map fun file => .mergedUnit file.2) ∧
      -- the files that are too large
      oversized.Pairwise (fun a b => List.Lex (fun x y => Text.bytes x < Text.bytes y) a.1 b.1) ∧
      (∀ relative size, (relative, size) ∈ oversized ↔ Selection.IsOversized fs project.config
        (fun path => (project.languages.forFile? path).isSome) project.root directory relative
        size) ∧
      -- the files of units that have imports by then
      merged.Pairwise (fun a b => a.1 < b.1) ∧
      (∀ place unit, (place, unit) ∈ merged ↔
        ContributesAt fs project.languages filter files place unit ∧
        ∃ before < place, ContributesAt fs project.languages filter files before unit) ∧
      merged.length + imports.units.length =
        files.countP (fun path => IsContributing fs project.languages filter path) ∧
      -- the files without imports
      Scan.ofFiles fs project.languages filter ImportMap.empty
        (files.filter fun path => IsContributing fs project.languages filter path) =
          Scan.ofFiles fs project.languages filter ImportMap.empty files := by
  have hScan : (project.scan fs pattern).result = .ok imports := hResult
  cases hFilter : SymbolFilter.ofText pattern with
  | error error => simp [scan_of_ofText_eq_error hFilter] at hScan
  | ok filter =>
    obtain ⟨files, hVisits⟩ := exists_visits_of_result_scan hFilter hScan
    obtain ⟨directory, hDirectory⟩ := hVisits.exists_directory?
    obtain ⟨hDeclare, -⟩ := imports_iff_of_result_scan hFilter hScan hVisits
    rw [scan_of_visits hFilter hVisits] at hScan
    obtain ⟨merged, hMerged, hMergedOrder, hMergedMem⟩ :=
      @exists_merged fs _ filter _ hDeclare ImportMap.empty
    have hCount := length_warnings_ofFiles hDeclare hScan
    have hEmpty : ImportMap.empty.units = [] := rfl
    rw [hMerged, List.length_map, hEmpty, List.length_nil, Nat.add_zero] at hCount
    obtain ⟨oversized, hOversized, hOversizedOrder, hOversizedMem⟩ :=
      Selection.exists_oversized hTree hDirectory hVisits
    refine ⟨filter, directory, files, oversized, merged, rfl, hDirectory, hVisits, ?_,
      hOversizedOrder, hOversizedMem, hMergedOrder, ?_, hCount,
      ofFiles_filter_isContributing hDeclare _⟩
    · rw [← hOversized, ← hMerged]
      exact congrArg Scan.warnings (scan_of_visits hFilter hVisits)
    · intro place unit
      rw [hMergedMem, MergesAt, or_iff_right (by simp [hEmpty])]

section Sample

private def sharingLanguage : Language where
  name := "text"
  extensions := ["txt"]
  declarations _ source := .ok [.package "p", .imports source]

private def sharingProject : Project where
  root := "/"
  config := { included := ["*.txt"], sizeLimit := 3 }
  languages := [sharingLanguage]
  imports := ImportMap.empty

/-- Two files of one unit, one with a symbol that is no line, and one that is too large. -/
private def sharingFiles : FileSystem :=
  (((FileSystem.bare.put ["A.txt"] (.file "x.Y".toUTF8)).put ["A.z.txt"] (.file "x.Z".toUTF8)).put
    ["A.n.txt"] (.file "\n".toUTF8)).put ["B.txt"] (.file "x.YZ".toUTF8)

private theorem isTree_sharingFiles : sharingFiles.IsTree :=
  (((FileSystem.isTree_bare.put [] (by decide) rfl (by decide +kernel) _).put
    [] (by decide) rfl (by decide +kernel) _).put
    [] (by decide) rfl (by decide +kernel) _).put
    [] (by decide) rfl (by decide +kernel) _

private theorem visits_sharingFiles :
    sharingProject.Visits sharingFiles ["/A.n.txt", "/A.txt", "/A.z.txt"] :=
  visits_of_troubles isTree_sharingFiles rfl sharingFiles.directory?_top (by decide +kernel)

private theorem declares_sharingFiles {path text : String} (step : String)
    (hPath : FileSystem.IsTopPath path step)
    (hLanguage : sharingProject.languages.forFile? path = some sharingLanguage)
    (hNode : sharingFiles.nodeAt? [step] = some (.file text.toUTF8)) :
    Declares sharingFiles sharingProject.languages path [.package "p", .imports text] :=
  ⟨sharingLanguage, text, hLanguage, hPath.readText hNode, rfl⟩

theorem build_warnings_sharing : sharingFiles.IsTree ∧ ∃ imports,
    (sharingProject.build sharingFiles Config.keepAll).2.result = .ok imports ∧
      .overLimit "B.txt" 4 3 ∈ (sharingProject.build sharingFiles Config.keepAll).2.warnings ∧
      .mergedUnit "p.A" ∈ (sharingProject.build sharingFiles Config.keepAll).2.warnings := by
  have hFirst : Declares sharingFiles sharingProject.languages "/A.txt"
      [.package "p", .imports "x.Y"] :=
    declares_sharingFiles "A.txt" (by decide) rfl rfl
  have hSecond : Declares sharingFiles sharingProject.languages "/A.z.txt"
      [.package "p", .imports "x.Z"] :=
    declares_sharingFiles "A.z.txt" (by decide) rfl rfl
  have hFeed : Declares sharingFiles sharingProject.languages "/A.n.txt"
      [.package "p", .imports "\n"] :=
    declares_sharingFiles "A.n.txt" (by decide) rfl rfl
  have hAll := SymbolFilter.ofText_keepAll
  obtain ⟨imports, hResult⟩ := (exists_result_scan_iff hAll).2
    ⟨_, visits_sharingFiles, by simpa using ⟨⟨_, hFeed⟩, ⟨_, hFirst⟩, ⟨_, hSecond⟩⟩⟩
  obtain ⟨filter, directory, files, oversized, merged, hFilter, hRoot, hVisits, hWarnings, -,
    hOversized, -, hMerged, -⟩ := build_warnings isTree_sharingFiles hResult
  obtain rfl := Except.ok.inj (hAll.symm.trans hFilter)
  obtain rfl := hVisits.unique visits_sharingFiles
  obtain rfl : [] = directory := Option.some.inj (sharingFiles.directory?_top.symm.trans hRoot)
  have hLarge : (["B.txt"], 4) ∈ oversized :=
    (hOversized _ _).2 ⟨⟨.file "x.YZ".toUTF8, .entry rfl, by decide +kernel⟩, by decide,
      by decide +kernel, by decide +kernel⟩
  have hShared : (2, "p.A") ∈ merged := by
    refine (hMerged _ _).2 ⟨⟨"/A.z.txt", rfl, "x.Z", ?_⟩, 1, by decide, "/A.txt", rfl, "x.Y", ?_⟩
    · exact ⟨_, List.mem_singleton.2 rfl, _, hSecond, by decide +kernel, by decide,
        by decide +kernel⟩
    · exact ⟨_, List.mem_singleton.2 rfl, _, hFirst, by decide +kernel, by decide,
        by decide +kernel⟩
  rw [hWarnings]
  exact ⟨isTree_sharingFiles, imports, hResult, List.mem_append_left _ (List.mem_map_of_mem hLarge),
    List.mem_append_right _ (List.mem_map_of_mem hShared)⟩

end Sample

end Project

end JavaImports
