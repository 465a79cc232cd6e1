-- SUMMARY: The import map of a build is the filtered import relation of the files it visits.
import JavaImports.Project
import JavaImports.Proofs.ImportMap
import JavaImports.Proofs.Selection
import JavaImports.Proofs.SymbolFilter

/-! # Building import maps

What a build gives is told file by file. The files of a project that can all be read contribute,
each for its unit, the symbols they import and the filter keeps, and the map holds these pairs and
nothing else. So neither the order of the files matters nor how often something is imported. If some
file cannot be read, the first of them says why there is no map. -/

namespace JavaImports

/-- The packages that are declared, in order. -/
def declaredPackages (declarations : List Declaration) : List String :=
  declarations.filterMap fun
    | .package name => some name
    | .imports _ => none

theorem declaredPackage?_eq_getLast? (declarations : List Declaration) :
    declaredPackage? declarations = (declaredPackages declarations).getLast? := by
  induction declarations with
  | nil => rfl
  | cons declaration rest ih =>
    cases declaration with
    | package name =>
      have hPackages : declaredPackages (.package name :: rest) = name :: declaredPackages rest :=
        rfl
      rw [declaredPackage?, ih, hPackages, List.getLast?_cons]
    | imports symbol => exact ih

theorem mem_declaredImports_iff {declarations : List Declaration} {symbol : String} :
    symbol ∈ declaredImports declarations ↔ .imports symbol ∈ declarations := by
  simp only [declaredImports, List.mem_filterMap]
  constructor
  · rintro ⟨_ | symbol, hMem, hSymbol⟩
    · cases hSymbol
    · cases hSymbol
      exact hMem
  · intro h
    exact ⟨_, h, rfl⟩

/-- The default pattern keeps the symbols without line feeds. -/
theorem SymbolFilter.ofText_keepAll : SymbolFilter.ofText Config.keepAll =
    .ok ⟨Config.keepAll, .sequence (.anchor .textStart) (.sequence
      (.repeated (.chars (.complement (.single '\n'))) 0 none) (.anchor .textEnd))⟩ :=
  rfl

namespace Scan

/-! ## One file -/

/-- Whether a file can be read, and what it declares then. -/
def Declares (fs : FileSystem) (languages : Languages) (path : String)
    (declarations : List Declaration) : Prop :=
  ∃ language source, languages.forFile? path = some language ∧ fs.readText path = .ok source ∧
    language.declarations path source = .ok declarations

/-- Whether a file cannot be read, and why. -/
def FailsWith (fs : FileSystem) (languages : Languages) (path : String) (failure : Failure) :
    Prop :=
  ∃ language, languages.forFile? path = some language ∧
    ((∃ error, fs.readText path = .error error ∧ failure = .file error path) ∨
      ∃ source, fs.readText path = .ok source ∧ language.declarations path source = .error failure)

variable {fs : FileSystem} {languages : Languages} {filter : SymbolFilter}

theorem unit?_of_declares {path : String} {declarations : List Declaration}
    (h : Declares fs languages path declarations) :
    unit? fs languages path = .ok (some (SourceUnit.ofDeclarations path declarations)) := by
  obtain ⟨language, source, hLanguage, hSource, hDeclarations⟩ := h
  unfold unit?
  simp only [hLanguage, hSource, Language.unit, hDeclarations]
  rfl

theorem unit?_of_failsWith {path : String} {failure : Failure}
    (h : FailsWith fs languages path failure) : unit? fs languages path = .error failure := by
  obtain ⟨language, hLanguage, ⟨error, hSource, rfl⟩ | ⟨source, hSource, hDeclarations⟩⟩ := h
  · simp only [unit?, hLanguage, hSource]
  · simp only [unit?, hLanguage, hSource, Language.unit, hDeclarations]
    rfl

/-- A file in some language can be read or not. -/
theorem declares_or_failsWith {path : String} (h : (languages.forFile? path).isSome) :
    (∃ declarations, Declares fs languages path declarations) ∨
      ∃ failure, FailsWith fs languages path failure := by
  obtain ⟨language, hLanguage⟩ := Option.isSome_iff_exists.1 h
  cases hSource : fs.readText path with
  | error error => exact .inr ⟨_, language, hLanguage, .inl ⟨error, hSource, rfl⟩⟩
  | ok source =>
    cases hDeclarations : language.declarations path source with
    | error failure => exact .inr ⟨_, language, hLanguage, .inr ⟨source, hSource, hDeclarations⟩⟩
    | ok declarations => exact .inl ⟨_, language, source, hLanguage, hSource, hDeclarations⟩

/-! ## File after file -/

/-- A file that can be read is added, and the scan goes on. -/
theorem result_ofFiles_of_declares {path : String} {declarations : List Declaration}
    (h : Declares fs languages path declarations) (imports : ImportMap) (paths : List String) :
    (ofFiles fs languages filter imports (path :: paths)).result =
      (ofFiles fs languages filter
        (imports.add filter (SourceUnit.ofDeclarations path declarations)) paths).result := by
  simp only [ofFiles, unit?_of_declares h]
  split <;> rfl

/-- A file that cannot be read ends the scan. -/
theorem result_ofFiles_of_failsWith {path : String} {failure : Failure}
    (h : FailsWith fs languages path failure) (imports : ImportMap) (paths : List String) :
    (ofFiles fs languages filter imports (path :: paths)).result = .error failure := by
  simp only [ofFiles, unit?_of_failsWith h]

/-- Whether some file imports a symbol for a unit and the filter keeps it. -/
def Contributes (fs : FileSystem) (languages : Languages) (filter : SymbolFilter)
    (paths : List String) (unit symbol : String) : Prop :=
  ∃ path ∈ paths, ∃ declarations, Declares fs languages path declarations ∧
    unit = unitName (declaredPackages declarations).getLast? path ∧
    .imports symbol ∈ declarations ∧ filter.keeps symbol

theorem contributes_cons_iff {path : String} {declarations : List Declaration}
    (h : Declares fs languages path declarations) {paths : List String} {unit symbol : String} :
    Contributes fs languages filter (path :: paths) unit symbol ↔
      (unit = (SourceUnit.ofDeclarations path declarations).name ∧
        symbol ∈ (SourceUnit.ofDeclarations path declarations).imports ∧ filter.keeps symbol) ∨
      Contributes fs languages filter paths unit symbol := by
  have hOne {other : List Declaration} (hOther : Declares fs languages path other) :
      other = declarations := by
    obtain ⟨language, source, hLanguage, hSource, hDeclarations⟩ := h
    obtain ⟨_, _, hLanguage', hSource', hDeclarations'⟩ := hOther
    cases hLanguage.symm.trans hLanguage'
    cases hSource.symm.trans hSource'
    cases hDeclarations.symm.trans hDeclarations'
    rfl
  simp only [Contributes, List.mem_cons, SourceUnit.ofDeclarations, declaredPackage?_eq_getLast?,
    mem_declaredImports_iff]
  constructor
  · rintro ⟨other, rfl | hMem, otherDeclarations, hOther, hSymbol⟩
    · obtain rfl := hOne hOther
      exact .inl hSymbol
    · exact .inr ⟨other, hMem, otherDeclarations, hOther, hSymbol⟩
  · rintro (hSymbol | ⟨other, hMem, hOther⟩)
    · exact ⟨path, .inl rfl, declarations, h, hSymbol⟩
    · exact ⟨other, .inr hMem, hOther⟩

/-- If all files can be read, the map grows by what they contribute. -/
theorem result_ofFiles {paths : List String}
    (h : ∀ path ∈ paths, ∃ declarations, Declares fs languages path declarations)
    {imports : ImportMap} (hImports : imports.HasNoEmptyUnit) :
    ∃ scanned, (ofFiles fs languages filter imports paths).result = .ok scanned ∧
      scanned.HasNoEmptyUnit ∧
      ∀ unit symbol, scanned.Imports unit symbol ↔
        imports.Imports unit symbol ∨ Contributes fs languages filter paths unit symbol := by
  induction paths generalizing imports with
  | nil =>
    refine ⟨imports, rfl, hImports, fun unit symbol => ?_⟩
    simp [Contributes]
  | cons path paths ih =>
    obtain ⟨declarations, hDeclares⟩ := h path (List.mem_cons_self ..)
    have hMore := fun other hOther => h other (List.mem_cons_of_mem _ hOther)
    obtain ⟨scanned, hResult, hScanned, hRelation⟩ := ih hMore
      (hImports.add filter (SourceUnit.ofDeclarations path declarations))
    refine ⟨scanned, ?_, hScanned, fun unit symbol => ?_⟩
    · rw [result_ofFiles_of_declares hDeclares, hResult]
    · rw [hRelation, ImportMap.imports_add_iff, contributes_cons_iff hDeclares, or_assoc]

theorem result_ofFiles_empty {paths : List String}
    (h : ∀ path ∈ paths, ∃ declarations, Declares fs languages path declarations) :
    ∃ scanned, (ofFiles fs languages filter ImportMap.empty paths).result = .ok scanned ∧
      scanned.HasNoEmptyUnit ∧
      ∀ unit symbol, scanned.Imports unit symbol ↔
        Contributes fs languages filter paths unit symbol := by
  obtain ⟨scanned, hResult, hScanned, hRelation⟩ := result_ofFiles h ImportMap.hasNoEmptyUnit_empty
  refine ⟨scanned, hResult, hScanned, fun unit symbol => ?_⟩
  simpa using hRelation unit symbol

/-- Files that can be read before one that cannot do not change why the scan ends. -/
theorem result_ofFiles_of_first {before after : List String} {path : String} {failure : Failure}
    (hBefore : ∀ other ∈ before, ∃ declarations, Declares fs languages other declarations)
    (hFails : FailsWith fs languages path failure) (imports : ImportMap) :
    (ofFiles fs languages filter imports (before ++ path :: after)).result = .error failure := by
  induction before generalizing imports with
  | nil => exact result_ofFiles_of_failsWith hFails imports after
  | cons other before ih =>
    obtain ⟨declarations, hDeclares⟩ := hBefore other (List.mem_cons_self ..)
    have hMore := fun another hAnother => hBefore another (List.mem_cons_of_mem _ hAnother)
    rw [List.cons_append, result_ofFiles_of_declares hDeclares]
    exact ih hMore _

/-- Of files in some language all can be read, or there is a first that cannot. -/
theorem all_declare_or_first_fails {paths : List String}
    (h : ∀ path ∈ paths, (languages.forFile? path).isSome) :
    (∀ path ∈ paths, ∃ declarations, Declares fs languages path declarations) ∨
      ∃ before path after failure, paths = before ++ path :: after ∧
        (∀ other ∈ before, ∃ declarations, Declares fs languages other declarations) ∧
        FailsWith fs languages path failure := by
  induction paths with
  | nil => exact .inl (by simp)
  | cons path paths ih =>
    rcases declares_or_failsWith (h path (List.mem_cons_self ..)) with hDeclares | ⟨failure, hFails⟩
    · rcases ih fun other hOther => h other (List.mem_cons_of_mem _ hOther) with
        hAll | ⟨before, first, after, failure, rfl, hBefore, hFails⟩
      · exact .inl (List.forall_mem_cons.2 ⟨hDeclares, hAll⟩)
      · exact .inr ⟨path :: before, first, after, failure, rfl,
          List.forall_mem_cons.2 ⟨hDeclares, hBefore⟩, hFails⟩
    · exact .inr ⟨[], path, paths, failure, rfl, by simp, hFails⟩

end Scan

/-! ## Projects -/

namespace Project

open Scan

variable {project : Project} {fs : FileSystem} {pattern : String} {filter : SymbolFilter}
  {files : List String}

/-- Whether these are the files that a build of the project reads, in their order. -/
def Visits (project : Project) (fs : FileSystem) (files : List String) : Prop :=
  (project.visit fs).result = .ok files

theorem Visits.unique {others : List String} (h : project.Visits fs files)
    (hOthers : project.Visits fs others) : files = others :=
  Except.ok.inj (h.symm.trans hOthers)

/-- What a visit of a project makes of a part of the walk below its root. -/
def examine (project : Project) (fs : FileSystem) (directory : Location) :
    Except FileSystem.WalkError (Location × Node) → Except Failure Finding :=
  Selection.examine fs project.config (fun path => (project.languages.forFile? path).isSome)
    project.root directory

theorem visit_eq_gather {directory : Location}
    (hDirectory : fs.directory? project.root = some directory) : project.visit fs =
      Selection.gather (project.examine fs directory) (fs.walkBelow directory []) := by
  rw [visit, Selection.ofProject, hDirectory]
  rfl

/-- A visit fails if the root is no directory, or for the first part of the walk below it of which
    nothing can be made. -/
theorem result_visit_eq_error_iff {failure : Failure} :
    (project.visit fs).result = .error failure ↔
      fs.directory? project.root = none ∧ failure = .noProject project.root ∨
      ∃ directory before part after, fs.directory? project.root = some directory ∧
        fs.walkBelow directory [] = before ++ part :: after ∧
        (∀ other ∈ before, ∃ finding, project.examine fs directory other = .ok finding) ∧
        project.examine fs directory part = .error failure := by
  cases hDirectory : fs.directory? project.root with
  | none => simp [visit, Selection.ofProject, hDirectory, eq_comm]
  | some directory => simp [visit_eq_gather hDirectory, Selection.result_gather_eq_error_iff]

/-- There are files to read only if the root is a directory. -/
theorem Visits.exists_directory? (h : project.Visits fs files) :
    ∃ directory, fs.directory? project.root = some directory := by
  unfold Visits visit Selection.ofProject at h
  cases hDirectory : fs.directory? project.root with
  | none => simp [hDirectory] at h
  | some directory => exact ⟨directory, rfl⟩

/-- If there are files to read, nothing went wrong on the walk. -/
theorem Visits.isListable (h : project.Visits fs files) {directory : Location}
    (hDirectory : fs.directory? project.root = some directory) : fs.IsListable directory := by
  rw [Visits, visit_eq_gather hDirectory] at h
  rw [← List.append_nil directory, FileSystem.isListable_iff]
  rintro ⟨_ | place, error⟩ hTrouble
  all_goals
    obtain ⟨finding, hFinding⟩ := Selection.exists_result_gather_iff.1 ⟨files, h⟩ _ hTrouble
    cases hFinding

/-- Where nothing goes wrong, there are files to read if the root is a directory. -/
theorem exists_visits_of_troubles (hTroubles : fs.troubles = {})
    (hDirectory : (fs.directory? project.root).isSome) : ∃ files, project.Visits fs files := by
  obtain ⟨directory, hDirectory⟩ := Option.isSome_iff_exists.1 hDirectory
  unfold Visits
  rw [visit_eq_gather hDirectory]
  refine Selection.exists_result_gather_iff.2 ?_
  rintro (trouble | told) hPart
  · have hListable := fs.isListable_of_troubles hTroubles (directory ++ [])
    exact absurd hPart (FileSystem.isListable_iff.1 hListable trouble)
  · exact Selection.exists_examine_ok_of_troubles hTroubles told

/-- What a build in a tree reads where nothing goes wrong, worked out from all the nodes there
    are. -/
theorem visits_of_troubles {directory : Location} (hTree : fs.IsTree) (hTroubles : fs.troubles = {})
    (hDirectory : fs.directory? project.root = some directory)
    (h : ((fs.nodesBelow directory).filterMap (Selection.select? project.config
      (fun path => (project.languages.forFile? path).isSome) project.root)).map
        (pathBelow project.root) = files) : project.Visits fs files := by
  have hListable := fs.isListable_of_troubles hTroubles directory
  rw [Visits, visit, Selection.ofProject_of_isTold hTree hDirectory
    (Selection.isTold_of_troubles hTroubles), hListable.toldBelow_eq hTree, h]

/-- Every file that is read is in some language. -/
theorem Visits.forFile? (h : project.Visits fs files) :
    ∀ path ∈ files, (project.languages.forFile? path).isSome :=
  fun _ hPath => Selection.accepts_of_mem_ofProject h hPath

/-! ### The stages of a build -/

/-- How a build can end: at each stage it can fail, which leaves the project as it was cleared, and
    only behind the last one there are imports to keep. -/
inductive BuildsTo (project : Project) (fs : FileSystem) (pattern : String) :
    Project × Scan → Prop where
  | unfiltered {error : PatternError} (hFilter : SymbolFilter.ofText pattern = .error error) :
    BuildsTo project fs pattern (project.clear, ⟨[], .error (.badPattern error pattern)⟩)
  | unvisited {filter : SymbolFilter} {warnings : List Warning} {failure : Failure}
    (hFilter : SymbolFilter.ofText pattern = .ok filter)
    (hVisit : project.visit fs = ⟨warnings, .error failure⟩) :
    BuildsTo project fs pattern (project.clear, ⟨warnings, .error failure⟩)
  | unread {filter : SymbolFilter} {warnings more : List Warning} {files : List String}
    {failure : Failure} (hFilter : SymbolFilter.ofText pattern = .ok filter)
    (hVisit : project.visit fs = ⟨warnings, .ok files⟩)
    (hScan : Scan.ofFiles fs project.languages filter ImportMap.empty files =
      ⟨more, .error failure⟩) :
    BuildsTo project fs pattern (project.clear, ⟨warnings ++ more, .error failure⟩)
  | complete {filter : SymbolFilter} {warnings more : List Warning} {files : List String}
    {imports : ImportMap} (hFilter : SymbolFilter.ofText pattern = .ok filter)
    (hVisit : project.visit fs = ⟨warnings, .ok files⟩)
    (hScan : Scan.ofFiles fs project.languages filter ImportMap.empty files = ⟨more, .ok imports⟩) :
    BuildsTo project fs pattern
      ({ project.clear with imports }, ⟨warnings ++ more, .ok imports⟩)

theorem buildsTo_build (project : Project) (fs : FileSystem) (pattern : String) :
    BuildsTo project fs pattern (project.build fs pattern) := by
  have hVisit : project.clear.visit fs = project.visit fs := rfl
  have hLanguages : project.clear.languages = project.languages := rfl
  simp only [build, hVisit, hLanguages]
  cases hFilter : SymbolFilter.ofText pattern with
  | error error => exact .unfiltered hFilter
  | ok filter =>
    rcases hFound : project.visit fs with ⟨warnings, failure | files⟩
    · exact .unvisited hFilter hFound
    · dsimp only
      rcases hScan : Scan.ofFiles fs project.languages filter ImportMap.empty files with
        ⟨more, failure | imports⟩
      · exact .unread hFilter hFound hScan
      · exact .complete hFilter hFound hScan

/-- After a build a project holds the imports it found, and none if it failed. -/
theorem build_eq_of_result (project : Project) (fs : FileSystem) (pattern : String) :
    (∀ imports, (project.build fs pattern).2.result = .ok imports →
      (project.build fs pattern).1 = { project with imports }) ∧
    ∀ failure, (project.build fs pattern).2.result = .error failure →
      (project.build fs pattern).1 = project.clear := by
  have hBuilds := buildsTo_build project fs pattern
  generalize project.build fs pattern = built at hBuilds
  cases hBuilds with
  | unfiltered => exact ⟨nofun, fun _ _ => rfl⟩
  | unvisited => exact ⟨nofun, fun _ _ => rfl⟩
  | unread => exact ⟨nofun, fun _ _ => rfl⟩
  | complete =>
    refine ⟨fun imports hResult => ?_, nofun⟩
    rw [Except.ok.inj hResult, clear]

/-- Without a filter a build looks at no file. -/
theorem scan_of_ofText_eq_error {error : PatternError}
    (hFilter : SymbolFilter.ofText pattern = .error error) :
    project.scan fs pattern = ⟨[], .error (.badPattern error pattern)⟩ := by
  rw [scan, SymbolFilter.build_of_ofText_eq_error project fs hFilter]

/-- Without files to read a build fails for the reason that the visit gives. -/
theorem scan_of_visit_eq_error (hFilter : SymbolFilter.ofText pattern = .ok filter)
    {failure : Failure} (h : (project.visit fs).result = .error failure) :
    project.scan fs pattern = ⟨(project.visit fs).warnings, .error failure⟩ := by
  have hBuilds := buildsTo_build project fs pattern
  rw [scan]
  generalize project.build fs pattern = built at hBuilds
  cases hBuilds with
  | unfiltered hNoFilter => cases hFilter.symm.trans hNoFilter
  | unvisited _ hVisit =>
    rw [hVisit] at h ⊢
    rw [Except.error.inj h]
  | unread _ hVisit => simp [hVisit] at h
  | complete _ hVisit => simp [hVisit] at h

/-- Files that are visited are read one after another. -/
theorem scan_of_visits (hFilter : SymbolFilter.ofText pattern = .ok filter)
    (h : project.Visits fs files) : project.scan fs pattern =
      let scanned := Scan.ofFiles fs project.languages filter ImportMap.empty files
      ⟨(project.visit fs).warnings ++ scanned.warnings, scanned.result⟩ := by
  have hBuilds := buildsTo_build project fs pattern
  have hFiles {warnings : List Warning} {others : List String}
      (hVisit : project.visit fs = ⟨warnings, .ok others⟩) : files = others :=
    h.unique (congrArg Selection.result hVisit)
  rw [scan]
  generalize project.build fs pattern = built at hBuilds
  cases hBuilds with
  | unfiltered hNoFilter => cases hFilter.symm.trans hNoFilter
  | unvisited _ hVisit => simp [Visits, hVisit] at h
  | unread hOther hVisit hScan =>
    cases hFilter.symm.trans hOther
    simp only [hFiles hVisit, hScan, hVisit]
  | complete hOther hVisit hScan =>
    cases hFilter.symm.trans hOther
    simp only [hFiles hVisit, hScan, hVisit]

/-- What a build that visits given files gives. -/
theorem result_scan_cases (hFilter : SymbolFilter.ofText pattern = .ok filter)
    (h : project.Visits fs files) :
    ((∀ path ∈ files, ∃ declarations, Declares fs project.languages path declarations) ∧
      ∃ imports, (project.scan fs pattern).result = .ok imports ∧ imports.HasNoEmptyUnit ∧
        ∀ unit symbol, imports.Imports unit symbol ↔
          Contributes fs project.languages filter files unit symbol) ∨
    ∃ before path after failure, files = before ++ path :: after ∧
      (∀ other ∈ before, ∃ declarations, Declares fs project.languages other declarations) ∧
      FailsWith fs project.languages path failure ∧
      (project.scan fs pattern).result = .error failure := by
  rw [scan_of_visits hFilter h]
  rcases @all_declare_or_first_fails fs _ _ h.forFile? with
    hAll | ⟨before, path, after, failure, rfl, hBefore, hFails⟩
  · exact .inl ⟨hAll, result_ofFiles_empty hAll⟩
  · exact .inr ⟨before, path, after, failure, rfl, hBefore, hFails,
      result_ofFiles_of_first hBefore hFails _⟩

/-- There is a map if the files to read can be told and all be read. -/
theorem exists_result_scan_iff (hFilter : SymbolFilter.ofText pattern = .ok filter) :
    (∃ imports, (project.scan fs pattern).result = .ok imports) ↔
      ∃ files, project.Visits fs files ∧
        ∀ path ∈ files, ∃ declarations, Declares fs project.languages path declarations := by
  constructor
  · rintro ⟨imports, hResult⟩
    cases hVisit : (project.visit fs).result with
    | error failure => simp [scan_of_visit_eq_error hFilter hVisit] at hResult
    | ok files =>
      rcases result_scan_cases hFilter hVisit with ⟨hAll, -⟩ | ⟨_, _, _, failure, _, _, _, hError⟩
      · exact ⟨files, hVisit, hAll⟩
      · cases hResult.symm.trans hError
  · rintro ⟨files, hVisits, hAll⟩
    obtain ⟨imports, hResult, -⟩ := result_ofFiles_empty hAll
    exact ⟨imports, by rw [scan_of_visits hFilter hVisits, hResult]⟩

/-- What the map of a build holds. -/
theorem imports_iff_of_result_scan (hFilter : SymbolFilter.ofText pattern = .ok filter)
    {imports : ImportMap} (hResult : (project.scan fs pattern).result = .ok imports)
    (hVisits : project.Visits fs files) :
    (∀ path ∈ files, ∃ declarations, Declares fs project.languages path declarations) ∧
      imports.HasNoEmptyUnit ∧ ∀ unit symbol, imports.Imports unit symbol ↔
        Contributes fs project.languages filter files unit symbol := by
  rcases result_scan_cases hFilter hVisits with
    ⟨hAll, scanned, hScanned, hSpec⟩ | ⟨_, _, _, failure, _, _, _, hError⟩
  · obtain rfl : scanned = imports := by simpa [hResult] using hScanned.symm
    exact ⟨hAll, hSpec⟩
  · simp [hError] at hResult

/-- There were files to read if there is a map. -/
theorem exists_visits_of_result_scan (hFilter : SymbolFilter.ofText pattern = .ok filter)
    {imports : ImportMap} (hResult : (project.scan fs pattern).result = .ok imports) :
    ∃ files, project.Visits fs files := by
  obtain ⟨files, hVisits, -⟩ := (exists_result_scan_iff hFilter).1 ⟨imports, hResult⟩
  exact ⟨files, hVisits⟩

/-- Files that contribute the same give the same map. -/
theorem result_ofFiles_of_contributes (hFilter : SymbolFilter.ofText pattern = .ok filter)
    {imports : ImportMap} (hResult : (project.scan fs pattern).result = .ok imports)
    (hVisits : project.Visits fs files) {otherFs : FileSystem} {languages : Languages}
    {others : List String}
    (hOthers : ∀ path ∈ others, ∃ declarations, Declares otherFs languages path declarations)
    (hSame : ∀ unit symbol, Contributes otherFs languages filter others unit symbol ↔
      Contributes fs project.languages filter files unit symbol) :
    (Scan.ofFiles otherFs languages filter ImportMap.empty others).result = .ok imports := by
  obtain ⟨-, hImports, hRelation⟩ := imports_iff_of_result_scan hFilter hResult hVisits
  obtain ⟨scanned, hScan, hScanned, hScannedRelation⟩ := result_ofFiles_empty hOthers
  have hEqual : scanned = imports := hScanned.eq_of_imports hImports fun unit symbol => by
    rw [hScannedRelation, hSame, hRelation]
  rw [hScan, hEqual]

/-- Why a build gives no map. -/
theorem result_scan_eq_error_iff (hFilter : SymbolFilter.ofText pattern = .ok filter)
    {failure : Failure} : (project.scan fs pattern).result = .error failure ↔
      (project.visit fs).result = .error failure ∨
      ∃ before path after, project.Visits fs (before ++ path :: after) ∧
        (∀ other ∈ before, ∃ declarations, Declares fs project.languages other declarations) ∧
        FailsWith fs project.languages path failure := by
  constructor
  · intro hResult
    cases hVisit : (project.visit fs).result with
    | error first =>
      rw [scan_of_visit_eq_error hFilter hVisit] at hResult
      exact .inl (congrArg Except.error (Except.error.inj hResult))
    | ok files =>
      rcases result_scan_cases hFilter hVisit with
        ⟨-, imports, hOk, -⟩ | ⟨before, path, after, first, rfl, hBefore, hFails, hError⟩
      · cases hOk.symm.trans hResult
      · obtain rfl : first = failure := Except.error.inj (hError.symm.trans hResult)
        exact .inr ⟨before, path, after, hVisit, hBefore, hFails⟩
  · rintro (hVisit | ⟨before, path, after, hVisits, hBefore, hFails⟩)
    · rw [scan_of_visit_eq_error hFilter hVisit]
    · rw [scan_of_visits hFilter hVisits]
      exact result_ofFiles_of_first hBefore hFails _

/-- A build gives the filtered import relation of the files it visits, if it can read them all. It
    does not depend on their order, on how often a file is visited, or on what else contributes the
    same. If not, it fails for the reason of the first file that cannot be read. -/
theorem build_spec (hFilter : SymbolFilter.ofText pattern = .ok filter) :
    -- when there is a map
    ((∃ imports, (project.build fs pattern).2.result = .ok imports) ↔
      (fs.directory? project.root).isSome ∧ ∃ files, project.Visits fs files ∧
        ∀ path ∈ files, ∃ declarations, Declares fs project.languages path declarations) ∧
    -- when there are files to visit
    (fs.troubles = {} →
      ((∃ files, project.Visits fs files) ↔ (fs.directory? project.root).isSome)) ∧
    -- what it holds
    (∀ imports files, (project.build fs pattern).2.result = .ok imports →
      project.Visits fs files →
      (project.build fs pattern).1.imports = imports ∧
      (∀ unit symbol, unit ∈ imports.units ∧ symbol ∈ (imports.symbols unit).toList ↔
        ∃ path ∈ files, ∃ declarations, Declares fs project.languages path declarations ∧
          unit = unitName (declaredPackages declarations).getLast? path ∧
          .imports symbol ∈ declarations ∧ filter.keeps symbol) ∧
      (∀ unit ∈ imports.units, (imports.symbols unit).toList ≠ [])) ∧
    -- what it does not depend on
    (∀ imports files, (project.build fs pattern).2.result = .ok imports →
      project.Visits fs files →
      (∀ others, (∀ path, path ∈ others ↔ path ∈ files) →
        (Scan.ofFiles fs project.languages filter ImportMap.empty others).result = .ok imports) ∧
      ∀ otherFs languages others,
        (∀ path ∈ others, ∃ declarations, Declares otherFs languages path declarations) →
        (∀ unit symbol, Contributes otherFs languages filter others unit symbol ↔
          Contributes fs project.languages filter files unit symbol) →
        (Scan.ofFiles otherFs languages filter ImportMap.empty others).result = .ok imports) ∧
    -- why there is none
    ∀ failure, (project.build fs pattern).2.result = .error failure ↔
      fs.directory? project.root = none ∧ failure = .noProject project.root ∨
      (fs.directory? project.root).isSome ∧ (project.visit fs).result = .error failure ∨
      ∃ before path after, project.Visits fs (before ++ path :: after) ∧
        (∀ other ∈ before, ∃ declarations, Declares fs project.languages other declarations) ∧
        FailsWith fs project.languages path failure := by
  have hExists := @exists_result_scan_iff project fs pattern filter hFilter
  refine ⟨hExists.trans ⟨?_, And.right⟩, fun hTroubles => ⟨?_, ?_⟩, ?_, ?_, fun failure => ?_⟩
  · rintro ⟨files, hVisits, hAll⟩
    obtain ⟨directory, hDirectory⟩ := hVisits.exists_directory?
    exact ⟨Option.isSome_of_eq_some hDirectory, files, hVisits, hAll⟩
  · rintro ⟨files, hVisits⟩
    obtain ⟨directory, hDirectory⟩ := hVisits.exists_directory?
    exact Option.isSome_of_eq_some hDirectory
  · exact exists_visits_of_troubles hTroubles
  · intro imports files hResult hVisits
    obtain ⟨-, hImports, hRelation⟩ := imports_iff_of_result_scan hFilter hResult hVisits
    refine ⟨?_, fun unit symbol => ⟨fun h => (hRelation unit symbol).1 h.2, fun h => ?_⟩, ?_⟩
    · rw [(build_eq_of_result project fs pattern).1 imports hResult]
    · have hSymbol := (hRelation unit symbol).2 h
      exact ⟨hSymbol.mem_units, hSymbol⟩
    · intro unit hUnit
      obtain ⟨symbol, hSymbol⟩ := hImports unit hUnit
      exact List.ne_nil_of_mem hSymbol
  · intro imports files hResult hVisits
    refine ⟨fun others hOthers => ?_, fun otherFs languages others hOthers hSame =>
      result_ofFiles_of_contributes hFilter hResult hVisits hOthers hSame⟩
    obtain ⟨hAll, -⟩ := imports_iff_of_result_scan hFilter hResult hVisits
    refine result_ofFiles_of_contributes hFilter hResult hVisits
      (fun path hPath => hAll path ((hOthers path).1 hPath)) fun unit symbol => ?_
    simp only [Contributes, hOthers]
  · refine (result_scan_eq_error_iff hFilter).trans ?_
    cases hDirectory : fs.directory? project.root with
    | none => simp [visit, Selection.ofProject, hDirectory, eq_comm]
    | some directory => simp

/-! ### A project with one file, in a language whose files import what they hold -/

section Sample

private def sampleLanguage : Language where
  name := "text"
  extensions := ["txt"]
  declarations _ source := .ok [.package "p", .imports source]

private def sampleProject : Project where
  root := "/"
  config := { included := ["*.txt"] }
  languages := [sampleLanguage]
  imports := ImportMap.empty

private def sampleFiles : FileSystem :=
  FileSystem.bare.put ["A.txt"] (.file "x.Y".toUTF8)

private theorem isTree_sampleFiles : sampleFiles.IsTree :=
  FileSystem.isTree_bare.put [] (by decide) rfl (by decide +kernel) (.file "x.Y".toUTF8)

theorem build_spec_sample : ∃ imports,
    (sampleProject.build sampleFiles Config.keepAll).2.result = .ok imports ∧
      "p.A" ∈ imports.units ∧ "x.Y" ∈ (imports.symbols "p.A").toList := by
  have hFilter := SymbolFilter.ofText_keepAll
  have hDirectory := sampleFiles.directory?_top
  have hVisits : sampleProject.Visits sampleFiles ["/A.txt"] :=
    visits_of_troubles isTree_sampleFiles rfl hDirectory (by decide +kernel)
  have hDeclares : Declares sampleFiles sampleProject.languages "/A.txt"
      [.package "p", .imports "x.Y"] := by
    refine ⟨sampleLanguage, "x.Y", rfl, ?_, rfl⟩
    have hPath : FileSystem.IsTopPath "/A.txt" "A.txt" := by decide
    exact FileSystem.readText_of_writeText (hPath.writeText rfl (.inl rfl) "x.Y")
  have hRead : ∀ path ∈ ["/A.txt"], ∃ declarations,
      Declares sampleFiles sampleProject.languages path declarations := by
    simpa using ⟨_, hDeclares⟩
  have hSpec := @build_spec sampleProject sampleFiles Config.keepAll _ hFilter
  obtain ⟨imports, hResult⟩ :=
    hSpec.1.2 ⟨by simp [sampleProject, hDirectory], ["/A.txt"], hVisits, hRead⟩
  have hHolds := (hSpec.2.2.1 imports _ hResult hVisits).2.1 "p.A" "x.Y"
  refine ⟨imports, hResult, hHolds.2 ⟨"/A.txt", List.mem_singleton.2 rfl, _, hDeclares, ?_⟩⟩
  exact ⟨by decide +kernel, by decide, by decide +kernel⟩

end Sample

end Project

end JavaImports
