-- SUMMARY: Scanning and rendering in one command or in two.
import JavaImports.Proofs.CommandLine.Session
import JavaImports.Proofs.Config.Store
import JavaImports.Proofs.FileSystem.Contents

/-! # One command or two

Running a project is scanning it and then rendering it. The second of two commands loads the
configuration anew, and what the first was told to keep is forgotten by then. That makes no
difference: rendering does not ask for the filter, and all else it is told is what is stored, as
long as no table was written over it. -/

namespace JavaImports

/-! ## Stored configurations -/

/-- The configuration of a project is loaded from the bytes of its file alone. -/
theorem Config.load_of_sameBytes {fs after : FileSystem} {root : String}
    (hSame : fs.SameBytes after (Config.path root)) {config : Config}
    (hLoad : Config.load fs root = .ok config) : Config.load after root = .ok config := by
  unfold Config.load at hLoad ⊢
  rw [hSame.hasPath]
  split at hLoad
  · next hStored => rw [if_pos hStored, hLoad]
  · next hStored =>
    rw [if_neg hStored]
    split at hLoad
    · cases hLoad
    · next text hText =>
      simp only [hSame.readText hText, hLoad]

/-- Without a directory of settings there is no place for a configuration. -/
theorem Config.location?_path_of_named? {fs : FileSystem} {root : String}
    (h : fs.named? (Config.directory root) = none) :
    fs.location? (Config.path root) = none := by
  unfold FileSystem.location?
  cases hPlace : fs.resolve true (Config.path root) with
  | error error => rfl
  | ok place =>
    obtain ⟨settings, hSettings⟩ := FileSystem.exists_directory?_of_resolve_join
      Config.isFileName_path (Config.directory_ne_empty root) hPlace
    have hThere : fs.hasPath (Config.directory root) :=
      FileSystem.hasPath_of_directory? hSettings
    rw [FileSystem.hasPath_of_named?_eq_none h] at hThere
    cases hThere

/-- A project has its default configuration if there is no place for a stored one. -/
theorem Config.load_of_location? {fs : FileSystem} {root : String}
    (h : fs.location? (Config.path root) = none) :
    Config.load fs root = .ok (Config.ofRoot root) := by
  refine Config.load_of_not_hasPath ?_
  unfold FileSystem.location? at h
  unfold FileSystem.hasPath FileSystem.find
  cases hPlace : fs.resolve true (Config.path root) with
  | error error => rfl
  | ok place =>
    rw [hPlace] at h
    cases h

namespace CommandLine

/-! ## What a scan touches -/

section Scan

variable {fs : FileSystem} {root : String} {config : Config}

/-- A scan that did not fail found an import map. -/
theorem exists_imports_of_scanProject (hDone : (scanProject fs root config).failure? = none) :
    ∃ imports, ((Project.withConfig root config).scan fs config.filter).result = .ok imports := by
  unfold scanProject at hDone
  cases hResult : ((Project.withConfig root config).scan fs config.filter).result with
  | error failure => simp [hResult, Session.failed] at hDone
  | ok imports => exact ⟨imports, rfl⟩

/-- A scan that did not fail touched its two tables. -/
theorem agreeBut_scanProject (hDone : (scanProject fs root config).failure? = none) :
    fs.AgreeBut (scanProject fs root config).files fun location =>
      fs.location? (Config.resolve root config.nodesFile) = some location ∨
        fs.location? (Config.resolve root config.edgesFile) = some location := by
  obtain ⟨imports, hScan⟩ := exists_imports_of_scanProject hDone
  obtain ⟨written, hNodes, hEdges⟩ := writes_of_scanProject hScan hDone
  have hFirst := FileSystem.agreeBut_of_writeText (Table.writeText_of_write hNodes)
  have hSecond := FileSystem.agreeBut_of_writeText (Table.writeText_of_write hEdges)
  simp only [hFirst.location?_eq] at hSecond
  exact hFirst.trans hSecond

end Scan

/-! ## Two commands -/

/-- A command that failed is not followed by another one. -/
theorem Session.andThen_of_ne_none {first : Session} (h : first.failure? ≠ none)
    (next : FileSystem → Session) : first.andThen next = first := by
  obtain ⟨failure, hFailure⟩ := Option.ne_none_iff_exists'.1 h
  simp only [Session.andThen, hFailure]

/-- A command that did not fail is followed by the other one. -/
theorem Session.andThen_of_eq_none {first : Session} (h : first.failure? = none)
    (next : FileSystem → Session) : first.andThen next =
      { files := (next first.files).files
        lines := first.lines ++ (next first.files).lines
        warnings := first.warnings ++ (next first.files).warnings
        failure? := (next first.files).failure? } := by
  simp only [Session.andThen, h]

theorem withConfig_of_ok {fs : FileSystem} {root : String} {config : Config}
    (hLoad : Config.load fs root = .ok config) (work : Config → Session) :
    withConfig fs root work = work config := by
  unfold withConfig
  simp only [hLoad]

theorem withConfig_of_error {fs : FileSystem} {root : String} {failure : Failure}
    (hLoad : Config.load fs root = .error failure) (work : Config → Session) :
    withConfig fs root work = .failed fs failure := by
  unfold withConfig
  simp only [hLoad]

section Execute

variable (fs : FileSystem) (path? filter? : Option String)

theorem execute_scan : (Command.scan path? filter? none none).execute fs =
    withConfig fs (projectPath fs path?) fun config =>
      scanProject fs (projectPath fs path?)
        { config with filter := filter?.getD config.filter } := by
  simp only [Command.execute, Command.path?, Command.adjust, Option.getD_none]

theorem execute_graphml : (Command.graphml path? none none none none).execute fs =
    withConfig fs (projectPath fs path?) fun config =>
      renderProject fs (projectPath fs path?) config := by
  simp only [Command.execute, Command.path?, Command.adjust, Option.getD_none, Option.none_or]

/-- Rendering does not ask for the filter. -/
theorem renderProject_filter (root : String) (config : Config) (filter : String) :
    renderProject fs root { config with filter } = renderProject fs root config := by
  simp only [renderProject, style]

theorem execute_run_eq : (Command.run path? filter?).execute fs =
    withConfig fs (projectPath fs path?) fun config =>
      runProject fs (projectPath fs path?)
        { config with filter := filter?.getD config.filter } := by
  simp only [Command.execute, Command.path?, Command.adjust]

theorem runProject_filter (root : String) (config : Config) (filter : String) :
    runProject fs root { config with filter } =
      (scanProject fs root { config with filter }).andThen fun files =>
        renderProject files root config := by
  simp only [runProject, renderProject_filter]

end Execute

/-- A relative path of a project starts from the same directory in both file systems. -/
theorem projectPath_of_agreeBut {fs after : FileSystem} {touched : Location → Prop}
    (h : fs.AgreeBut after touched) (path? : Option String) :
    projectPath after path? = projectPath fs path? := by
  rw [projectPath, projectPath, workingPath, workingPath, h.workingDirectory]

/-- Running a project is scanning it and, if that does not fail, rendering it: the files, the
    failure, the lines and the warnings are the same. All that is asked for is that what the stored
    configuration holds, if there is one, is not changed by a scan that does not fail. -/
theorem execute_run {fs : FileSystem} {path? filter? : Option String}
    (hStored : ((Command.scan path? filter? none none).execute fs).failure? = none →
      fs.SameBytes ((Command.scan path? filter? none none).execute fs).files
        (Config.path (projectPath fs path?))) :
    let scanned := (Command.scan path? filter? none none).execute fs
    let rendered := (Command.graphml path? none none none none).execute scanned.files
    let whole := (Command.run path? filter?).execute fs
    (scanned.failure? ≠ none → whole = scanned) ∧
    (scanned.failure? = none →
      whole.files = rendered.files ∧ whole.failure? = rendered.failure? ∧
      whole.lines = scanned.lines ++ rendered.lines ∧
      whole.warnings = scanned.warnings ++ rendered.warnings) := by
  simp only [execute_scan, execute_graphml, execute_run_eq, runProject_filter] at hStored ⊢
  cases hLoad : Config.load fs (projectPath fs path?) with
  | error failure => simp [withConfig_of_error hLoad, Session.failed]
  | ok config =>
    simp only [withConfig_of_ok hLoad] at hStored ⊢
    constructor
    · intro hFailed
      exact Session.andThen_of_ne_none hFailed _
    · intro hDone
      -- the second command loads what the first one did
      have hAgree := agreeBut_scanProject hDone
      have hReload := Config.load_of_sameBytes (hStored hDone) hLoad
      rw [projectPath_of_agreeBut hAgree, Session.andThen_of_eq_none hDone]
      simp only [withConfig_of_ok hReload, and_self]

section Sample

/-- A project of one file stores no configuration. -/
theorem location?_path_oneFile :
    (oneFile "A.java").location? (Config.path "/") = none := by
  refine Config.location?_path_of_named? ?_
  rw [Config.directory, FileSystem.named?_join Config.isFileName_directory (by decide),
    FileSystem.directory?_top]
  decide +kernel

theorem load_oneFile : Config.load (oneFile "A.java") "/" = .ok (Config.ofRoot "/") :=
  Config.load_of_location? location?_path_oneFile

theorem execute_run_oneFile :
    let scanned := (Command.scan (some "/") (some "java\\..*") none none).execute (oneFile "A.java")
    let rendered := (Command.graphml (some "/") none none none none).execute scanned.files
    let whole := (Command.run (some "/") (some "java\\..*")).execute (oneFile "A.java")
    scanned.failure? = none ∧
      whole.files = rendered.files ∧ whole.failure? = rendered.failure? ∧
      whole.lines = scanned.lines ++ rendered.lines ∧
      whole.warnings = scanned.warnings ++ rendered.warnings := by
  intro scanned rendered whole
  have hScanned : scanned =
      scanProject (oneFile "A.java") "/" { Config.ofRoot "/" with filter := "java\\..*" } :=
    (execute_scan _ _ _).trans (withConfig_of_ok load_oneFile _)
  have hDone : scanned.failure? = none := by
    rw [hScanned]
    exact isSample_plain.failure?_scanProject_of_keeps rfl (by decide +kernel)
  have hStored : (oneFile "A.java").SameBytes scanned.files (Config.path "/") := by
    rw [hScanned] at hDone ⊢
    refine (agreeBut_scanProject hDone).sameBytes fun location hLocation => ?_
    rw [location?_path_oneFile] at hLocation
    cases hLocation
  exact ⟨hDone, (execute_run fun _ => hStored).2 hDone⟩

end Sample

end CommandLine

end JavaImports
