-- SUMMARY: Where a project lies makes no difference to what a build finds in it.
import JavaImports.Proofs.Java.Syntax
import JavaImports.Proofs.PathBelow
import JavaImports.Proofs.Scan

/-! # Moving projects

Two projects with the same files below their roots have the same import map, wherever the roots are
and however their paths are spelled. A path tells a build nothing but its last name and what can be
read there, and neither depends on the root; only a failure tells the whole path. What cannot be
told of the files counts as a part of them. -/

namespace JavaImports

/-! ## Results that are alike -/

/-- Two results are the same value, or two failures that are alike. -/
inductive SameResult {α : Type} (alike : Failure → Failure → Prop) :
    Except Failure α → Except Failure α → Prop
  | ok (value : α) : SameResult alike (.ok value) (.ok value)
  | error {failure other : Failure} (h : alike failure other) :
    SameResult alike (.error failure) (.error other)

namespace SameResult

variable {α : Type} {alike more : Failure → Failure → Prop} {result other : Except Failure α}

theorem mono (h : SameResult alike result other)
    (hMore : ∀ failure other, alike failure other → more failure other) :
    SameResult more result other := by
  cases h with
  | ok value => exact .ok value
  | error hAlike => exact .error (hMore _ _ hAlike)

end SameResult

namespace Scan

/-- Two scans have the same warnings, and their results are alike. -/
structure Alike (alike : Failure → Failure → Prop) (scan other : Scan) : Prop where
  warnings : other.warnings = scan.warnings
  result : SameResult alike scan.result other.result

/-- Scans of files that are alike one by one are alike. -/
theorem alike_ofFiles {ι : Type} {alike : Failure → Failure → Prop} {fs after : FileSystem}
    {languages : Languages} (filter : SymbolFilter) {path other : ι → String} {files : List ι}
    (h : ∀ file ∈ files, SameResult alike (unit? fs languages (path file))
      (unit? after languages (other file))) (imports : ImportMap) :
    Alike alike (ofFiles fs languages filter imports (files.map path))
      (ofFiles after languages filter imports (files.map other)) := by
  induction files generalizing imports with
  | nil => exact ⟨rfl, .ok imports⟩
  | cons file files ih =>
    obtain ⟨hFile, hFiles⟩ := List.forall_mem_cons.1 h
    rw [List.map_cons, List.map_cons, ofFiles, ofFiles]
    generalize unit? fs languages (path file) = unit, unit? after languages (other file) = unit'
      at hFile
    cases hFile with
    | error hAlike => exact ⟨rfl, .error hAlike⟩
    | ok unit? =>
      cases unit? with
      | none => exact ih hFiles imports
      | some unit =>
        have hRest := ih hFiles (imports.add filter unit)
        simp only
        split
        · exact ⟨congrArg (.mergedUnit unit.name :: ·) hRest.warnings, hRest.result⟩
        · exact hRest

end Scan

/-! ## Languages that go by the text -/

namespace Language

/-- Whether what a language reads from a file depends on nothing but the text of the file. -/
def GoesByText (language : Language) : Prop :=
  ∀ {path source declarations}, language.declarations path source = .ok declarations →
    ∀ other, language.declarations other source = .ok declarations

end Language

/-- A failure about another path, if it is about one. -/
def Failure.withPath (path : String) : Failure → Failure
  | syntaxError position _ => syntaxError position path
  | refused reason _ => refused reason path
  | file error _ => file error path
  | noProject _ => noProject path
  | malformedRecord _ line record => malformedRecord path line record
  | failure => failure

namespace Language

/-- Whether a language refuses a text for the same reason wherever the file is: all that changes is
    the path that is reported, if one is. -/
def RefusesByText (language : Language) : Prop :=
  ∀ {path other source failure otherFailure},
    language.declarations path source = .error failure →
    language.declarations other source = .error otherFailure →
    otherFailure = failure ∨
      failure = failure.withPath path ∧ otherFailure = failure.withPath other

theorem goesByText_language (parser : Java.Parser) : parser.language.GoesByText := by
  intro path source declarations h other
  exact Java.Parser.declarations_eq_ok_iff.2 (Java.Parser.declarations_eq_ok_iff.1 h)

theorem refusesByText_language (parser : Java.Parser) : parser.language.RefusesByText := by
  intro path other source failure otherFailure h hOther
  simp only [Java.Parser.language, Java.Parser.declarations] at h hOther
  cases hTree : parser source with
  | error reason =>
    rw [hTree] at h hOther
    cases h
    cases hOther
    exact .inr ⟨rfl, rfl⟩
  | ok tree =>
    simp only [hTree] at h hOther
    cases hRead : tree.declarations with
    | ok declarations =>
      rw [hRead] at h
      cases h
    | error position? =>
      rw [hRead] at h hOther
      cases h
      cases hOther
      exact .inr ⟨rfl, rfl⟩

end Language

/-! ## Failures below two roots -/

/-- Two visits fail for the same reason: for the same place below their roots, or for an entry below
    them without a name that could be told. -/
inductive SameTrouble (root other : String) : Failure → Failure → Prop
  | untold (place : Location) (error : FileError) :
    SameTrouble root other (.walk error (walkPath root place)) (.walk error (walkPath other place))
  | nameless (error : FileError) : SameTrouble root other (.file error root) (.file error other)

/-- Two builds fail for the same reason: for the pattern, for what a visit cannot be told, or for
    the same file below their roots. -/
inductive SameFailure (languages : Languages) (root other : String) (files : List Location) :
    Failure → Failure → Prop
  | pattern (error : PatternError) (pattern : String) :
    SameFailure languages root other files (.badPattern error pattern) (.badPattern error pattern)
  | unvisited {failure otherFailure : Failure} (h : SameTrouble root other failure otherFailure) :
    SameFailure languages root other files failure otherFailure
  | unreadable {file : Location} (hFile : file ∈ files) (error : FileError) :
    SameFailure languages root other files (.file error (pathBelow root file))
      (.file error (pathBelow other file))
  | refused {file : Location} (hFile : file ∈ files) {language : Language}
    (hLanguage : language ∈ languages) {source : String} {failure otherFailure : Failure}
    (h : language.declarations (pathBelow root file) source = .error failure)
    (hOther : language.declarations (pathBelow other file) source = .error otherFailure) :
    SameFailure languages root other files failure otherFailure

/-- Two failures are the same but for the root of the path they are about. -/
def DifferInRoot (root other : String) (files : List Location) (failure otherFailure : Failure) :
    Prop :=
  otherFailure = failure ∨ SameTrouble root other failure otherFailure ∨
    ∃ file ∈ files, failure = failure.withPath (pathBelow root file) ∧
      otherFailure = failure.withPath (pathBelow other file)

theorem SameFailure.differInRoot {languages : Languages} {root other : String}
    {files : List Location} {failure otherFailure : Failure}
    (hLanguages : ∀ language ∈ languages, language.RefusesByText)
    (h : SameFailure languages root other files failure otherFailure) :
    DifferInRoot root other files failure otherFailure := by
  cases h with
  | pattern error pattern => exact .inl rfl
  | unvisited hTrouble => exact .inr (.inl hTrouble)
  | unreadable hFile error => exact .inr (.inr ⟨_, hFile, rfl, rfl⟩)
  | refused hFile hLanguage h hOther =>
    rcases hLanguages _ hLanguage h hOther with hSame | hMoved
    · exact .inl hSame
    · exact .inr (.inr ⟨_, hFile, hMoved⟩)

/-! ## Visits below two roots -/

/-- What two visits make of the same part of their walks. -/
inductive SameFinding (root other : String) (read : Location → Prop) :
    Except Failure Finding → Except Failure Finding → Prop
  | skipped : SameFinding root other read (.ok .skipped) (.ok .skipped)
  | warned (warning : Warning) :
    SameFinding root other read (.ok (.warned warning)) (.ok (.warned warning))
  | selected {file : Location} (hFile : read file) :
    SameFinding root other read (.ok (.selected (pathBelow root file)))
      (.ok (.selected (pathBelow other file)))
  | error {failure otherFailure : Failure} (h : SameTrouble root other failure otherFailure) :
    SameFinding root other read (.error failure) (.error otherFailure)

/-- Two visits come to the same files below their roots, or fail for the same reason. -/
inductive SameFiles (root other : String) (read : Location → Prop) :
    Except Failure (List String) → Except Failure (List String) → Prop
  | ok (files : List Location) (hFiles : ∀ file ∈ files, read file) :
    SameFiles root other read (.ok (files.map (pathBelow root))) (.ok (files.map (pathBelow other)))
  | error {failure otherFailure : Failure} (h : SameTrouble root other failure otherFailure) :
    SameFiles root other read (.error failure) (.error otherFailure)

/-- Two visits have the same warnings, and their results are alike. -/
structure SameSelection (root other : String) (read : Location → Prop)
    (selection moved : Selection) : Prop where
  warnings : moved.warnings = selection.warnings
  result : SameFiles root other read selection.result moved.result

/-- Visits that make the same of each part of a walk are alike. -/
theorem Selection.sameSelection_gather {α : Type} {root other : String} {read : Location → Prop}
    {examine examineMoved : α → Except Failure Finding} {parts : List α}
    (h : ∀ part ∈ parts, SameFinding root other read (examine part) (examineMoved part)) :
    SameSelection root other read (gather examine parts) (gather examineMoved parts) := by
  induction parts with
  | nil => exact ⟨rfl, .ok [] (by simp)⟩
  | cons part parts ih =>
    obtain ⟨hPart, hParts⟩ := List.forall_mem_cons.1 h
    obtain ⟨hWarnings, hResult⟩ := ih hParts
    rw [gather, gather]
    generalize examine part = finding, examineMoved part = moved at hPart
    cases hPart with
    | skipped => exact ⟨hWarnings, hResult⟩
    | warned warning => exact ⟨congrArg (warning :: ·) hWarnings, hResult⟩
    | error hTrouble => exact ⟨rfl, .error hTrouble⟩
    | @selected file hFile =>
      refine ⟨hWarnings, ?_⟩
      dsimp only
      generalize (gather examine parts).result = files,
        (gather examineMoved parts).result = filesMoved at hResult
      cases hResult with
      | ok files hFiles => exact .ok (file :: files) (List.forall_mem_cons.2 ⟨hFile, hFiles⟩)
      | error hTrouble => exact .error hTrouble

/-! ## Files below two roots -/

/-- Two roots lead to directories with the same nodes below them, of which the same cannot be
    told. -/
structure SameBelow (fs after : FileSystem) (root other : String) (here there : Location) : Prop
    extends FileSystem.SameWalk fs after here there where
  isTree : fs.IsTree
  isTree_after : after.IsTree
  root : fs.directory? root = some here
  other : after.directory? other = some there
  unsized (relative : Location) :
    after.troubles.unsized? (there ++ relative) = fs.troubles.unsized? (here ++ relative)

/-- Whether a location below a directory is that of a regular file. -/
def IsFileBelow (fs : FileSystem) (directory file : Location) : Prop :=
  ∃ node, fs.Leads directory file node ∧ node.isRegular

namespace SameBelow

variable {fs after : FileSystem} {root other : String} {here there : Location}

/-- A file below the one root is a file below the other one. -/
theorem leads_iff (h : SameBelow fs after root other here there) {file : Location} {node : Node} :
    after.Leads there file node ↔ fs.Leads here file node := by
  rw [h.isTree_after.leads_iff, h.isTree.leads_iff]
  exact and_congr_right fun hFile => by rw [h.node hFile]

/-- The same file has the same unit, or there is the same reason why it has none. -/
theorem sameResult_unit? (h : SameBelow fs after root other here there) {languages : Languages}
    (hLanguages : ∀ language ∈ languages, language.GoesByText) {files : List Location}
    {file : Location} (hMem : file ∈ files) (hFile : IsFileBelow fs here file) :
    SameResult (SameFailure languages root other files)
      (Scan.unit? fs languages (pathBelow root file))
      (Scan.unit? after languages (pathBelow other file)) := by
  obtain ⟨node, hLeads, hRegular⟩ := hFile
  obtain ⟨hNonempty, -⟩ := hLeads.nodeAt?
  have hNames := hLeads.isEntryName h.isTree
  unfold Scan.unit?
  rw [forFile?_pathBelow hNames hNonempty languages other root,
    h.isTree.readText_pathBelow h.root hLeads hRegular,
    h.isTree_after.readText_pathBelow h.other (h.leads_iff.2 hLeads) hRegular]
  cases hLanguage : languages.forFile? (pathBelow root file) with
  | none => exact .ok none
  | some language =>
    have hKnown : language ∈ languages := by
      unfold Languages.forFile? at hLanguage
      split at hLanguage
      · cases hLanguage
      · exact List.mem_of_find?_eq_some hLanguage
    cases FileSystem.readBelow file node with
    | error error => exact .error (.unreadable hMem error)
    | ok source =>
      simp only [Language.unit, bind, Except.bind]
      cases hHere : language.declarations (pathBelow root file) source with
      | ok declarations =>
        simp only [hLanguages language hKnown hHere (pathBelow other file),
          ofDeclarations_pathBelow hNames hNonempty declarations other root]
        exact .ok _
      | error failure =>
        cases hThere : language.declarations (pathBelow other file) source with
        | ok declarations =>
          rw [hLanguages language hKnown hThere] at hHere
          cases hHere
        | error otherFailure => exact .error (.refused hMem hKnown hHere hThere)

/-- A test for paths that goes by languages does not depend on the root. -/
theorem candidate?_eq (h : SameBelow fs after root other here there) (config : Config)
    (languages : Languages) {file : Location} {node : Node} (hLeads : fs.Leads here file node) :
    Selection.candidate? config (fun path => (languages.forFile? path).isSome) other (file, node) =
      Selection.candidate? config (fun path => (languages.forFile? path).isSome) root
        (file, node) := by
  obtain ⟨hNonempty, -⟩ := hLeads.nodeAt?
  have hNames := hLeads.isEntryName h.isTree
  simp only [Selection.candidate?, forFile?_pathBelow hNames hNonempty languages other root]

/-- The same is made of what the walk tells of below both roots. -/
theorem sameFinding (h : SameBelow fs after root other here there) (config : Config)
    (languages : Languages) {part : Except FileSystem.WalkError (Location × Node)}
    (hPart : part ∈ fs.walkBelow here []) :
    SameFinding root other (IsFileBelow fs here)
      (Selection.examine fs config (fun path => (languages.forFile? path).isSome) root here part)
      (Selection.examine after config (fun path => (languages.forFile? path).isSome) other there
        part) := by
  obtain ⟨_ | place, error⟩ | ⟨file, node⟩ := part
  · exact .error (.nameless error)
  · exact .error (.untold place error)
  · have hLeads := FileSystem.leads_of_mem_toldBelow (FileSystem.mem_toldBelow_iff.2 hPart)
    rw [Selection.examine_ok h.isTree hLeads,
      Selection.examine_ok h.isTree_after (h.leads_iff.2 hLeads), h.unsized]
    simp only [Selection.finding, h.candidate?_eq config languages hLeads]
    cases hCandidate : Selection.candidate? config
        (fun path => (languages.forFile? path).isSome) root (file, node) with
    | none => exact .skipped
    | some size =>
      cases fs.troubles.unsized? (here ++ file) with
      | some error =>
        simp only [← walkPath_of_ne_nil _ hLeads.nodeAt?.1]
        exact .error (.untold file error)
      | none =>
        obtain ⟨hSize, -⟩ := Selection.candidate?_eq_some_iff.1 hCandidate
        by_cases hLimit : config.sizeLimit.toNat < size
        · simp only [hLimit, if_true]
          exact .warned _
        · simp only [hLimit, if_false]
          exact .selected ⟨node, hLeads, by simp [Node.isRegular, hSize]⟩

/-- The same files are visited below both roots with the same warnings, or both visits fail for the
    same reason. -/
theorem sameSelection (h : SameBelow fs after root other here there) (config : Config)
    (languages : Languages) : SameSelection root other (IsFileBelow fs here)
      (Selection.ofProject fs config (fun path => (languages.forFile? path).isSome) root)
      (Selection.ofProject after config (fun path => (languages.forFile? path).isSome) other) := by
  rw [Selection.ofProject, Selection.ofProject, h.root, h.other]
  simp only [h.walkBelow_eq []]
  exact Selection.sameSelection_gather fun part hPart => h.sameFinding config languages hPart

end SameBelow

namespace Project

section Alike

variable {fs after : FileSystem} {project moved : Project} {here : Location}

/-- Builds that visit the same files below two roots, each with the same unit or none for the same
    reason, come to the same. -/
theorem exists_alike_of_sameSelection
    (hVisit : SameSelection project.root moved.root (IsFileBelow fs here) (project.visit fs)
      (moved.visit after))
    (hLanguages : moved.languages = project.languages)
    (hUnits : ∀ {files : List Location}, ∀ file ∈ files, IsFileBelow fs here file →
      SameResult (SameFailure project.languages project.root moved.root files)
        (Scan.unit? fs project.languages (pathBelow project.root file))
        (Scan.unit? after project.languages (pathBelow moved.root file))) :
    ∃ files : List Location,
      (project.Visits fs (files.map (pathBelow project.root)) ∧
          moved.Visits after (files.map (pathBelow moved.root)) ∨
        ∃ failure otherFailure, (project.visit fs).result = .error failure ∧
          (moved.visit after).result = .error otherFailure ∧
          SameTrouble project.root moved.root failure otherFailure) ∧
      ∀ pattern, Scan.Alike (SameFailure project.languages project.root moved.root files)
        (project.scan fs pattern) (moved.scan after pattern) := by
  obtain ⟨hWarnings, hResult⟩ := hVisit
  have hUnfiltered {files : List Location} {pattern : String} {error : PatternError}
      (hText : SymbolFilter.ofText pattern = .error error) :
      Scan.Alike (SameFailure project.languages project.root moved.root files)
        (project.scan fs pattern) (moved.scan after pattern) := by
    rw [scan_of_ofText_eq_error hText, scan_of_ofText_eq_error hText]
    exact ⟨rfl, .error (.pattern error pattern)⟩
  generalize hHere : (project.visit fs).result = found,
    hThere : (moved.visit after).result = foundMoved at hResult
  cases hResult with
  | ok files hFiles =>
    refine ⟨files, .inl ⟨hHere, hThere⟩, fun pattern => ?_⟩
    cases hText : SymbolFilter.ofText pattern with
    | error error => exact hUnfiltered hText
    | ok filter =>
      rw [scan_of_visits hText hHere, scan_of_visits hText hThere, hWarnings, hLanguages]
      have hScans := Scan.alike_ofFiles filter
        (fun file hFile => hUnits file hFile (hFiles file hFile)) ImportMap.empty
      exact ⟨congrArg (_ ++ ·) hScans.warnings, hScans.result⟩
  | error hTrouble =>
    refine ⟨[], .inr ⟨_, _, rfl, rfl, hTrouble⟩, fun pattern => ?_⟩
    cases hText : SymbolFilter.ofText pattern with
    | error error => exact hUnfiltered hText
    | ok filter =>
      rw [scan_of_visit_eq_error hText hHere, scan_of_visit_eq_error hText hThere]
      exact ⟨hWarnings, .error (.unvisited hTrouble)⟩

/-- Builds that come to the same leave the same imports. -/
theorem imports_build_of_alike {alike : Failure → Failure → Prop} {pattern : String}
    (h : Scan.Alike alike (project.scan fs pattern) (moved.scan after pattern)) :
    (moved.build after pattern).1.imports = (project.build fs pattern).1.imports := by
  obtain ⟨hOk, hError⟩ := build_eq_of_result project fs pattern
  obtain ⟨hOkMoved, hErrorMoved⟩ := build_eq_of_result moved after pattern
  obtain ⟨-, hResult⟩ := h
  rw [scan, scan] at hResult
  generalize (project.build fs pattern).2.result = result,
    (moved.build after pattern).2.result = resultMoved at *
  cases hResult with
  | ok imports => rw [hOk imports rfl, hOkMoved imports rfl]
  | error => rw [hError _ rfl, hErrorMoved _ rfl, clear, clear]

end Alike

/-- A project that is moved, with the same configuration but for the root it was made for, visits
    the same files below its root and finds the same imports with the same warnings, whatever the
    pattern. If there are none, it is for the same reason, and all that may differ in what is
    reported is the root of the path. -/
theorem build_moved {fs after : FileSystem} {project moved : Project} {here there : Location}
    (hBelow : SameBelow fs after project.root moved.root here there)
    (hConfig : moved.config =
      { project.config with rootDirectory := moved.config.rootDirectory })
    (hLanguages : moved.languages = project.languages)
    (hText : ∀ language ∈ project.languages, language.GoesByText) :
    ∃ files : List Location,
      -- what is visited, if it can be told
      (project.Visits fs (files.map (pathBelow project.root)) ∧
          moved.Visits after (files.map (pathBelow moved.root)) ∨
        ∃ failure otherFailure, (project.visit fs).result = .error failure ∧
          (moved.visit after).result = .error otherFailure ∧
          SameTrouble project.root moved.root failure otherFailure) ∧
      -- where nothing goes wrong, it can
      (fs.troubles = {} → project.Visits fs (files.map (pathBelow project.root)) ∧
        moved.Visits after (files.map (pathBelow moved.root))) ∧
      -- what is built
      ∀ pattern,
        let built := project.build fs pattern
        let rebuilt := moved.build after pattern
        rebuilt.1.imports = built.1.imports ∧
        rebuilt.2.warnings = built.2.warnings ∧
        SameResult (SameFailure project.languages project.root moved.root files)
          built.2.result rebuilt.2.result ∧
        ((∀ language ∈ project.languages, language.RefusesByText) →
          SameResult (DifferInRoot project.root moved.root files)
            built.2.result rebuilt.2.result) := by
  have hVisit : SameSelection project.root moved.root (IsFileBelow fs here) (project.visit fs)
      (moved.visit after) := by
    rw [visit, visit, hConfig, hLanguages]
    exact hBelow.sameSelection project.config project.languages
  obtain ⟨files, hVisited, hAlike⟩ := exists_alike_of_sameSelection hVisit hLanguages
    fun file hFile => hBelow.sameResult_unit? hText hFile
  refine ⟨files, hVisited, fun hTroubles => ?_, fun pattern => ?_⟩
  · obtain ⟨others, hOthers⟩ :=
      exists_visits_of_troubles hTroubles (Option.isSome_of_eq_some hBelow.root)
    refine hVisited.resolve_right ?_
    rintro ⟨failure, otherFailure, hFailed, -⟩
    cases hOthers.symm.trans hFailed
  · exact ⟨imports_build_of_alike (hAlike pattern), (hAlike pattern).warnings,
      (hAlike pattern).result, fun hRefuse =>
        (hAlike pattern).result.mono fun _ _ hSame => hSame.differInRoot hRefuse⟩

section Sample

/-- Two directories with the same file in them, the second one the working directory. -/
private def twins : FileSystem :=
  (((({ FileSystem.bare with workingDirectory := ["q"] }.put ["p"] .directory).put
    ["p", "A.java"] (.file "import x.Y;".toUTF8)).put ["q"] .directory).put
    ["q", "A.java"] (.file "import x.Y;".toUTF8))

private theorem isTree_twins : twins.IsTree := by
  have hBare : { FileSystem.bare with workingDirectory := ["q"] }.IsTree :=
    ⟨FileSystem.isTree_bare.name, FileSystem.isTree_bare.parent⟩
  exact (((hBare.put [] (by decide) rfl (by decide +kernel) .directory).put
    ["p"] (by decide) (by decide +kernel) (by decide +kernel) (.file _)).put
    [] (by decide) (by decide +kernel) (by decide +kernel) .directory).put
    ["q"] (by decide) (by decide +kernel) (by decide +kernel) (.file _)

private theorem sameBelow_twins : SameBelow twins twins "/p" "." ["p"] ["q"] where
  isTree := isTree_twins
  isTree_after := isTree_twins
  root := by
    have hPath : FileSystem.IsTopPath "/p" "p" := by decide
    have hNode : twins.nodeAt? ["p"] = some .directory := by decide +kernel
    rw [FileSystem.directory?_eq_some_iff, hPath.resolve (by simp [hNode]), hNode]
  other := by
    have hSteps : Path.steps "." = ["."] := by decide
    refine FileSystem.directory?_eq_some_iff_walk.2 ⟨by decide, by decide, ?_⟩
    rw [hSteps]
    simp [FileSystem.walk, FileSystem.start, Path.isAbsolute, twins, FileSystem.put]
  node := FileSystem.nodeAt?_eq_of_nodesBelow (by decide +kernel)
  unlisted _ := rfl
  lost _ := rfl
  unsized _ := rfl

/-- A project is the same by an absolute path and as the working directory. -/
theorem build_moved_twins :
    (ofRoot "/p").Visits twins ["/p/A.java"] ∧ (ofRoot ".").Visits twins ["./A.java"] ∧
      ∀ pattern, ((ofRoot ".").build twins pattern).1.imports =
        ((ofRoot "/p").build twins pattern).1.imports := by
  have hJava : ∀ language ∈ (ofRoot "/p").languages, language.GoesByText := by
    intro language hLanguage
    rw [List.mem_singleton.1 hLanguage]
    exact Language.goesByText_language Java.parser
  obtain ⟨files, -, -, hBuilds⟩ := @build_moved twins twins (ofRoot "/p") (ofRoot ".") ["p"] ["q"]
    sameBelow_twins rfl rfl hJava
  refine ⟨visits_of_troubles isTree_twins rfl sameBelow_twins.root (by decide +kernel),
    visits_of_troubles isTree_twins rfl sameBelow_twins.other (by decide +kernel),
    fun pattern => ?_⟩
  exact (hBuilds pattern).1

end Sample

end Project

end JavaImports
