-- SUMMARY: Running a project again changes nothing.
import JavaImports.Proofs.CommandLine.Sequence
import JavaImports.Proofs.Rescan

/-! # Running twice

A run writes into the project that it scans. If its outputs are no inputs, the second run finds what
the first one found: the files that are scanned, the configuration and the template are the same,
and so are the tables, since writing a table again puts the same bytes in the same place. The
temporary file comes and goes. -/

namespace JavaImports

/-! ## Tables and documents -/

/-- The same bytes are the same table. -/
theorem Table.read_of_sameBytes {fs after : FileSystem} {path : String} {records : List String}
    (h : fs.SameBytes after path) (hRead : read fs path = .ok records) :
    read after path = .ok records := by
  obtain ⟨table, hTable, hRecords⟩ := read_eq_ok_iff.1 hRead
  exact read_eq_ok_iff.2 ⟨table, h.readText hTable, hRecords⟩

/-- A table that is written again where it still stands changes nothing. -/
theorem Table.write_again {fs written after : FileSystem} {touched : Location → Prop}
    {path table : String} (h : fs.AgreeBut after touched)
    (hWrite : write fs path table = (written, .ok ()))
    (hBytes : after.readBytes path = .ok table.toUTF8) :
    write after path table = (after, .ok ()) := by
  rw [write, h.writeText_again (writeText_of_write hWrite) hBytes]

/-- Documents for the same tables are the same. -/
theorem Graphml.Style.render_of_sameBytes {style : Style} {fs after : FileSystem}
    {nodeTable edgeTable document : String} (hNodes : fs.SameBytes after nodeTable)
    (hEdges : fs.SameBytes after edgeTable)
    (h : style.render fs nodeTable edgeTable = .ok document) :
    style.render after nodeTable edgeTable = .ok document := by
  unfold render at h ⊢
  cases hReadNodes : Table.read fs nodeTable with
  | error failure => simp [hReadNodes, bind, Except.bind] at h
  | ok nodes =>
    cases hReadEdges : Table.read fs edgeTable with
    | error failure => simp [hReadNodes, hReadEdges, bind, Except.bind] at h
    | ok edges =>
      rw [Table.read_of_sameBytes hNodes hReadNodes, Table.read_of_sameBytes hEdges hReadEdges]
      rwa [hReadNodes, hReadEdges] at h

namespace CommandLine

open Graphml (Style)

/-- Documents are made in the same way if the template is the same. -/
theorem style_of_sameBytes {fs after : FileSystem} {root : String} {config : Config}
    {found : Style}
    (hTemplate : ∀ template ∈ config.template?,
      fs.SameBytes after (Config.resolve root template))
    (h : style fs root config = .ok found) : style after root config = .ok found := by
  unfold style at h ⊢
  cases hSome : config.template? with
  | none => simpa [hSome] using h
  | some template =>
    simp only [hSome, Style.withTemplateFile] at h ⊢
    split at h
    · next text hText =>
      rw [(hTemplate template hSome).readText hText]
      exact h
    · cases h

/-! ## Outputs -/

/-- The paths that running a project writes to. -/
def outputs (root : String) (config : Config) : List String :=
  let document := Config.resolve root config.graphmlFile
  [Config.resolve root config.nodesFile, Config.resolve root config.edgesFile, document,
    Style.temporaryPath document]

/-- The paths that running a project writes to lead to locations of their own, none of them to a
    link, and none to anything that is read before it is written: the configuration, the template,
    and the files that a scan accepts, whatever they hold. -/
structure OutputsApart (fs : FileSystem) (root : String) (config : Config) : Prop where
  apart : (outputs root config).Pairwise fun path other => fs.location? path ≠ fs.location? other
  noLink : ∀ path ∈ outputs root config, ∀ link, fs.named? path ≠ some (.link link)
  notConfig : ∀ path ∈ outputs root config, fs.location? path ≠ fs.location? (Config.path root)
  notTemplate : ∀ path ∈ outputs root config, ∀ template ∈ config.template?,
    fs.location? path ≠ fs.location? (Config.resolve root template)
  notSource : ∀ path ∈ outputs root config, ∀ here file, fs.directory? root = some here →
    fs.location? path = some (here ++ file) → ¬ (Project.withConfig root config).Accepts file

/-- Each of the four outputs has a place of its own. -/
theorem OutputsApart.distinct {fs : FileSystem} {root : String} {config : Config}
    (h : OutputsApart fs root config) :
    let nodes := fs.location? (Config.resolve root config.nodesFile)
    let edges := fs.location? (Config.resolve root config.edgesFile)
    let document := fs.location? (Config.resolve root config.graphmlFile)
    let temporary := fs.location? (Style.temporaryPath (Config.resolve root config.graphmlFile))
    (nodes ≠ edges ∧ nodes ≠ document ∧ nodes ≠ temporary) ∧
      (edges ≠ document ∧ edges ≠ temporary) ∧ document ≠ temporary := by
  simpa [outputs] using h.apart

/-- Outputs that lie apart still do when files were written or removed. -/
theorem OutputsApart.of_agreeBut {fs after : FileSystem} {root : String} {config : Config}
    {touched : Location → Prop} (h : OutputsApart fs root config)
    (hAgree : fs.AgreeBut after touched) : OutputsApart after root config where
  apart := by simpa only [hAgree.location?_eq] using h.apart
  noLink path hPath link hLink := h.noLink path hPath link (hAgree.named?_eq_link_iff.1 hLink)
  notConfig := by simpa only [hAgree.location?_eq] using h.notConfig
  notTemplate := by simpa only [hAgree.location?_eq] using h.notTemplate
  notSource := by simpa only [hAgree.location?_eq, hAgree.directory?_eq] using h.notSource

/-- Whether a location is that of an output. -/
def IsOutput (fs : FileSystem) (root : String) (config : Config) (location : Location) : Prop :=
  ∃ path ∈ outputs root config, fs.location? path = some location

/-! ## Rendering again -/

section Render

variable {fs : FileSystem} {root : String} {config : Config}

/-- A document is rendered, written to its temporary path and moved from there. -/
theorem renderProject_of_moveFile {written moved : FileSystem} {found : Style} {document : String}
    (hStyle : style fs root config = .ok found)
    (hRender : found.render fs (Config.resolve root config.nodesFile)
      (Config.resolve root config.edgesFile) = .ok document)
    (hWrite : fs.writeText (Style.temporaryPath (Config.resolve root config.graphmlFile)) document =
      (written, .ok ()))
    (hMove : written.moveFile (Style.temporaryPath (Config.resolve root config.graphmlFile))
      (Config.resolve root config.graphmlFile) = .ok moved) :
    renderProject fs root config =
      { files := moved, lines := ["Wrote " ++ Config.resolve root config.graphmlFile] } := by
  simp only [renderProject, hStyle, Style.write, hRender, hWrite, hMove]

theorem exists_moveFile_of_renderProject (hDone : (renderProject fs root config).failure? = none) :
    ∃ found document written, style fs root config = .ok found ∧
      found.render fs (Config.resolve root config.nodesFile)
        (Config.resolve root config.edgesFile) = .ok document ∧
      fs.writeText (Style.temporaryPath (Config.resolve root config.graphmlFile)) document =
        (written, .ok ()) ∧
      written.moveFile (Style.temporaryPath (Config.resolve root config.graphmlFile))
        (Config.resolve root config.graphmlFile) = .ok (renderProject fs root config).files := by
  unfold renderProject Style.write at *
  cases hStyle : style fs root config with
  | error failure => simp [hStyle, Session.failed] at hDone
  | ok found =>
    simp only [hStyle] at hDone ⊢
    cases hRender : found.render fs (Config.resolve root config.nodesFile)
        (Config.resolve root config.edgesFile) with
    | error failure => simp [hRender, Session.failed] at hDone
    | ok document =>
      simp only [hRender] at hDone ⊢
      rcases hWrite : fs.writeText (Style.temporaryPath (Config.resolve root config.graphmlFile))
          document with ⟨written, error | done⟩
      · simp [hWrite, Session.failed] at hDone
      · simp only [hWrite] at hDone ⊢
        cases hMove : written.moveFile
            (Style.temporaryPath (Config.resolve root config.graphmlFile))
            (Config.resolve root config.graphmlFile) with
        | error error => simp [hMove, Session.failed] at hDone
        | ok moved => exact ⟨found, document, written, rfl, hRender, hWrite, by simpa using hMove⟩

variable (hOutputs : OutputsApart fs root config)
  (hDone : (renderProject fs root config).failure? = none)

include hOutputs hDone

/-- Rendering touches the places of the document and of its temporary file. -/
theorem agreeBut_renderProject : fs.AgreeBut (renderProject fs root config).files fun location =>
    fs.location? (Style.temporaryPath (Config.resolve root config.graphmlFile)) = some location ∨
      fs.location? (Config.resolve root config.graphmlFile) = some location := by
  obtain ⟨found, document, written, -, -, hWrite, hMove⟩ := exists_moveFile_of_renderProject hDone
  exact FileSystem.agreeBut_of_moveFile (hOutputs.noLink _ (by simp [outputs]))
    (hOutputs.noLink _ (by simp [outputs])) hOutputs.distinct.2.2 hWrite hMove

/-- What lies elsewhere keeps its bytes. -/
theorem sameBytes_renderProject {path : String}
    (hDocument : fs.location? path ≠ fs.location? (Config.resolve root config.graphmlFile))
    (hTemporary : fs.location? path ≠
      fs.location? (Style.temporaryPath (Config.resolve root config.graphmlFile))) :
    fs.SameBytes (renderProject fs root config).files path := by
  refine (agreeBut_renderProject hOutputs hDone).sameBytes fun location hLocation hTouched => ?_
  rcases hTouched with hThere | hThere
  · exact hTemporary (hLocation.trans hThere.symm)
  · exact hDocument (hLocation.trans hThere.symm)

/-- Rendering leaves both tables as they are. -/
theorem sameTables_renderProject :
    fs.SameBytes (renderProject fs root config).files (Config.resolve root config.nodesFile) ∧
      fs.SameBytes (renderProject fs root config).files (Config.resolve root config.edgesFile) := by
  obtain ⟨⟨-, hNodesDocument, hNodesTemporary⟩, ⟨hEdgesDocument, hEdgesTemporary⟩, -⟩ :=
    hOutputs.distinct
  exact ⟨sameBytes_renderProject hOutputs hDone hNodesDocument hNodesTemporary,
    sameBytes_renderProject hOutputs hDone hEdgesDocument hEdgesTemporary⟩

/-- Rendering the same tables again changes nothing. -/
theorem renderProject_again : renderProject (renderProject fs root config).files root config =
    renderProject fs root config := by
  obtain ⟨found, document, written, hStyle, hRender, hWrite, hMove⟩ :=
    exists_moveFile_of_renderProject hDone
  obtain ⟨hNodes, hEdges⟩ := sameTables_renderProject hOutputs hDone
  have hTemplate : ∀ template ∈ config.template?,
      fs.SameBytes (renderProject fs root config).files (Config.resolve root template) :=
    fun template hTemplate => sameBytes_renderProject hOutputs hDone
      (hOutputs.notTemplate _ (by simp [outputs]) template hTemplate).symm
      (hOutputs.notTemplate _ (by simp [outputs]) template hTemplate).symm
  obtain ⟨again, hAgain, hMoveAgain⟩ := FileSystem.exists_moveFile_again
    (hOutputs.noLink _ (by simp [outputs])) (hOutputs.noLink _ (by simp [outputs]))
    hOutputs.distinct.2.2 hWrite hMove
  calc renderProject (renderProject fs root config).files root config =
        { files := (renderProject fs root config).files
          lines := ["Wrote " ++ Config.resolve root config.graphmlFile] } :=
        renderProject_of_moveFile (style_of_sameBytes hTemplate hStyle)
          (Style.render_of_sameBytes hNodes hEdges hRender) hAgain hMoveAgain
    _ = renderProject fs root config :=
        (renderProject_of_moveFile hStyle hRender hWrite hMove).symm

end Render

/-! ## Scanning again -/

section Scan

variable {fs : FileSystem} {root : String} {config : Config}

/-- What a scan did that found an import map and wrote its tables. -/
theorem scanProject_of_writes {imports : ImportMap} {nodesWritten written : FileSystem}
    (hScan : ((Project.withConfig root config).scan fs config.filter).result = .ok imports)
    (hNodes : Table.write fs (Config.resolve root config.nodesFile)
      (Table.ofNodes config.nodeSeparator imports.nodes.toList) = (nodesWritten, .ok ()))
    (hEdges : Table.write nodesWritten (Config.resolve root config.edgesFile)
      (Table.ofEdges config.edgeSeparator config.recordSeparator imports.edges) =
        (written, .ok ())) :
    scanProject fs root config =
      { files := written
        lines := scanReport root config imports
        warnings := ((Project.withConfig root config).scan fs config.filter).warnings } := by
  unfold scanProject writeTables
  simp only [hScan, hNodes, hEdges]

/-- A scan finds the same among files that agree but for its outputs, and if the tables are there
    it changes nothing. -/
theorem scanProject_again {after : FileSystem} (hTree : fs.IsTree)
    (hOutputs : OutputsApart fs root config)
    (hDone : (scanProject fs root config).failure? = none)
    (hAgree : fs.AgreeBut after (IsOutput fs root config))
    (hNodesSame : (scanProject fs root config).files.SameBytes after
      (Config.resolve root config.nodesFile))
    (hEdgesSame : (scanProject fs root config).files.SameBytes after
      (Config.resolve root config.edgesFile)) :
    scanProject after root config = { scanProject fs root config with files := after } := by
  obtain ⟨imports, hScan⟩ := exists_imports_of_scanProject hDone
  obtain ⟨nodesWritten, hNodes, hEdges⟩ := writes_of_scanProject hScan hDone
  have hNodesHere : after.readBytes (Config.resolve root config.nodesFile) =
      .ok (Table.ofNodes config.nodeSeparator imports.nodes.toList).toUTF8 := by
    have hWrite := Table.writeText_of_write hNodes
    have hNext := FileSystem.agreeBut_of_writeText (Table.writeText_of_write hEdges)
    have hKept : nodesWritten.SameBytes (scanProject fs root config).files
        (Config.resolve root config.nodesFile) := by
      refine hNext.sameBytes fun location hLocation hThere => ?_
      rw [FileSystem.location?_of_writeText hWrite] at hLocation hThere
      exact hOutputs.distinct.1.1 (hLocation.trans hThere.symm)
    exact (hNodesSame.bytes _).2 ((hKept.bytes _).2 (FileSystem.readBytes_of_writeText hWrite))
  have hEdgesHere : after.readBytes (Config.resolve root config.edgesFile) =
      .ok (Table.ofEdges config.edgeSeparator config.recordSeparator imports.edges).toUTF8 :=
    (hEdgesSame.bytes _).2 (FileSystem.readBytes_of_writeText (Table.writeText_of_write hEdges))
  have hFound : (Project.withConfig root config).scan after config.filter =
      (Project.withConfig root config).scan fs config.filter := by
    refine Project.scan_of_agreeBut hTree hAgree ?_ hScan
    rintro here file hRoot ⟨path, hPath, hLocation⟩
    exact hOutputs.notSource path hPath here file hRoot hLocation
  have hAfterNodes := (FileSystem.agreeBut_of_writeText (Table.writeText_of_write hNodes)).symm
  rw [scanProject_of_writes hScan hNodes hEdges, scanProject_of_writes (hFound ▸ hScan)
    (Table.write_again hAgree hNodes hNodesHere)
    (Table.write_again (hAfterNodes.trans hAgree) hEdges hEdgesHere), hFound]

end Scan

/-! ## Running again -/

section Run

variable {fs : FileSystem} {root : String} {config : Config}

/-- A run that did not fail is a scan and a rendering that did not fail. -/
theorem failures_of_runProject (hDone : (runProject fs root config).failure? = none) :
    (scanProject fs root config).failure? = none ∧
      (renderProject (scanProject fs root config).files root config).failure? = none ∧
      (runProject fs root config).files =
        (renderProject (scanProject fs root config).files root config).files := by
  unfold runProject at *
  by_cases hScanned : (scanProject fs root config).failure? = none
  · rw [Session.andThen_of_eq_none hScanned] at hDone ⊢
    exact ⟨hScanned, hDone, rfl⟩
  · rw [Session.andThen_of_ne_none hScanned] at hDone
    exact absurd hDone hScanned

variable (hOutputs : OutputsApart fs root config)
  (hDone : (runProject fs root config).failure? = none)

include hOutputs hDone

/-- A run touches nothing but its outputs. -/
theorem agreeBut_runProject :
    fs.AgreeBut (runProject fs root config).files (IsOutput fs root config) := by
  obtain ⟨hScanned, hRendered, hFiles⟩ := failures_of_runProject hDone
  have hScan := agreeBut_scanProject hScanned
  have hRender := agreeBut_renderProject (hOutputs.of_agreeBut hScan) hRendered
  rw [hFiles]
  refine (hScan.trans hRender).congr fun location => ?_
  simp only [hScan.location?_eq, IsOutput, outputs, List.exists_mem_cons_iff, List.not_mem_nil,
    false_and, exists_false, or_false, or_assoc]
  exact or_congr_right (or_congr_right or_comm)

/-- Running again changes nothing. -/
theorem runProject_again (hTree : fs.IsTree) :
    runProject (runProject fs root config).files root config = runProject fs root config := by
  obtain ⟨hScanned, hRendered, hFiles⟩ := failures_of_runProject hDone
  have hApart := hOutputs.of_agreeBut (agreeBut_scanProject hScanned)
  obtain ⟨hNodes, hEdges⟩ := sameTables_renderProject hApart hRendered
  rw [← hFiles] at hNodes hEdges
  have hScanAgain := scanProject_again hTree hOutputs hScanned
    (agreeBut_runProject hOutputs hDone) hNodes hEdges
  have hRenderAgain := renderProject_again hApart hRendered
  rw [← hFiles] at hRenderAgain
  calc runProject (runProject fs root config).files root config
      = { scanProject fs root config with files := (runProject fs root config).files }.andThen
          fun files => renderProject files root config := by rw [runProject, hScanAgain]
    _ = (scanProject fs root config).andThen fun files => renderProject files root config := by
      rw [Session.andThen_of_eq_none hScanned, Session.andThen_of_eq_none (by exact hScanned),
        hRenderAgain]

end Run

/-- A run of a project that succeeds can be repeated: the second run finds what the first one found,
    tells the same and leaves every file as the first one left it. All that is asked for is that the
    outputs lie apart. -/
theorem execute_run_again {fs : FileSystem} {path? filter? : Option String} {config : Config}
    (hTree : fs.IsTree) (hLoad : Config.load fs (projectPath fs path?) = .ok config)
    (hOutputs : OutputsApart fs (projectPath fs path?) config)
    (hDone : ((Command.run path? filter?).execute fs).failure? = none) :
    let first := (Command.run path? filter?).execute fs
    let second := (Command.run path? filter?).execute first.files
    second.failure? = none ∧ second.files = first.files ∧ second.lines = first.lines ∧
      second.warnings = first.warnings := by
  intro first second
  let root := projectPath fs path?
  let kept : Config := { config with filter := filter?.getD config.filter }
  have hKept : OutputsApart fs root kept :=
    ⟨hOutputs.apart, hOutputs.noLink, hOutputs.notConfig, hOutputs.notTemplate, hOutputs.notSource⟩
  have hFirst : first = runProject fs root kept :=
    (execute_run_eq fs path? filter?).trans (withConfig_of_ok hLoad _)
  have hRun : (runProject fs root kept).failure? = none := hFirst ▸ hDone
  have hAgree := agreeBut_runProject hKept hRun
  rw [← hFirst] at hAgree
  have hReload : Config.load first.files root = .ok config := by
    refine Config.load_of_sameBytes (hAgree.sameBytes ?_) hLoad
    rintro location hLocation ⟨path, hPath, hThere⟩
    exact hKept.notConfig path hPath (hThere.trans hLocation.symm)
  have hSecond : second = runProject first.files root kept := by
    have hRoot : projectPath first.files path? = root := projectPath_of_agreeBut hAgree path?
    have hWhole := execute_run_eq first.files path? filter?
    rw [hRoot, withConfig_of_ok hReload] at hWhole
    exact hWhole
  have hSame : second = first := by
    rw [hSecond, hFirst, runProject_again hKept hRun hTree]
  rw [hSame]
  exact ⟨hDone, rfl, rfl, rfl⟩

section Sample

open FileSystem (IsTopPath)

private def outputNames : List String :=
  ["nodes.csv", "edges.csv", "dependencies.graphml", "dependencies.graphml.tmp"]

private theorem outputs_ofRoot : outputs "/" (Config.ofRoot "/") = outputNames.map ("/" ++ ·) := by
  decide

/-- By default the outputs lie next to the file, and nothing stands there yet. -/
private theorem isTopPath_output : ∀ name ∈ outputNames, IsTopPath ("/" ++ name) name ∧
    (oneFile "A.java").nodeAt? [name] = none ∧ ¬ (Project.ofRoot "/").Accepts [name] := by
  decide +kernel

private theorem location?_output : ∀ name ∈ outputNames,
    (oneFile "A.java").location? ("/" ++ name) = some [name] := by
  intro name hName
  obtain ⟨hPath, hNothing, -⟩ := isTopPath_output name hName
  rw [FileSystem.location?, hPath.resolve (by simp [hNothing])]
  rfl

private theorem outputsApart_oneFile :
    OutputsApart (oneFile "A.java") "/" (Config.ofRoot "/") where
  apart := by
    rw [outputs_ofRoot, List.pairwise_map]
    refine List.Pairwise.imp_of_mem (R := (· ≠ ·)) (fun {name other} hName hOther hNe => ?_)
      (by decide)
    rw [location?_output name hName, location?_output other hOther]
    simpa using hNe
  noLink := by
    rw [outputs_ofRoot, List.forall_mem_map]
    intro name hName link
    obtain ⟨hPath, hNothing, -⟩ := isTopPath_output name hName
    rw [hPath.named?, hNothing]
    exact nofun
  notConfig := by
    rw [outputs_ofRoot, List.forall_mem_map]
    intro name hName
    rw [location?_output name hName, location?_path_oneFile]
    exact nofun
  notTemplate _ _ _ := nofun
  notSource := by
    rw [outputs_ofRoot, List.forall_mem_map]
    intro name hName here file hRoot hLocation
    rw [FileSystem.directory?_top] at hRoot
    obtain rfl := Option.some.inj hRoot
    rw [location?_output name hName] at hLocation
    obtain rfl : [name] = file := Option.some.inj hLocation
    exact (isTopPath_output name hName).2.2

/-- A project of one file can be scanned and rendered. -/
private theorem failure?_runProject_oneFile :
    (runProject (oneFile "A.java") "/" (Config.ofRoot "/")).failure? = none := by
  have hScan := isSample_plain.scan
  have hScanned := isSample_plain.failure?_scanProject
  have hClass : className "/A.java" = "A" := by decide +kernel
  rw [hClass] at hScan
  obtain ⟨found, head, tail, body, -, hStyle, -, hRender, -⟩ :=
    renders_of_units hScan hScanned (by decide +kernel)
  let scanned := (scanProject (oneFile "A.java") "/" (Config.ofRoot "/")).files
  let document := Graphml.around head tail body
  have hNodesPath : Config.resolve "/" (Config.ofRoot "/").nodesFile = "/" ++ "nodes.csv" := by
    decide
  have hEdgesPath : Config.resolve "/" (Config.ofRoot "/").edgesFile = "/" ++ "edges.csv" := by
    decide
  have hNothing : ∀ name ∈ ["dependencies.graphml", "dependencies.graphml.tmp"],
      scanned.nodeAt? [name] = none := by
    intro name hName
    rw [(agreeBut_scanProject hScanned).node]
    · exact (isTopPath_output name (List.mem_of_mem_drop (i := 2) hName)).2.1
    · rw [hNodesPath, hEdgesPath, location?_output _ (by decide), location?_output _ (by decide)]
      revert name
      decide
  have hPath : IsTopPath (Config.resolve "/" (Config.ofRoot "/").graphmlFile)
      "dependencies.graphml" := by
    decide
  have hTemporary : IsTopPath
      (Style.temporaryPath (Config.resolve "/" (Config.ofRoot "/").graphmlFile))
      "dependencies.graphml.tmp" := by
    decide
  have hTroubles : scanned.troubles = {} := (agreeBut_scanProject hScanned).troubles
  have hWrite := hTemporary.writeText hTroubles (.inl (hNothing _ (by decide))) document
  have hFile : (scanned.put ["dependencies.graphml.tmp"] (.file document.toUTF8)).nodeAt?
      ["dependencies.graphml.tmp"] = some (.file document.toUTF8) := by
    rw [FileSystem.nodeAt?_put (by decide), if_pos rfl]
  have hStill : (scanned.put ["dependencies.graphml.tmp"] (.file document.toUTF8)).nodeAt?
      ["dependencies.graphml"] = none := by
    rw [FileSystem.nodeAt?_put (by decide), if_neg (by decide), hNothing _ (by decide)]
  have hMove := IsTopPath.moveFile hTemporary hPath (by exact hTroubles) hFile
  rw [hStill, if_neg nofun] at hMove
  have hRendered := renderProject_of_moveFile hStyle hRender hWrite hMove
  rw [runProject, Session.andThen_of_eq_none hScanned, hRendered]

theorem execute_run_again_oneFile :
    let first := (Command.run (some "/") none).execute (oneFile "A.java")
    let second := (Command.run (some "/") none).execute first.files
    first.failure? = none ∧ second.failure? = none ∧ second.files = first.files := by
  intro first second
  have hTree : (oneFile "A.java").IsTree :=
    FileSystem.isTree_bare.put [] (by decide) rfl (by decide +kernel) (.file _)
  have hFirst : first = runProject (oneFile "A.java") "/" (Config.ofRoot "/") :=
    (execute_run_eq _ _ _).trans (withConfig_of_ok load_oneFile _)
  have hDone : first.failure? = none := hFirst ▸ failure?_runProject_oneFile
  obtain ⟨hAgain, hFiles, -⟩ := @execute_run_again (oneFile "A.java") (some "/") none _ hTree
    load_oneFile outputsApart_oneFile hDone
  exact ⟨hDone, hAgain, hFiles⟩

end Sample

end CommandLine

end JavaImports
