-- SUMMARY: Which projects can be rendered once they have been scanned.
import JavaImports.CommandLine.Session
import JavaImports.Proofs.DottedName
import JavaImports.Proofs.Graphml.Export
import JavaImports.Proofs.Graphml.Misreading
import JavaImports.Proofs.Java.Names
import JavaImports.Proofs.Scan

/-! # Rendering what was scanned

A scan writes its tables with the names it found, and file names may hold anything. The name of a
unit ends with a class, which a file name gives; the rest of it, and every symbol, is a name from a
declaration. So a line feed can only stand in the class, and the short form of the unit keeps it. A
unit with the separator, with a line feed or of blanks alone spoils its records. -/

namespace JavaImports.CommandLine

open Graphml

/-- Whether the tables of a project have a document, and the edges in it are those of an import map
    by their short forms. -/
def Renders (files : FileSystem) (root : String) (config : Config) (imports : ImportMap) : Prop :=
  ∃ style head tail body content,
    CommandLine.style files root config = .ok style ∧
    Text.cutLast? closingTag.toList style.template.toList = some (head, tail) ∧
    style.render files (Config.resolve root config.nodesFile)
      (Config.resolve root config.edgesFile) = .ok (around head tail body) ∧
    readGraph? body.toList = some content ∧
    content.ends.toFinset = imports.pairs.image shortEnds

/-! ## What a scan finds -/

section Found

variable {fs : FileSystem} {root pattern : String} {config : Config} {filter : SymbolFilter}
  {imports : ImportMap}

theorem eq_java_of_forFile? {path : String} {language : Language}
    (h : Languages.known.forFile? path = some language) : language = Language.java := by
  unfold Languages.forFile? at h
  split at h
  · cases h
  · exact List.mem_singleton.1 (List.mem_of_find?_eq_some h)

/-- What a scan finds in a project: symbols as they are declared, in units whose names are made of
    a class and perhaps a package as it is declared. -/
theorem isBare_of_imports (hFilter : SymbolFilter.ofText pattern = .ok filter)
    (hScan : ((Project.withConfig root config).scan fs pattern).result = .ok imports)
    {unit symbol : String} (h : imports.Imports unit symbol) :
    IsBare symbol ∧ ∃ package? path, unit = unitName package? path ∧
      ∀ package ∈ package?, IsBare package := by
  obtain ⟨visited, hVisits⟩ := Project.exists_visits_of_result_scan hFilter hScan
  obtain ⟨-, -, hRelation⟩ := Project.imports_iff_of_result_scan hFilter hScan hVisits
  obtain ⟨path, -, declarations, ⟨language, source, hLanguage, -, hRead⟩, rfl, hSymbol, -⟩ :=
    (hRelation unit symbol).1 h
  obtain rfl := eq_java_of_forFile? hLanguage
  have hBare := Java.isBare_of_mem_declarations (Java.declarations_java_eq_ok_iff.1 hRead)
  refine ⟨hBare _ hSymbol, _, path, rfl, fun package hPackage => ?_⟩
  obtain ⟨declaration, hMem, hName⟩ := List.mem_filterMap.1 (List.mem_of_getLast? hPackage)
  cases declaration with
  | package name =>
    cases hName
    exact hBare _ hMem
  | imports symbol => cases hName

end Found

/-- The short form of a unit keeps its line feeds. -/
theorem feed_mem_shorten_unitName {package? : Option String} {path : String}
    (hPackage : ∀ package ∈ package?, IsBare package)
    (h : '\n' ∈ (unitName package? path).toList) :
    '\n' ∈ (DottedName.shorten (unitName package? path)).toList := by
  rcases mem_unitName h with hClass | hDot | ⟨package, hSome, hMem⟩
  · exact (className_suffix_shorten_unitName package? path).subset hClass
  · exact absurd hDot (by decide)
  · exact absurd hMem ((hPackage package hSome).not_mem (by decide))

/-! ## Writing and rendering -/

section Tables

variable {fs : FileSystem} {root : String} {config : Config} {imports : ImportMap}

/-- A scan that did not fail has written both tables, the one of edges last. -/
theorem writes_of_scanProject
    (hScan : ((Project.withConfig root config).scan fs config.filter).result = .ok imports)
    (hDone : (scanProject fs root config).failure? = none) :
    ∃ nodesWritten,
      Table.write fs (Config.resolve root config.nodesFile)
        (Table.ofNodes config.nodeSeparator imports.nodes.toList) = (nodesWritten, .ok ()) ∧
      Table.write nodesWritten (Config.resolve root config.edgesFile)
        (Table.ofEdges config.edgeSeparator config.recordSeparator imports.edges) =
          ((scanProject fs root config).files, .ok ()) := by
  unfold scanProject writeTables at *
  simp only [hScan] at *
  rcases hNodes : Table.write fs (Config.resolve root config.nodesFile)
      (Table.ofNodes config.nodeSeparator imports.nodes.toList) with ⟨nodesWritten, failure | done⟩
  · simp [hNodes, Session.failed] at hDone
  · simp only [hNodes] at hDone ⊢
    rcases hEdges : Table.write nodesWritten (Config.resolve root config.edgesFile)
        (Table.ofEdges config.edgeSeparator config.recordSeparator imports.edges) with
      ⟨written, failure | done⟩
    · simp [hEdges, Session.failed] at hDone
    · exact ⟨nodesWritten, rfl, hEdges⟩

/-- Without a template of their own, the documents of a project are made from the built-in one. -/
theorem exists_style (hTemplate : config.template? = none) (files : FileSystem) (root : String) :
    ∃ style head tail, CommandLine.style files root config = .ok style ∧
      style.edgeSeparator = config.edgeSeparator ∧
      Text.cutLast? closingTag.toList style.template.toList = some (head, tail) := by
  obtain ⟨head, tail, hCut⟩ := Text.exists_cutLast? closingTag_infix_emptyDocument
  refine ⟨{ edgeSeparator := config.edgeSeparator }, head, tail, ?_, rfl, hCut⟩
  rw [CommandLine.style, hTemplate]

/-- The document of the tables that a scan wrote holds the edges that are read from their
    records. -/
theorem renders_iff_readEdges (hTemplate : config.template? = none)
    (hScan : ((Project.withConfig root config).scan fs config.filter).result = .ok imports)
    (hDone : (scanProject fs root config).failure? = none) :
    Renders (scanProject fs root config).files root config imports ↔ ∃ edges,
      readEdges config.edgeSeparator (Config.resolve root config.edgesFile) 1
        (Table.records
          (Table.ofEdges config.edgeSeparator config.recordSeparator imports.edges)) = .ok edges ∧
      (edges.map fun edge => shortEnds (edge.source, edge.target)).toFinset =
        imports.pairs.image shortEnds := by
  obtain ⟨nodesWritten, hNodes, hEdges⟩ := writes_of_scanProject hScan hDone
  obtain ⟨nodes, hReadNodes⟩ : ∃ nodes, Table.read (scanProject fs root config).files
      (Config.resolve root config.nodesFile) = .ok nodes :=
    ⟨_, Table.read_first_of_write hNodes hEdges⟩
  have hReadEdges := Table.read_of_write hEdges
  obtain ⟨style, head, tail, hStyle, hSeparator, hCut⟩ :=
    exists_style hTemplate (scanProject fs root config).files root
  rw [← hSeparator] at hReadEdges ⊢
  constructor
  · rintro ⟨style', head, tail, body, content, hStyle', hCut, hRender, hRead, hEnds⟩
    obtain rfl := Except.ok.inj (hStyle.symm.trans hStyle')
    simp only [Style.render, hReadNodes, hReadEdges, bind, Except.bind] at hRender
    obtain ⟨edges, hOk, hDocument⟩ := (Style.document_eq_ok_iff hCut).1 hRender
    rw [around_inj.1 hDocument, readGraph?_graph] at hRead
    obtain rfl := Option.some.inj hRead
    refine ⟨edges, hOk, ?_⟩
    rw [ends_contentOf, List.map_map] at hEnds
    exact hEnds
  · rintro ⟨edges, hOk, hEnds⟩
    refine ⟨style, head, tail, graph nodes edges, contentOf nodes edges, hStyle, hCut, ?_,
      readGraph?_graph nodes edges, ?_⟩
    · simp only [Style.render, hReadNodes, hReadEdges, bind, Except.bind]
      exact (Style.document_eq_ok_iff hCut).2 ⟨edges, hOk, rfl⟩
    · rw [ends_contentOf, List.map_map]
      exact hEnds

/-- The records of edges without line feeds are read one by one. -/
theorem readEdges_ofEdges_eq_ok_iff {separator recordSeparator tablePath : String} {c : Char}
    (hSeparator : separator.toList = [c]) (hFeed : c ≠ '\n')
    (hEnd : Text.IsLineEnd recordSeparator.toList) {edges found : List Edge}
    (hSources : ∀ edge ∈ edges, '\n' ∉ edge.source.toList)
    (hTargets : ∀ edge ∈ edges, IsBare edge.target) :
    readEdges separator tablePath 1
        (Table.records (Table.ofEdges separator recordSeparator edges)) = .ok found ↔
      (∀ edge ∈ edges, Unicode.isBlankText (readAs separator edge).source = false) ∧
        edges.map (readAs separator) = found := by
  have hLines : ∀ record ∈ edges.map (Table.edgeRecord separator), Text.IsLine record.toList := by
    refine List.forall_mem_map.2 fun edge hEdge => ?_
    have hTarget := hTargets edge hEdge
    have hNoFeed : '\n' ∉ separator.toList := by
      rw [hSeparator, List.mem_singleton]
      exact hFeed.symm
    refine Table.isLine_edgeRecord hNoFeed (hSources edge hEdge) ⟨?_, ?_⟩ hTarget.nonempty
    · exact hTarget.not_mem rfl
    · intro hLast
      exact hTarget.not_mem rfl (List.mem_of_getLast? hLast)
  rw [Table.ofEdges, Table.records_ofRecords hEnd hLines]
  exact readEdges_edgeRecords_eq_ok_iff hSeparator fun edge hEdge => (hTargets edge hEdge).notBlank

/-- A malformed record ends the rendering of a project, and only then does it fail for one. -/
theorem failure?_renderProject_eq_malformedRecord_iff {files : FileSystem}
    (hTemplate : config.template? = none) {nodes records : List String}
    (hNodes : Table.read files (Config.resolve root config.nodesFile) = .ok nodes)
    (hEdges : Table.read files (Config.resolve root config.edgesFile) = .ok records)
    {tablePath record : String} {line : Nat} :
    (renderProject files root config).failure? = some (.malformedRecord tablePath line record) ↔
      readEdges config.edgeSeparator (Config.resolve root config.edgesFile) 1 records =
        .error (.malformedRecord tablePath line record) := by
  obtain ⟨style, head, tail, hStyle, hSeparator, hCut⟩ := exists_style hTemplate files root
  unfold renderProject Style.write
  simp only [hStyle, Style.render, hNodes, hEdges, bind, Except.bind, Style.document, hCut,
    ← hSeparator]
  cases hRead : readEdges style.edgeSeparator (Config.resolve root config.edgesFile) 1 records with
  | error failure => simp [Session.failed]
  | ok edges =>
    simp only [reduceCtorEq, iff_false]
    split
    · next hWrite =>
      split at hWrite
      · cases hWrite
        simp [Session.failed]
      · split at hWrite
        · cases hWrite
          simp [Session.failed]
        · cases hWrite
    · simp

end Tables

/-! ## The default configuration -/

section Defaults

variable {fs : FileSystem} {root : String} {imports : ImportMap}
  (hScan : ((Project.ofRoot root).scan fs Config.keepAll).result = .ok imports)
  (hDone : (scanProject fs root (Config.ofRoot root)).failure? = none)

include hScan

/-- Every unit that a scan finds imports something. -/
theorem exists_imports_of_mem_units {unit : String} (hUnit : unit ∈ imports.units) :
    ∃ symbol, imports.Imports unit symbol := by
  obtain ⟨visited, hVisits⟩ :=
    Project.exists_visits_of_result_scan SymbolFilter.ofText_keepAll hScan
  obtain ⟨-, hNoEmpty, -⟩ :=
    Project.imports_iff_of_result_scan SymbolFilter.ofText_keepAll hScan hVisits
  exact hNoEmpty unit hUnit

include hDone

/-- The short form of a unit that is rendered has no separator in it, and the unit no line feed. -/
theorem not_mem_unit_of_renders
    (hRenders : Renders (scanProject fs root (Config.ofRoot root)).files root
      (Config.ofRoot root) imports) {unit symbol : String} (h : imports.Imports unit symbol) :
    '\n' ∉ unit.toList ∧ ';' ∉ (DottedName.shorten unit).toList := by
  obtain ⟨found, hOk, hEnds⟩ := (renders_iff_readEdges rfl hScan hDone).1 hRenders
  have hShort : shortEnds (unit, symbol) ∈ imports.pairs.image shortEnds :=
    Finset.mem_image_of_mem _ (ImportMap.mem_pairs_iff.2 h)
  rw [← hEnds, List.mem_toFinset] at hShort
  obtain ⟨edge, hEdge, hSame⟩ := List.mem_map.1 hShort
  have hSource : DottedName.shorten edge.source = DottedName.shorten unit :=
    (Prod.mk.inj hSame).1
  obtain ⟨hFeed, hSeparator⟩ := @not_mem_source_of_readEdges ";" ';' rfl _ _ _ _ hOk edge hEdge
  obtain ⟨-, package?, path, rfl, hPackage⟩ :=
    isBare_of_imports SymbolFilter.ofText_keepAll hScan h
  refine ⟨fun hMem => hFeed ?_, fun hMem => hSeparator ?_⟩
  · have hKept := feed_mem_shorten_unitName hPackage hMem
    exact DottedName.mem_of_mem_shorten (hSource ▸ hKept)
  · exact DottedName.mem_of_mem_shorten (hSource ▸ hMem)

/-- Of units without line feeds all have to be read as something, and what they are read as has to
    be the same by its short forms. -/
theorem renders_iff_of_noFeed (hFeeds : ∀ edge ∈ imports.edges, '\n' ∉ edge.source.toList) :
    Renders (scanProject fs root (Config.ofRoot root)).files root (Config.ofRoot root) imports ↔
      (∀ edge ∈ imports.edges, Unicode.isBlankText (readAs ";" edge).source = false) ∧
      ((imports.edges.map (readAs ";")).map fun edge =>
        shortEnds (edge.source, edge.target)).toFinset = imports.pairs.image shortEnds := by
  have hTargets : ∀ edge ∈ imports.edges, IsBare edge.target := fun edge hEdge =>
    (isBare_of_imports SymbolFilter.ofText_keepAll hScan (ImportMap.mem_edges_iff.1 hEdge)).1
  have hRead {found : List Edge} := @readEdges_ofEdges_eq_ok_iff ";" "\n"
    (Config.resolve root (Config.ofRoot root).edgesFile) ';' rfl (by decide) (.inl rfl)
    imports.edges found hFeeds hTargets
  rw [renders_iff_readEdges rfl hScan hDone]
  constructor
  · rintro ⟨found, hOk, hEnds⟩
    obtain ⟨hNotBlank, rfl⟩ := hRead.1 hOk
    exact ⟨hNotBlank, hEnds⟩
  · rintro ⟨hNotBlank, hEnds⟩
    exact ⟨_, hRead.2 ⟨hNotBlank, rfl⟩, hEnds⟩

/-- A line feed in a unit would be missing from all the sources that are read. -/
theorem renders_iff :
    Renders (scanProject fs root (Config.ofRoot root)).files root (Config.ofRoot root) imports ↔
      (∀ edge ∈ imports.edges, '\n' ∉ edge.source.toList ∧
        Unicode.isBlankText (readAs ";" edge).source = false) ∧
      ((imports.edges.map (readAs ";")).map fun edge =>
        shortEnds (edge.source, edge.target)).toFinset = imports.pairs.image shortEnds := by
  constructor
  · intro hRenders
    have hFeeds : ∀ edge ∈ imports.edges, '\n' ∉ edge.source.toList := fun edge hEdge =>
      (not_mem_unit_of_renders hScan hDone hRenders (ImportMap.mem_edges_iff.1 hEdge)).1
    obtain ⟨hNotBlank, hEnds⟩ := (renders_iff_of_noFeed hScan hDone hFeeds).1 hRenders
    exact ⟨fun edge hEdge => ⟨hFeeds edge hEdge, hNotBlank edge hEdge⟩, hEnds⟩
  · rintro ⟨hEdges, hEnds⟩
    have hFeeds := fun edge hEdge => (hEdges edge hEdge).1
    refine (renders_iff_of_noFeed hScan hDone hFeeds).2 ⟨?_, hEnds⟩
    exact fun edge hEdge => (hEdges edge hEdge).2

/-- Edges whose sources have no separator in them come back as they are. -/
theorem renders_of_units
    (hUnits : ∀ unit ∈ imports.units,
      Unicode.isBlankText unit = false ∧ ';' ∉ unit.toList ∧ '\n' ∉ unit.toList) :
    Renders (scanProject fs root (Config.ofRoot root)).files root (Config.ofRoot root) imports := by
  have hSources : ∀ edge ∈ imports.edges, Unicode.isBlankText edge.source = false ∧
      ';' ∉ edge.source.toList ∧ '\n' ∉ edge.source.toList :=
    fun edge hEdge => hUnits _ (ImportMap.mem_edges_iff.1 hEdge).mem_units
  have hSame : ∀ edge ∈ imports.edges, readAs ";" edge = edge :=
    fun edge hEdge => readAs_of_not_mem rfl (hSources edge hEdge).2.1
  have hAll : imports.edges.map (readAs ";") = imports.edges := by
    rw [List.map_congr_left hSame, List.map_id']
  refine (renders_iff hScan hDone).2 ⟨?_, ?_⟩
  · intro edge hEdge
    obtain ⟨hNotBlank, -, hFeed⟩ := hSources edge hEdge
    rw [hSame edge hEdge]
    exact ⟨hFeed, hNotBlank⟩
  · ext ends
    simp only [hAll, ImportMap.pairs_eq_toFinset, Finset.mem_image, List.mem_toFinset,
      List.mem_map, exists_exists_and_eq_and]

/-- A unit of blanks is cut to a source of blanks, which is not read. -/
theorem units_of_renders
    (hRenders : Renders (scanProject fs root (Config.ofRoot root)).files root
      (Config.ofRoot root) imports) :
    ∀ unit ∈ imports.units, Unicode.isBlankText unit = false ∧
      ';' ∉ (DottedName.shorten unit).toList ∧ '\n' ∉ unit.toList := by
  intro unit hUnit
  obtain ⟨symbol, hImports⟩ := exists_imports_of_mem_units hScan hUnit
  obtain ⟨hFeed, hSeparator⟩ := not_mem_unit_of_renders hScan hDone hRenders hImports
  have hEdge : ⟨unit, symbol⟩ ∈ imports.edges := ImportMap.mem_edges_iff.2 hImports
  have hRead := (((renders_iff hScan hDone).1 hRenders).1 _ hEdge).2
  obtain ⟨c, hMem, hBlank⟩ := List.all_eq_false.1 hRead
  have hFront := @prefix_source_readAs ";" ';' rfl ⟨unit, symbol⟩
  exact ⟨List.all_eq_false.2 ⟨c, hFront.subset hMem, hBlank⟩, hSeparator, hFeed⟩

/-- A record is malformed if it is no edge, and then the rendering of the project fails for it. -/
theorem exists_malformedRecord_iff :
    (∃ line record, (renderProject (scanProject fs root (Config.ofRoot root)).files root
      (Config.ofRoot root)).failure? =
        some (.malformedRecord (Config.resolve root "edges.csv") line record)) ↔
      ∃ record ∈ Table.records (Table.ofEdges ";" "\n" imports.edges),
        splitEdge? ";" record = none := by
  obtain ⟨nodesWritten, hNodes, hEdges⟩ := writes_of_scanProject hScan hDone
  have hRendered {tablePath record : String} {line : Nat} :=
    @failure?_renderProject_eq_malformedRecord_iff root (Config.ofRoot root) _ rfl _ _
      (Table.read_first_of_write hNodes hEdges) (Table.read_of_write hEdges) tablePath record line
  simp only [hRendered]
  exact readEdges_eq_malformedRecord_iff

end Defaults

/-- A project that was scanned is rendered when what its records are read as is the same by its
    short forms. Rendering fails if some record is malformed. -/
theorem renders_scanned_iff {fs : FileSystem} {root : String} {imports : ImportMap}
    (hScan : ((Project.ofRoot root).scan fs Config.keepAll).result = .ok imports)
    (hDone : (scanProject fs root (Config.ofRoot root)).failure? = none) :
    -- when it is rendered
    (Renders (scanProject fs root (Config.ofRoot root)).files root (Config.ofRoot root) imports ↔
      (∀ edge ∈ imports.edges, '\n' ∉ edge.source.toList ∧
        Unicode.isBlankText (readAs ";" edge).source = false) ∧
      ((imports.edges.map (readAs ";")).map fun edge =>
        shortEnds (edge.source, edge.target)).toFinset = imports.pairs.image shortEnds) ∧
    -- what is enough for that
    ((∀ unit ∈ imports.units,
        Unicode.isBlankText unit = false ∧ ';' ∉ unit.toList ∧ '\n' ∉ unit.toList) →
      Renders (scanProject fs root (Config.ofRoot root)).files root (Config.ofRoot root)
        imports) ∧
    -- what it takes
    (Renders (scanProject fs root (Config.ofRoot root)).files root (Config.ofRoot root) imports →
      ∀ unit ∈ imports.units, Unicode.isBlankText unit = false ∧
        ';' ∉ (DottedName.shorten unit).toList ∧ '\n' ∉ unit.toList) ∧
    -- when a record is malformed
    ((∃ line record, (renderProject (scanProject fs root (Config.ofRoot root)).files root
        (Config.ofRoot root)).failure? =
          some (.malformedRecord (Config.resolve root "edges.csv") line record)) ↔
      ∃ record ∈ Table.records (Table.ofEdges ";" "\n" imports.edges),
        splitEdge? ";" record = none) := by
  refine ⟨renders_iff hScan hDone, ?_, ?_, exists_malformedRecord_iff hScan hDone⟩
  · exact renders_of_units hScan hDone
  · exact units_of_renders hScan hDone

/-! ### Projects with one file -/

section Sample

open FileSystem (IsTopPath)

def oneFile (file : String) : FileSystem :=
  FileSystem.bare.put [file] (.file "import java.util.List;\n".toUTF8)

def oneImport (unit : String) : ImportMap :=
  SortedMap.empty.insert unit (SortedSet.ofList ["java.util.List"])

/-- A Java file at the top that a scan reads, and whose name is not that of a table. -/
structure IsSample (file path : String) : Prop where
  top : IsTopPath path file
  java : Languages.known.forFile? path = some Language.java
  tree : (oneFile file).IsTree
  selected : (((oneFile file).nodesBelow []).filterMap (Selection.select? (Config.ofRoot "/")
    (fun path => (Languages.known.forFile? path).isSome) "/")).map (pathBelow "/") = [path]
  notNodes : file ≠ "nodes.csv"
  notEdges : file ≠ "edges.csv"

/-- Which files are read does not depend on the filter. -/
theorem IsSample.visits {file path : String} (h : IsSample file path) (pattern : String) :
    (Project.withConfig "/" { Config.ofRoot "/" with filter := pattern }).Visits (oneFile file)
      [path] :=
  Project.visits_of_troubles h.tree rfl (FileSystem.directory?_top _) h.selected

theorem IsSample.scan_of_keeps {file path pattern : String} {filter : SymbolFilter}
    (h : IsSample file path) (hFilter : SymbolFilter.ofText pattern = .ok filter)
    (hKeeps : filter.keeps "java.util.List") :
    ((Project.withConfig "/" { Config.ofRoot "/" with filter := pattern }).scan (oneFile file)
      pattern).result = .ok (oneImport (className path)) := by
  have hJava : Java.declarations "import java.util.List;\n" = .ok [.imports "java.util.List"] := by
    decide +kernel
  have hText : (oneFile file).readText path = .ok "import java.util.List;\n" :=
    FileSystem.readText_of_writeText (h.top.writeText rfl (.inl rfl) _)
  have hDeclares : Scan.Declares (oneFile file) Languages.known path
      [.imports "java.util.List"] :=
     ⟨Language.java, _, h.java, hText, Java.declarations_java_eq_ok_iff.2 hJava⟩
  have hAdd : ImportMap.empty.add filter (.ofDeclarations path [.imports "java.util.List"]) =
      oneImport (className path) := by
    simp only [ImportMap.add, ImportMap.kept, SourceUnit.ofDeclarations, declaredImports,
      List.filterMap_cons, List.filterMap_nil, List.filter_cons, hKeeps, if_true, List.filter_nil]
    rfl
  rw [Project.scan_of_visits hFilter (h.visits pattern)]
  refine (Scan.result_ofFiles_of_declares hDeclares _ _).trans ?_
  rw [hAdd]
  rfl

theorem IsSample.scan {file path : String} (h : IsSample file path) :
    ((Project.ofRoot "/").scan (oneFile file) Config.keepAll).result =
      .ok (oneImport (className path)) :=
  h.scan_of_keeps SymbolFilter.ofText_keepAll (by decide +kernel)

/-- A scan with another filter succeeds too if the filter keeps the one symbol there is. -/
theorem IsSample.failure?_scanProject_of_keeps {file path pattern : String}
    {filter : SymbolFilter} (h : IsSample file path)
    (hFilter : SymbolFilter.ofText pattern = .ok filter) (hKeeps : filter.keeps "java.util.List") :
    (scanProject (oneFile file) "/" { Config.ofRoot "/" with filter := pattern }).failure? =
      none := by
  have hNodesPath : IsTopPath "/nodes.csv" "nodes.csv" := by decide
  have hEdgesPath : IsTopPath "/edges.csv" "edges.csv" := by decide
  have hFree (step : String) (h : file ≠ step) : (oneFile file).nodeAt? [step] = none := by
    rw [oneFile, FileSystem.nodeAt?_put (by simp), if_neg (by simpa using h.symm)]
    rfl
  have hWriteNodes (table : String) : Table.write (oneFile file) "/nodes.csv" table =
      ((oneFile file).put ["nodes.csv"] (.file table.toUTF8), .ok ()) :=
    Table.write_top rfl hNodesPath (hFree _ h.notNodes) table
  have hWriteEdges (nodes table : String) :
      Table.write ((oneFile file).put ["nodes.csv"] (.file nodes.toUTF8)) "/edges.csv" table =
        (((oneFile file).put ["nodes.csv"] (.file nodes.toUTF8)).put ["edges.csv"]
          (.file table.toUTF8), .ok ()) := by
    have hStillFree : ((oneFile file).put ["nodes.csv"] (.file nodes.toUTF8)).nodeAt?
        ["edges.csv"] = none := by
      rw [FileSystem.nodeAt?_put (by simp), if_neg (by decide), hFree _ h.notEdges]
    exact Table.write_top rfl hEdgesPath hStillFree table
  have hScan : ((Project.withConfig "/" { Config.ofRoot "/" with filter := pattern }).scan
      (oneFile file) pattern).result = .ok (oneImport (className path)) :=
    h.scan_of_keeps hFilter hKeeps
  have hResolve : Config.resolve "/" (Config.ofRoot "/").nodesFile = "/nodes.csv" ∧
      Config.resolve "/" (Config.ofRoot "/").edgesFile = "/edges.csv" := by
    decide
  unfold scanProject writeTables
  simp only [hScan, hResolve, hWriteNodes, hWriteEdges]

theorem IsSample.failure?_scanProject {file path : String} (h : IsSample file path) :
    (scanProject (oneFile file) "/" (Config.ofRoot "/")).failure? = none :=
  h.failure?_scanProject_of_keeps SymbolFilter.ofText_keepAll (by decide +kernel)

theorem isSample_plain : IsSample "A.java" "/A.java" where
  top := by decide
  java := rfl
  tree := FileSystem.isTree_bare.put [] (by decide) rfl (by decide +kernel) _
  selected := by decide +kernel
  notNodes := by decide
  notEdges := by decide

private theorem isSample_separator : IsSample ";.java" "/;.java" where
  top := by decide
  java := rfl
  tree := FileSystem.isTree_bare.put [] (by decide) rfl (by decide +kernel) _
  selected := by decide +kernel
  notNodes := by decide
  notEdges := by decide

theorem renders_scanned_iff_plain :
    (scanProject (oneFile "A.java") "/" (Config.ofRoot "/")).failure? = none ∧
      Renders (scanProject (oneFile "A.java") "/" (Config.ofRoot "/")).files "/"
        (Config.ofRoot "/") (oneImport "A") := by
  have hClass : className "/A.java" = "A" := by decide +kernel
  have hScan := isSample_plain.scan
  have hDone := isSample_plain.failure?_scanProject
  rw [hClass] at hScan
  refine ⟨hDone, (renders_scanned_iff hScan hDone).2.1 ?_⟩
  decide +kernel

/-- A file whose name starts with the separator is scanned, but the record it leaves behind has no
    source. -/
theorem malformedRecord_of_separator :
    (scanProject (oneFile ";.java") "/" (Config.ofRoot "/")).failure? = none ∧
      (renderProject (scanProject (oneFile ";.java") "/" (Config.ofRoot "/")).files "/"
        (Config.ofRoot "/")).failure? =
          some (.malformedRecord "/edges.csv" 1 ";;java.util.List") := by
  have hClass : className "/;.java" = ";" := by decide +kernel
  have hScan := isSample_separator.scan
  have hDone := isSample_separator.failure?_scanProject
  rw [hClass] at hScan
  obtain ⟨nodesWritten, hNodes, hEdges⟩ := writes_of_scanProject hScan hDone
  refine ⟨hDone, (failure?_renderProject_eq_malformedRecord_iff rfl
    (Table.read_first_of_write hNodes hEdges) (Table.read_of_write hEdges)).2 ?_⟩
  decide +kernel

end Sample

end JavaImports.CommandLine
