-- SUMMARY: Filtering while a project is built gives what filtering the complete graph gives.
import JavaImports.Proofs.Java.Names
import JavaImports.Proofs.Pattern.Matches
import JavaImports.Proofs.Scan

/-! # Filtering while building

Whether a build gives a map does not depend on its filter, and neither does what a file declares.
So two builds of a project differ by the edges their filters drop, and in nothing else. The pattern
of a complete build matches all texts that are a single line; that it drops no edge rests on what
the languages report. A name in a Java file has no blanks, and so it has no line feed. -/

namespace JavaImports

/-! ## The complete build -/

theorem CharClass.contains_complement_single_iff {c d : Char} :
    (complement (single d)).contains c ↔ c ≠ d := by
  have hSingle : (single d).contains c ↔ c = d := by
    simp only [single, contains, Unicode.Ranges.contains_iff, List.mem_singleton, exists_eq_left]
    rw [← Char.toNat_inj]
    omega
  simp [contains, ← hSingle]

/-- The default pattern keeps what is a single line. -/
theorem SymbolFilter.keeps_keepAll_iff {all : SymbolFilter}
    (h : SymbolFilter.ofText Config.keepAll = .ok all) (symbol : String) :
    all.keeps symbol ↔ '\n' ∉ symbol.toList := by
  have hPattern : all.pattern = Pattern.betweenAnchors
      (.repeated (.chars (.complement (.single '\n'))) 0 none) := by
    rw [SymbolFilter.ofText_keepAll] at h
    exact (congrArg SymbolFilter.pattern (Except.ok.inj h)).symm
  rw [keeps, hPattern, Pattern.isFoundIn_betweenAnchors_iff, Pattern.matches_repeated_chars_iff]
  simp only [CharClass.contains_complement_single_iff]
  constructor
  · intro hOthers hFeed
    exact hOthers '\n' hFeed rfl
  · intro hNone c hMem hFeed
    exact hNone (hFeed ▸ hMem)

/-- Whether no symbol that a file imports has a line feed, in any of the languages. -/
def Languages.ReportLines (languages : Languages) : Prop :=
  ∀ language ∈ languages, ∀ path source declarations,
    language.declarations path source = .ok declarations →
    ∀ symbol, .imports symbol ∈ declarations → '\n' ∉ symbol.toList

theorem Languages.reportLines_known : Languages.known.ReportLines := by
  intro language hLanguage path source declarations hDeclarations symbol hSymbol
  obtain rfl := List.mem_singleton.1 hLanguage
  have hRead := Java.declarations_java_eq_ok_iff.1 hDeclarations
  have hBare := Java.isBare_of_mem_declarations hRead _ hSymbol
  exact hBare.not_mem (by decide)

namespace Scan

variable {fs : FileSystem} {languages : Languages} {paths : List String}

/-- What a file imports is reported by one of the languages. -/
theorem Declares.notMem_of_reportLines {path : String} {declarations : List Declaration}
    (h : Declares fs languages path declarations) (hLines : languages.ReportLines) {symbol : String}
    (hSymbol : .imports symbol ∈ declarations) : '\n' ∉ symbol.toList := by
  obtain ⟨language, source, hLanguage, -, hDeclarations⟩ := h
  have hMem : language ∈ languages := by
    unfold Languages.forFile? at hLanguage
    split at hLanguage
    · cases hLanguage
    · exact List.mem_of_find?_eq_some hLanguage
  exact hLines language hMem path source declarations hDeclarations symbol hSymbol

/-- A filter keeps some of what a complete scan keeps, and nothing else. -/
theorem contributes_iff_keepAll {filter all : SymbolFilter}
    (hAll : SymbolFilter.ofText Config.keepAll = .ok all) (hLines : languages.ReportLines)
    {unit symbol : String} : Contributes fs languages filter paths unit symbol ↔
      Contributes fs languages all paths unit symbol ∧ filter.keeps symbol := by
  constructor
  · rintro ⟨path, hPath, declarations, hDeclares, hUnit, hSymbol, hKeeps⟩
    have hLine := hDeclares.notMem_of_reportLines hLines hSymbol
    have hKept := (SymbolFilter.keeps_keepAll_iff hAll symbol).2 hLine
    exact ⟨⟨path, hPath, declarations, hDeclares, hUnit, hSymbol, hKept⟩, hKeeps⟩
  · rintro ⟨⟨path, hPath, declarations, hDeclares, hUnit, hSymbol, -⟩, hKeeps⟩
    exact ⟨path, hPath, declarations, hDeclares, hUnit, hSymbol, hKeeps⟩

end Scan

/-! ## Edges and nodes -/

namespace ImportMap

/-- Whether a map holds the edges of another one whose target a filter keeps, and no other names
    than their ends. -/
structure IsFiltered (filter : SymbolFilter) (whole part : ImportMap) : Prop where
  edges : ∀ edge, edge ∈ part.edges ↔ edge ∈ whole.edges ∧ filter.keeps edge.target
  units : ∀ unit, unit ∈ part.units ↔
    ∃ symbol, ⟨unit, symbol⟩ ∈ whole.edges ∧ filter.keeps symbol

variable {filter : SymbolFilter} {whole part : ImportMap}

theorem isFiltered_of_imports (hPart : part.HasNoEmptyUnit)
    (h : ∀ unit symbol,
      part.Imports unit symbol ↔ whole.Imports unit symbol ∧ filter.keeps symbol) :
    IsFiltered filter whole part := by
  refine ⟨fun edge => ?_, fun unit => ⟨fun hUnit => ?_, ?_⟩⟩
  · rw [mem_edges_iff, mem_edges_iff]
    exact h edge.source edge.target
  · obtain ⟨symbol, hSymbol⟩ := hPart unit hUnit
    obtain ⟨hWhole, hKeeps⟩ := (h unit symbol).1 hSymbol
    exact ⟨symbol, mem_edges_iff.2 hWhole, hKeeps⟩
  · rintro ⟨symbol, hEdge, hKeeps⟩
    exact ((h unit symbol).2 ⟨mem_edges_iff.1 hEdge, hKeeps⟩).mem_units

/-- No node is new. -/
theorem IsFiltered.nodes_subset (h : IsFiltered filter whole part) :
    part.nodes.toList ⊆ whole.nodes.toList := by
  intro name hName
  rw [mem_nodes_iff] at hName ⊢
  rcases hName with hUnit | ⟨unit, hTarget⟩
  · obtain ⟨symbol, hEdge, -⟩ := (h.units name).1 hUnit
    exact .inl (mem_edges_iff.1 hEdge).mem_units
  · have hEdge : ⟨unit, name⟩ ∈ part.edges := mem_edges_iff.2 hTarget
    exact .inr ⟨unit, mem_edges_iff.1 ((h.edges _).1 hEdge).1⟩

end ImportMap

/-! ## Two builds -/

namespace Project

open Scan

variable {project : Project} {fs : FileSystem} {pattern : String} {filter : SymbolFilter}

/-- Whether and why a build fails is the same for all filters. -/
theorem result_scan_eq_error_iff_of_filters {other : String} {otherFilter : SymbolFilter}
    (hFilter : SymbolFilter.ofText pattern = .ok filter)
    (hOther : SymbolFilter.ofText other = .ok otherFilter) (failure : Failure) :
    (project.scan fs pattern).result = .error failure ↔
      (project.scan fs other).result = .error failure := by
  rw [result_scan_eq_error_iff hFilter, result_scan_eq_error_iff hOther]

/-- A build that can be filtered in one way can be filtered in another. -/
theorem exists_result_scan_of_result_scan {other : String} {otherFilter : SymbolFilter}
    (hFilter : SymbolFilter.ofText pattern = .ok filter)
    (hOther : SymbolFilter.ofText other = .ok otherFilter) {imports : ImportMap}
    (h : (project.scan fs other).result = .ok imports) :
    ∃ built, (project.scan fs pattern).result = .ok built := by
  rw [exists_result_scan_iff hFilter, ← exists_result_scan_iff hOther]
  exact ⟨imports, h⟩

/-- What a filtered build gives is what the filter leaves of a complete one. -/
theorem isFiltered_of_result_scan (hLines : project.languages.ReportLines)
    (hFilter : SymbolFilter.ofText pattern = .ok filter) {whole built : ImportMap}
    (hWhole : (project.scan fs Config.keepAll).result = .ok whole)
    (hBuilt : (project.scan fs pattern).result = .ok built) :
    ImportMap.IsFiltered filter whole built := by
  have hAll := SymbolFilter.ofText_keepAll
  obtain ⟨files, hVisits⟩ := exists_visits_of_result_scan hFilter hBuilt
  obtain ⟨-, -, hWholeRelation⟩ := imports_iff_of_result_scan hAll hWhole hVisits
  obtain ⟨-, hNoEmpty, hBuiltRelation⟩ := imports_iff_of_result_scan hFilter hBuilt hVisits
  refine ImportMap.isFiltered_of_imports hNoEmpty fun unit symbol => ?_
  rw [hBuiltRelation, hWholeRelation]
  exact contributes_iff_keepAll hAll hLines

/-- Filtering while building is filtering the complete graph afterwards: a filtered build fails just
    when the complete one does, for the same reason, and otherwise it gives the edges that the filter
    keeps, with the units these start at. -/
theorem build_filters_buildAll
    (hLanguages : project.languages = Languages.known ∨ project.languages.ReportLines)
    (hFilter : SymbolFilter.ofText pattern = .ok filter) :
    (∀ failure, (project.build fs pattern).2.result = .error failure ↔
      (project.buildAll fs).2.result = .error failure) ∧
    (∀ whole, (project.buildAll fs).2.result = .ok whole →
      ∃ built, (project.build fs pattern).2.result = .ok built ∧
        (∀ edge, edge ∈ built.edges ↔ edge ∈ whole.edges ∧ filter.keeps edge.target) ∧
        (∀ unit, unit ∈ built.units ↔
          ∃ symbol, ⟨unit, symbol⟩ ∈ whole.edges ∧ filter.keeps symbol) ∧
        built.nodes.toList ⊆ whole.nodes.toList) ∧
    -- the complete build is itself a build with a pattern
    project.buildAll fs = project.build fs ".*" := by
  have hAll := SymbolFilter.ofText_keepAll
  have hLines : project.languages.ReportLines := by
    rcases hLanguages with hKnown | hLines
    · exact hKnown ▸ Languages.reportLines_known
    · exact hLines
  refine ⟨fun failure => ?_, fun whole hWhole => ?_, rfl⟩
  · exact result_scan_eq_error_iff_of_filters hFilter hAll failure
  · obtain ⟨built, hBuilt⟩ := exists_result_scan_of_result_scan hFilter hAll hWhole
    have hFiltered := isFiltered_of_result_scan hLines hFilter hWhole hBuilt
    exact ⟨built, hBuilt, hFiltered.edges, hFiltered.units, hFiltered.nodes_subset⟩

/-! ### A project with one file, of whose two imports a filter keeps the second -/

section Sample

private def twoImports : FileSystem :=
  FileSystem.bare.put ["A.java"] (.file "import x.Y;\nimport z.W;\n".toUTF8)

private theorem isTree_twoImports : twoImports.IsTree :=
  FileSystem.isTree_bare.put [] (by decide) rfl (by decide +kernel) _

private theorem visits_twoImports : (Project.ofRoot "/").Visits twoImports ["/A.java"] :=
  visits_of_troubles isTree_twoImports rfl twoImports.directory?_top (by decide +kernel)

private theorem declares_twoImports : Declares twoImports Languages.known "/A.java"
    [.imports "x.Y", .imports "z.W"] := by
  have hJava : Java.declarations "import x.Y;\nimport z.W;\n" =
      .ok [.imports "x.Y", .imports "z.W"] := by
    decide +kernel
  have hPath : FileSystem.IsTopPath "/A.java" "A.java" := by decide
  have hText : twoImports.readText "/A.java" = .ok "import x.Y;\nimport z.W;\n" :=
    FileSystem.readText_of_writeText (hPath.writeText rfl (.inl rfl) _)
  exact ⟨Language.java, _, rfl, hText, Java.declarations_java_eq_ok_iff.2 hJava⟩

theorem build_filters_buildAll_twoImports : ∃ filter whole built,
    SymbolFilter.ofText "z.*" = .ok filter ∧
      ((Project.ofRoot "/").buildAll twoImports).2.result = .ok whole ∧
      ((Project.ofRoot "/").build twoImports "z.*").2.result = .ok built ∧
      ⟨"A", "x.Y"⟩ ∈ whole.edges ∧ ⟨"A", "x.Y"⟩ ∉ built.edges ∧ ⟨"A", "z.W"⟩ ∈ built.edges := by
  obtain ⟨filter, hFilter⟩ : ∃ filter, SymbolFilter.ofText "z.*" = .ok filter := ⟨_, rfl⟩
  have hKeeps : filter.keeps "z.W" ∧ ¬ filter.keeps "x.Y" := by
    obtain rfl := Except.ok.inj hFilter
    decide +kernel
  have hAll := SymbolFilter.ofText_keepAll
  obtain ⟨whole, hWhole⟩ := (exists_result_scan_iff hAll).2
    ⟨["/A.java"], visits_twoImports, by simpa using ⟨_, declares_twoImports⟩⟩
  have hEdge (symbol : String)
      (hSymbol : .imports symbol ∈ [Declaration.imports "x.Y", .imports "z.W"])
      (hLine : '\n' ∉ symbol.toList) : ⟨"A", symbol⟩ ∈ whole.edges := by
    obtain ⟨-, -, hRelation⟩ := imports_iff_of_result_scan hAll hWhole visits_twoImports
    have hUnit : "A" = unitName none "/A.java" := by decide +kernel
    rw [ImportMap.mem_edges_iff, hRelation]
    exact ⟨"/A.java", List.mem_singleton.2 rfl, _, declares_twoImports, hUnit, hSymbol,
      (SymbolFilter.keeps_keepAll_iff hAll symbol).2 hLine⟩
  have hFirst := hEdge "x.Y" (by decide) (by decide)
  have hSecond := hEdge "z.W" (by decide) (by decide)
  obtain ⟨built, hBuilt, hEdges, -⟩ :=
    (build_filters_buildAll (.inl rfl) hFilter).2.1 whole hWhole
  refine ⟨filter, whole, built, hFilter, hWhole, hBuilt, hFirst, ?_, ?_⟩
  · intro hMem
    exact hKeeps.2 ((hEdges _).1 hMem).2
  · exact (hEdges _).2 ⟨hSecond, hKeeps.1⟩

end Sample

end Project

end JavaImports
