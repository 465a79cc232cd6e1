-- SUMMARY: Which separators let tables be read back, and what is rendered otherwise.
import JavaImports.Proofs.CommandLine.Session
import JavaImports.Proofs.Graphml.Decoding

/-! # Separators of records

The configuration chooses what ends the records of a table, and whoever writes one uses it. Whoever
reads one goes by its lines. So the records come back if the separator is a line end and only then:
with any other separator all of them come back as one, or parts of the separator come back with
them. -/

namespace JavaImports

/-! ## Tables -/

namespace Table

/-- What a record can be that its separator could be told from: some text on one line that has no
    character of the separator. -/
structure IsRecord (separator record : String) : Prop where
  nonempty : record.toList ≠ []
  noFeed : '\n' ∉ record.toList
  noReturn : '\r' ∉ record.toList
  apart : ∀ c ∈ separator.toList, c ∉ record.toList

instance (separator record : String) : Decidable (IsRecord separator record) :=
  decidable_of_iff (record.toList ≠ [] ∧ '\n' ∉ record.toList ∧ '\r' ∉ record.toList ∧
      separator.toList.all fun c => !record.toList.contains c)
    ⟨fun ⟨hNonempty, hFeed, hReturn, hApart⟩ => ⟨hNonempty, hFeed, hReturn, by simpa using hApart⟩,
      fun h => ⟨h.nonempty, h.noFeed, h.noReturn, by simpa using h.apart⟩⟩

theorem IsRecord.isLine {separator record : String} (h : IsRecord separator record) :
    Text.IsLine record.toList :=
  ⟨h.noFeed, fun hLast => h.noReturn (List.mem_of_getLast? hLast)⟩

variable {separator : String} {names : List String}

/-- The records of a table are those it was made of, just if the separator is a line end. -/
theorem records_ofRecords_iff (hSeparator : separator.toList ≠ [])
    (h : ∀ name ∈ names, IsRecord separator name) :
    records (ofRecords separator names) = names ↔
      names = [] ∨ Text.IsLineEnd separator.toList := by
  constructor
  · intro hSame
    by_cases hNames : names = []
    · exact .inl hNames
    · have hLines : Text.lines ((names.map String.toList).flatMap fun record =>
          record ++ separator.toList) = names.map String.toList := by
        rw [← toList_ofRecords]
        conv => rhs; rw [← hSame]
        simp [records]
      refine .inr (Text.isLineEnd_of_lines_flatMap hSeparator (by simpa using hNames) ?_ hLines)
      exact List.forall_mem_map.2 fun name hName =>
        ⟨(h name hName).nonempty, (h name hName).noFeed, (h name hName).apart⟩
  · rintro (rfl | hEnd)
    · rfl
    · exact records_ofRecords hEnd fun name hName => (h name hName).isLine

/-- With a separator without line feeds a table is one record. -/
theorem records_ofRecords_of_not_mem (hFeed : '\n' ∉ separator.toList)
    (h : ∀ name ∈ names, IsRecord separator name) (hNames : names ≠ []) :
    records (ofRecords separator names) = [ofRecords separator names] := by
  obtain ⟨first, more, rfl⟩ := List.exists_cons_of_ne_nil hNames
  have hNone : '\n' ∉ (ofRecords separator (first :: more)).toList := by
    simp only [toList_ofRecords, List.mem_flatMap, List.mem_map, List.mem_append, not_exists,
      not_and, not_or]
    rintro _ ⟨name, hName, rfl⟩
    exact ⟨(h name hName).noFeed, hFeed⟩
  have hSome : (ofRecords separator (first :: more)).toList ≠ [] := by
    simp [(h first (List.mem_cons_self ..)).nonempty]
  rw [records, Text.lines_of_not_mem hNone hSome, List.map_singleton, String.ofList_toList]

/-- What is read from a table that was written: the records it was made of, just if the separator is
    a line end, and the whole table as one record if there is no line feed in the separator. -/
theorem read_ofRecords_of_write {fs written : FileSystem} {path : String}
    (hSeparator : separator.toList ≠ []) (h : ∀ name ∈ names, IsRecord separator name)
    (hWrite : write fs path (ofRecords separator names) = (written, .ok ())) :
    (read written path = .ok names ↔ names = [] ∨ Text.IsLineEnd separator.toList) ∧
    ('\n' ∉ separator.toList → names ≠ [] →
      read written path = .ok [ofRecords separator names]) := by
  rw [read_of_write hWrite, Except.ok.injEq]
  refine ⟨records_ofRecords_iff hSeparator h, fun hFeed hNames => ?_⟩
  rw [records_ofRecords_of_not_mem hFeed h hNames]

theorem length_records_le_one (hFeed : '\n' ∉ separator.toList)
    (h : ∀ name ∈ names, IsRecord separator name) :
    (records (ofRecords separator names)).length ≤ 1 := by
  by_cases hNames : names = []
  · subst hNames
    exact Nat.zero_le 1
  · rw [records_ofRecords_of_not_mem hFeed h hNames]
    exact Nat.le_refl 1

end Table

/-! ## Documents -/

namespace Graphml

/-- The graph in a document has a node for every record of nodes that is not blank, and an edge for
    every record of edges. -/
theorem Style.exists_content_of_render {style : Style} {fs : FileSystem}
    {nodeTable edgeTable document : String} {nodes records : List String}
    (hNodes : Table.read fs nodeTable = .ok nodes) (hEdges : Table.read fs edgeTable = .ok records)
    (h : style.render fs nodeTable edgeTable = .ok document) :
    ∃ head tail body content,
      Text.cutLast? closingTag.toList style.template.toList = some (head, tail) ∧
      document = around head tail body ∧ readGraph? body.toList = some content ∧
      content.nodes =
        (nodes.filter fun node => !Unicode.isBlankText node).map DottedName.shorten ∧
      content.edges.length = records.length := by
  have hDocument : style.document nodes records edgeTable = .ok document := by
    simpa only [Style.render, hNodes, hEdges, bind, Except.bind] using h
  obtain ⟨head, tail, hCut⟩ := exists_cutLast?_of_document hDocument
  obtain ⟨edges, hRead, rfl⟩ := (document_eq_ok_iff hCut).1 hDocument
  refine ⟨head, tail, graph nodes edges, contentOf nodes edges, hCut, rfl,
    readGraph?_graph nodes edges, rfl, ?_⟩
  simp [contentOf, length_of_readEdges hRead]

end Graphml

/-! ## Writing and reading -/

namespace CommandLine

open Graphml

/-- Whatever separators are configured, a table is read back as it was written exactly if its
    separator is a line end; with a separator without line feeds it is one record. So what a scan
    wrote is rendered with one element for each node and each edge if both separators are line ends,
    and with one at most for all of them if there is no line feed in a separator. -/
theorem reads_written_iff (config : Config) :
    -- a table of nodes
    (∀ {fs written : FileSystem} {path : String} {nodes : List String},
      config.nodeSeparator.toList ≠ [] →
      (∀ node ∈ nodes, Table.IsRecord config.nodeSeparator node) →
      Table.write fs path (Table.ofNodes config.nodeSeparator nodes) = (written, .ok ()) →
      (Table.read written path = .ok nodes ↔
        nodes = [] ∨ Text.IsLineEnd config.nodeSeparator.toList) ∧
      ('\n' ∉ config.nodeSeparator.toList → nodes ≠ [] →
        Table.read written path = .ok [Table.ofNodes config.nodeSeparator nodes])) ∧
    -- a table of edges
    (∀ {fs written : FileSystem} {path : String} {edges : List Edge},
      config.recordSeparator.toList ≠ [] →
      (∀ edge ∈ edges, Table.IsRecord config.recordSeparator
        (Table.edgeRecord config.edgeSeparator edge)) →
      Table.write fs path (Table.ofEdges config.edgeSeparator config.recordSeparator edges) =
        (written, .ok ()) →
      (Table.read written path = .ok (edges.map (Table.edgeRecord config.edgeSeparator)) ↔
        edges = [] ∨ Text.IsLineEnd config.recordSeparator.toList) ∧
      ('\n' ∉ config.recordSeparator.toList → edges ≠ [] →
        Table.read written path =
          .ok [Table.ofEdges config.edgeSeparator config.recordSeparator edges])) ∧
    -- the document for the tables of a scan
    (∀ {fs : FileSystem} {root document : String} {imports : ImportMap} {style : Style},
      ((Project.withConfig root config).scan fs config.filter).result = .ok imports →
      (scanProject fs root config).failure? = none →
      fs.location? (Config.resolve root config.nodesFile) ≠
        fs.location? (Config.resolve root config.edgesFile) →
      (∀ node ∈ imports.nodes.toList, Table.IsRecord config.nodeSeparator node) →
      (∀ edge ∈ imports.edges, Table.IsRecord config.recordSeparator
        (Table.edgeRecord config.edgeSeparator edge)) →
      style.render (scanProject fs root config).files (Config.resolve root config.nodesFile)
        (Config.resolve root config.edgesFile) = .ok document →
      ∃ head tail body content,
        Text.cutLast? closingTag.toList style.template.toList = some (head, tail) ∧
        document = around head tail body ∧ readGraph? body.toList = some content ∧
        (Text.IsLineEnd config.nodeSeparator.toList → content.nodes =
          (imports.nodes.toList.filter fun node => !Unicode.isBlankText node).map
            DottedName.shorten) ∧
        (Text.IsLineEnd config.recordSeparator.toList →
          content.edges.length = imports.edges.length) ∧
        ('\n' ∉ config.nodeSeparator.toList → content.nodes.length ≤ 1) ∧
        ('\n' ∉ config.recordSeparator.toList → content.edges.length ≤ 1)) := by
  refine ⟨Table.read_ofRecords_of_write, ?_, ?_⟩
  · intro fs written path edges hSeparator hEdges hWrite
    have hRecords :=
      Table.read_ofRecords_of_write hSeparator (List.forall_mem_map.2 hEdges) hWrite
    simpa only [List.map_eq_nil_iff, ne_eq, Table.ofEdges] using hRecords
  · intro fs root document imports style hScan hDone hFiles hNodes hEdges hRender
    obtain ⟨nodesWritten, hWriteNodes, hWriteEdges⟩ := writes_of_scanProject hScan hDone
    have hReadNodes := Table.read_first_of_write hWriteNodes hWriteEdges
    rw [if_neg hFiles] at hReadNodes
    obtain ⟨head, tail, body, content, hCut, hDocument, hRead, hContent, hLength⟩ :=
      Style.exists_content_of_render hReadNodes (Table.read_of_write hWriteEdges) hRender
    have hRecords : ∀ record ∈ imports.edges.map (Table.edgeRecord config.edgeSeparator),
        Table.IsRecord config.recordSeparator record := List.forall_mem_map.2 hEdges
    refine ⟨head, tail, body, content, hCut, hDocument, hRead, ?_, ?_, ?_, ?_⟩
    · intro hEnd
      rw [hContent, Table.ofNodes,
        Table.records_ofRecords hEnd fun node hNode => (hNodes node hNode).isLine]
    · intro hEnd
      rw [hLength, Table.ofEdges,
        Table.records_ofRecords hEnd fun record hRecord => (hRecords record hRecord).isLine]
      exact List.length_map _
    · intro hFeed
      rw [hContent, List.length_map]
      exact (List.length_filter_le _ _).trans (Table.length_records_le_one hFeed hNodes)
    · intro hFeed
      rw [hLength]
      exact Table.length_records_le_one hFeed hRecords

section Sample

open FileSystem (IsTopPath)

theorem reads_written_iff_plain :
    (∃ written, Table.write .bare "/nodes.csv" (Table.ofNodes "\r\n" ["a.B", "c"]) =
      (written, .ok ()) ∧ Table.read written "/nodes.csv" = .ok ["a.B", "c"]) ∧
    (∃ written, Table.write .bare "/edges.csv" (Table.ofEdges ";" "\n" [⟨"a.B", "c"⟩]) =
      (written, .ok ()) ∧ Table.read written "/edges.csv" = .ok ["a.B;c"]) ∧
    ∃ style : Style, ∃ document head tail body content,
      style.render (scanProject (oneFile "A.java") "/" (Config.ofRoot "/")).files "/nodes.csv"
        "/edges.csv" = .ok document ∧
      Text.cutLast? closingTag.toList style.template.toList = some (head, tail) ∧
      document = around head tail body ∧ readGraph? body.toList = some content ∧
      content.nodes = ["A", "util.List"] ∧ content.edges.length = 1 := by
  have hNodesPath : IsTopPath "/nodes.csv" "nodes.csv" := by decide
  have hEdgesPath : IsTopPath "/edges.csv" "edges.csv" := by decide
  have hNodes := @Table.write_top .bare rfl _ _ hNodesPath rfl (Table.ofNodes "\r\n" ["a.B", "c"])
  have hEdges := @Table.write_top .bare rfl _ _ hEdgesPath rfl (Table.ofEdges ";" "\n" [⟨"a.B", "c"⟩])
  refine ⟨⟨_, hNodes, ?_⟩, ⟨_, hEdges, ?_⟩, ?_⟩
  · have hSpec := (reads_written_iff { nodeSeparator := "\r\n" }).1 (by decide) (by decide) hNodes
    exact hSpec.1.2 (.inr (.inr (by decide)))
  · have hSpec := (reads_written_iff {}).2.1 (by decide) (by decide) hEdges
    exact hSpec.1.2 (.inr (.inl (by decide)))
  · have hClass : className "/A.java" = "A" := by decide +kernel
    have hScan := isSample_plain.scan
    have hDone := isSample_plain.failure?_scanProject
    rw [hClass] at hScan
    have hFiles : (oneFile "A.java").location? (Config.resolve "/" (Config.ofRoot "/").nodesFile) ≠
        (oneFile "A.java").location? (Config.resolve "/" (Config.ofRoot "/").edgesFile) := by
      have hFree (step : String) (hOther : step ≠ "A.java") :
          (oneFile "A.java").nodeAt? [step] = none := by
        rw [oneFile, FileSystem.nodeAt?_put (by simp), if_neg (by simpa using hOther)]
        rfl
      rw [show Config.resolve "/" (Config.ofRoot "/").nodesFile = "/nodes.csv" by decide,
        show Config.resolve "/" (Config.ofRoot "/").edgesFile = "/edges.csv" by decide,
        FileSystem.location?, FileSystem.location?,
        hNodesPath.resolve (by simp [hFree "nodes.csv" (by decide)]),
        hEdgesPath.resolve (by simp [hFree "edges.csv" (by decide)])]
      decide
    obtain ⟨style, _, _, _, _, -, -, hRender, -⟩ :=
      renders_of_units hScan hDone (by decide +kernel)
    obtain ⟨head, tail, body, content, hCut, hDocument, hRead, hContent, hLength, -, -⟩ :=
      (reads_written_iff (Config.ofRoot "/")).2.2 hScan hDone hFiles (by decide +kernel)
        (by decide +kernel) hRender
    refine ⟨style, _, head, tail, body, content, hRender, hCut, hDocument, hRead, ?_, ?_⟩
    · rw [hContent (.inl (by decide))]
      decide +kernel
    · rw [hLength (.inl (by decide))]
      decide +kernel

/-- With another separator both names come back as one that was never written, and both edges as one
    with a target that was never imported. -/
theorem reads_written_as_one :
    (∀ node ∈ ["a", "b"], Table.IsRecord "|" node) ∧
    (∃ written, Table.write .bare "/nodes.csv" (Table.ofNodes "|" ["a", "b"]) = (written, .ok ()) ∧
      Table.read written "/nodes.csv" = .ok ["a|b|"]) ∧
    (∀ edge ∈ [⟨"a", "x"⟩, ⟨"b", "y"⟩], Table.IsRecord "|" (Table.edgeRecord ";" edge)) ∧
    ∃ written, Table.write .bare "/edges.csv" (Table.ofEdges ";" "|" [⟨"a", "x"⟩, ⟨"b", "y"⟩]) =
      (written, .ok ()) ∧ Table.read written "/edges.csv" = .ok ["a;x|b;y|"] ∧
      readEdges ";" "/edges.csv" 1 ["a;x|b;y|"] = .ok [⟨"a", "x|b;y|"⟩] := by
  have hNodesPath : IsTopPath "/nodes.csv" "nodes.csv" := by decide
  have hEdgesPath : IsTopPath "/edges.csv" "edges.csv" := by decide
  have hNodes := @Table.write_top .bare rfl _ _ hNodesPath rfl (Table.ofNodes "|" ["a", "b"])
  have hEdges := @Table.write_top .bare rfl _ _ hEdgesPath rfl
    (Table.ofEdges ";" "|" [⟨"a", "x"⟩, ⟨"b", "y"⟩])
  refine ⟨by decide, ⟨_, hNodes, ?_⟩, by decide, ⟨_, hEdges, ?_, by decide +kernel⟩⟩
  · rw [Table.read_of_write hNodes]
    decide +kernel
  · rw [Table.read_of_write hEdges]
    decide +kernel

end Sample

end CommandLine

end JavaImports
