-- SUMMARY: From an import map over its tables to the graph in the document.
import JavaImports.Proofs.Graphml.Reader
import JavaImports.Proofs.ImportMap
import JavaImports.Proofs.Table

/-! # Exporting import maps

An import map leaves the program as two tables and comes back as the graph of a document. Names that
tables can hold get through: the graph has one node for every name and one edge for every import, by
their short forms, in whatever order the tables list them and whatever line ends they have. -/

namespace JavaImports.Graphml

/-- The ends of the edges in a graph, in order. -/
def Content.ends (content : Content) : List (String × String) :=
  content.edges.map fun edge => (edge.source, edge.target)

/-- The ends of an edge by their short forms. -/
def shortEnds : String × String → String × String :=
  Prod.map DottedName.shorten DottedName.shorten

theorem ends_contentOf (nodes : List String) (edges : List Edge) :
    (contentOf nodes edges).ends =
      (edges.map fun edge => (edge.source, edge.target)).map shortEnds := by
  have hEnds (number : Nat) : ((edges.zipIdx number).map fun item => edgeEntry item.2 item.1).map
      (fun edge => (edge.source, edge.target)) =
        (edges.map fun edge => (edge.source, edge.target)).map shortEnds := by
    induction edges generalizing number with
    | nil => rfl
    | cons edge more ih =>
      simp only [List.zipIdx_cons, List.map_cons, ih]
      rfl
  exact hEnds 0

/-- Of names that are not blank none is left out. -/
theorem nodes_contentOf {nodes : List String} (h : ∀ name ∈ nodes, Table.IsName name)
    (edges : List Edge) : (contentOf nodes edges).nodes = nodes.map DottedName.shorten := by
  have hAll : nodes.filter (fun node => !Unicode.isBlankText node) = nodes :=
    List.filter_eq_self.2 fun name hName => by simp [(h name hName).notBlank]
  simp only [contentOf, hAll]

/-! ## Documents -/

/-- The document with a graph between the parts of a template. -/
def around (head tail : List Char) (body : String) : String :=
  String.ofList (endLine head) ++ body ++ String.ofList tail

theorem around_inj {head tail : List Char} {a b : String} :
    around head tail a = around head tail b ↔ a = b := by
  simp [around, ← String.toList_inj]

/-- The document without a graph can take one in. -/
theorem closingTag_infix_emptyDocument : closingTag.toList <:+: emptyDocument.toList := by
  have hEnd : "</graphml>\n" = closingTag ++ "\n" := by decide
  unfold emptyDocument
  rw [hEnd]
  simp only [String.toList_append]
  exact ⟨_, _, List.append_assoc ..⟩

namespace Style

variable {style : Style} {head tail : List Char}

/-- The document for records is rendered exactly if the records of edges are read. -/
theorem document_eq_ok_iff
    (hTemplate : Text.cutLast? closingTag.toList style.template.toList = some (head, tail))
    {nodes records : List String} {edgeTable document : String} :
    style.document nodes records edgeTable = .ok document ↔
      ∃ edges, readEdges style.edgeSeparator edgeTable 1 records = .ok edges ∧
        document = around head tail (graph nodes edges) := by
  unfold Style.document
  rw [hTemplate]
  cases readEdges style.edgeSeparator edgeTable 1 records with
  | error failure => simp
  | ok edges => simp [around, eq_comm]

/-- A document that was rendered has a template that can be cut. -/
theorem exists_cutLast?_of_document {nodes records : List String} {edgeTable document : String}
    (h : style.document nodes records edgeTable = .ok document) :
    ∃ head tail, Text.cutLast? closingTag.toList style.template.toList = some (head, tail) := by
  unfold Style.document at h
  split at h
  · cases h
  · next head tail hCut => exact ⟨head, tail, hCut⟩

variable {imports : ImportMap}

/-- Every import is read from its record. -/
theorem splitEdge?_of_mem_edges {separator : String}
    (hNames : ∀ name ∈ imports.names, Table.IsName name)
    (hFirst : ∀ unit ∈ imports.units,
      Text.StandsFirstAfter separator.toList unit.toList)
    {edge : Edge} (hEdge : edge ∈ imports.edges) :
    splitEdge? separator (Table.edgeRecord separator edge) = some edge := by
  have hImports := ImportMap.mem_edges_iff.1 hEdge
  have hSource := hNames edge.source (ImportMap.mem_names_iff.2 (.inl hImports.mem_units))
  have hTarget := hNames edge.target (ImportMap.mem_names_iff.2 (.inr ⟨_, hImports⟩))
  exact splitEdge?_edgeRecord (hFirst _ hImports.mem_units) hSource.notBlank hTarget.notBlank

/-- The record of every import is one line. -/
theorem isLine_edgeRecord_of_mem_edges {separator : String}
    (hNames : ∀ name ∈ imports.names, Table.IsName name) (hSeparator : '\n' ∉ separator.toList)
    {edge : Edge} (hEdge : edge ∈ imports.edges) :
    Text.IsLine (Table.edgeRecord separator edge).toList := by
  have hImports := ImportMap.mem_edges_iff.1 hEdge
  have hSource := hNames edge.source (ImportMap.mem_names_iff.2 (.inl hImports.mem_units))
  have hTarget := hNames edge.target (ImportMap.mem_names_iff.2 (.inr ⟨_, hImports⟩))
  exact Table.isLine_edgeRecord hSeparator hSource.line.noFeed hTarget.line hTarget.toList_ne_nil

/-- The document for the tables of an import map, whatever their order, holds one node for every
    name and one edge for every import. -/
theorem render_of_write_tables {fs nodesWritten written : FileSystem}
    {nodeTable edgeTable nodeSeparator recordSeparator : String} {nodes : List String}
    {edges : List Edge}
    (hNodeEnd : Text.IsLineEnd nodeSeparator.toList)
    (hRecordEnd : Text.IsLineEnd recordSeparator.toList)
    (hSeparator : '\n' ∉ style.edgeSeparator.toList)
    (hTemplate : closingTag.toList <:+: style.template.toList)
    (hNames : ∀ name ∈ imports.names, Table.IsName name)
    (hFirst : ∀ unit ∈ imports.units,
      Text.StandsFirstAfter style.edgeSeparator.toList unit.toList)
    (hNodes : nodes.Perm imports.nodes.toList) (hEdges : edges.Perm imports.edges)
    (hFiles : fs.location? nodeTable ≠ fs.location? edgeTable)
    (hWriteNodes : Table.write fs nodeTable (Table.ofNodes nodeSeparator nodes) =
      (nodesWritten, .ok ()))
    (hWriteEdges : Table.write nodesWritten edgeTable
      (Table.ofEdges style.edgeSeparator recordSeparator edges) = (written, .ok ())) :
    ∃ head tail body content,
      Text.cutLast? closingTag.toList style.template.toList = some (head, tail) ∧
      style.render written nodeTable edgeTable = .ok (around head tail body) ∧
      readGraph? body.toList = some content ∧
      (content.nodes : Multiset String) = imports.names.val.map DottedName.shorten ∧
      (content.ends : Multiset (String × String)) = imports.pairs.val.map shortEnds := by
  obtain ⟨head, tail, hCut⟩ := Text.exists_cutLast? hTemplate
  have hName : ∀ name ∈ nodes, Table.IsName name := by
    intro name hMem
    have hNode := ImportMap.mem_nodes_iff.1 (hNodes.mem_iff.1 hMem)
    exact hNames name (ImportMap.mem_names_iff.2 hNode)
  -- both tables come back as they were written
  have hReadNodes : Table.read written nodeTable = .ok nodes := by
    rw [Table.read_first_of_write hWriteNodes hWriteEdges, if_neg hFiles, Table.ofNodes,
      Table.records_ofRecords hNodeEnd fun name hMem => (hName name hMem).line]
  have hReadEdges : Table.read written edgeTable =
      .ok (edges.map (Table.edgeRecord style.edgeSeparator)) := by
    rw [Table.read_of_write hWriteEdges, Table.ofEdges, Table.records_ofRecords hRecordEnd]
    refine List.forall_mem_map.2 fun edge hMem => ?_
    exact isLine_edgeRecord_of_mem_edges hNames hSeparator (hEdges.mem_iff.1 hMem)
  have hSplit := readEdges_edgeRecords edgeTable 1 fun edge hMem =>
    splitEdge?_of_mem_edges hNames hFirst (hEdges.mem_iff.1 hMem)
  refine ⟨head, tail, graph nodes edges, contentOf nodes edges, hCut, ?_,
    readGraph?_graph nodes edges, ?_, ?_⟩
  · simp only [render, hReadNodes, hReadEdges, bind, Except.bind]
    exact (document_eq_ok_iff hCut).2 ⟨edges, hSplit, rfl⟩
  · rw [nodes_contentOf hName, ← ImportMap.coe_nodes, Multiset.map_coe]
    exact Multiset.coe_eq_coe.2 (hNodes.map _)
  · rw [ends_contentOf, ← ImportMap.coe_edges, Multiset.map_coe]
    exact Multiset.coe_eq_coe.2 ((hEdges.map _).map _)

/-! ### A map with a unit that imports something and one that imports nothing -/

section Sample

open FileSystem (IsTopPath)

private def sampleImports : ImportMap :=
  (SortedMap.empty.insert "a.B" (SortedSet.ofList ["c.d.E"])).insert "f" SortedMap.empty

private def sampleStyle : Style := { edgeSeparator := "=>" }

private def sampleNodes : String :=
  Table.ofNodes "\r\n" ["f", "a.B", "c.d.E"]

private def sampleEdges : String :=
  Table.ofEdges "=>" "\n" [⟨"a.B", "c.d.E"⟩]

private def withSampleNodes : FileSystem :=
  FileSystem.bare.put ["nodes.csv"] (.file sampleNodes.toUTF8)

private def withSampleTables : FileSystem :=
  withSampleNodes.put ["edges.csv"] (.file sampleEdges.toUTF8)

private theorem isName_of_mem_sampleImports :
    ∀ name ∈ sampleImports.names, Table.IsName name := by
  have hNames : sampleImports.names = {"a.B", "c.d.E", "f"} := by decide +kernel
  rw [hNames]
  simp only [Finset.mem_insert, Finset.mem_singleton]
  rintro name (rfl | rfl | rfl) <;> exact ⟨⟨by decide, by decide⟩, by decide⟩

theorem render_of_write_tables_sample :
    ∃ head tail body content,
      Text.cutLast? closingTag.toList sampleStyle.template.toList = some (head, tail) ∧
      sampleStyle.render withSampleTables "/nodes.csv" "/edges.csv" =
        .ok (around head tail body) ∧
      readGraph? body.toList = some content ∧
      (content.nodes : Multiset String) = sampleImports.names.val.map DottedName.shorten ∧
      (content.ends : Multiset (String × String)) = sampleImports.pairs.val.map shortEnds := by
  have hNodesPath : IsTopPath "/nodes.csv" "nodes.csv" := by decide
  have hEdgesPath : IsTopPath "/edges.csv" "edges.csv" := by decide
  have hBare (step : String) : FileSystem.bare.nodeAt? [step] = none := rfl
  have hFree : withSampleNodes.nodeAt? ["edges.csv"] = none := by
    rw [withSampleNodes, FileSystem.nodeAt?_put (by decide), if_neg (by decide)]
    rfl
  have hFiles :
      FileSystem.bare.location? "/nodes.csv" ≠ FileSystem.bare.location? "/edges.csv" := by
    rw [FileSystem.location?, FileSystem.location?, hNodesPath.resolve (by simp [hBare]),
      hEdgesPath.resolve (by simp [hBare])]
    decide
  have hWriteNodes : Table.write FileSystem.bare "/nodes.csv"
      (Table.ofNodes "\r\n" ["f", "a.B", "c.d.E"]) = (withSampleNodes, .ok ()) :=
    Table.write_top rfl hNodesPath rfl _
  have hWriteEdges : Table.write withSampleNodes "/edges.csv"
      (Table.ofEdges "=>" "\n" [⟨"a.B", "c.d.E"⟩]) = (withSampleTables, .ok ()) :=
    Table.write_top rfl hEdgesPath hFree _
  have hFirst : ∀ unit ∈ sampleImports.units,
      Text.StandsFirstAfter sampleStyle.edgeSeparator.toList unit.toList := by
    decide +kernel
  exact render_of_write_tables (.inr (by decide)) (.inl (by decide)) (by decide)
    closingTag_infix_emptyDocument isName_of_mem_sampleImports hFirst (by decide +kernel)
    (by decide +kernel) hFiles hWriteNodes hWriteEdges

end Sample

end Style

end JavaImports.Graphml
