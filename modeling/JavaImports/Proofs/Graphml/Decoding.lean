-- SUMMARY: What a document was rendered from can be told from the document.
import JavaImports.Proofs.Graphml.Export

/-! # Decoding documents

A template is the same before and after every graph that is put into it, so the graph can be cut out
of a document. What is read from it are the short forms of the names in the records, in their order.
No record gets an element in or changes one: whatever it holds, angle brackets only come from the
elements, and there are as many elements as records. -/

namespace JavaImports.Graphml

/-! ## Records -/

/-- The short forms of what stands before and after the first separator of a record. -/
def shortParts? (separator record : String) : Option (String × String) :=
  (Text.splitFirst? separator.toList record.toList).map fun parts =>
    shortEnds (String.ofList parts.1, String.ofList parts.2)

theorem shortParts?_of_splitEdge? {separator record : String} {edge : Edge}
    (h : splitEdge? separator record = some edge) :
    shortParts? separator record = some (shortEnds (edge.source, edge.target)) := by
  unfold splitEdge? at h
  split at h
  · cases h
  · next source target hSplit =>
    split at h
    · cases h
    · cases h
      simp [shortParts?, hSplit]

/-- The ends of the edges in a graph come from the records of these edges. -/
theorem ends_contentOf_of_readEdges {separator tablePath : String} {line : Nat}
    {records : List String} {edges : List Edge}
    (h : readEdges separator tablePath line records = .ok edges) (nodes : List String) :
    (contentOf nodes edges).ends.map some = records.map (shortParts? separator) := by
  have hRecords := readEdges_eq_ok_iff.1 h
  rw [ends_contentOf]
  clear h
  induction records generalizing edges with
  | nil => cases edges <;> simp_all
  | cons record more ih =>
    cases edges with
    | nil => cases hRecords
    | cons edge rest =>
      obtain ⟨hRecord, hMore⟩ := List.cons.inj hRecords
      simp only [List.map_cons, ih hMore, shortParts?_of_splitEdge? hRecord]

theorem length_of_readEdges {separator tablePath : String} {line : Nat} {records : List String}
    {edges : List Edge} (h : readEdges separator tablePath line records = .ok edges) :
    edges.length = records.length := by
  simpa using (congrArg List.length (readEdges_eq_ok_iff.1 h)).symm

/-- The edges in a graph are numbered in their order. -/
theorem ids_contentOf (nodes : List String) (edges : List Edge) :
    (contentOf nodes edges).edges.map (·.id) = (List.range edges.length).map edgeId := by
  have hId : (fun entry : EdgeEntry => entry.id) ∘ (fun item : Edge × Nat =>
      edgeEntry item.2 item.1) = edgeId ∘ Prod.snd := rfl
  rw [contentOf, List.map_map, hId, ← List.map_map, List.zipIdx_map_snd, List.range_eq_range']

/-! ## Angle brackets -/

section Brackets

variable {bracket : Char}

theorem count_escape (hBracket : bracket ∈ ['<', '>']) (text : String) :
    (escape text).toList.count bracket = 0 := by
  have hChar (c : Char) : bracket ∉ escapeChar c := by
    unfold escapeChar
    simp only [List.mem_cons, List.not_mem_nil, or_false] at hBracket
    rcases hBracket with rfl | rfl <;> split <;> simp_all [eq_comm]
  rw [List.count_eq_zero]
  simp [escape, hChar]

theorem count_edgeId (hBracket : bracket ∈ ['<', '>']) (number : Nat) :
    (edgeId number).toList.count bracket = 0 := by
  simp only [List.mem_cons, List.not_mem_nil, or_false] at hBracket
  rw [List.count_eq_zero]
  rcases hBracket with rfl | rfl
  · exact not_mem_edgeId (by decide) (by decide) number
  · exact not_mem_edgeId (by decide) (by decide) number

/-- The element of a node is one tag. -/
theorem count_nodeElement (hBracket : bracket ∈ ['<', '>']) (name : String) :
    (nodeElement name).toList.count bracket = 1 := by
  have hFront : "    <node id=\"".toList.count bracket + "\"/>\n".toList.count bracket = 1 := by
    simp only [List.mem_cons, List.not_mem_nil, or_false] at hBracket
    rcases hBracket with rfl | rfl <;> decide
  unfold nodeElement nodeId
  simp only [String.toList_append, List.count_append, count_escape hBracket]
  omega

/-- The element of an edge is four tags, two of them for the weight. -/
theorem count_edgeElement (hBracket : bracket ∈ ['<', '>']) (number : Nat) (edge : Edge) :
    (edgeElement number edge).toList.count bracket = 4 := by
  have hFixed : "    <edge id=\"".toList.count bracket + " source=\"".toList.count bracket +
      " target=\"".toList.count bracket + edgeBody.toList.count bracket = 4 ∧
      bracket ≠ '"' := by
    simp only [List.mem_cons, List.not_mem_nil, or_false] at hBracket
    rcases hBracket with rfl | rfl <;> decide
  have hText := toList_edgeElement_append number edge []
  rw [List.append_nil] at hText
  rw [hText]
  simp only [List.count_append, count_edgeId hBracket, count_escape hBracket,
    List.count_cons_of_ne hFixed.2.symm, List.count_nil]
  omega

theorem count_edgeElements (hBracket : bracket ∈ ['<', '>']) (number : Nat) (edges : List Edge) :
    (edgeElements number edges).toList.count bracket = 4 * edges.length := by
  induction edges generalizing number with
  | nil => rfl
  | cons edge more ih =>
    simp only [edgeElements, String.toList_append, List.count_append, ih,
      count_edgeElement hBracket, List.length_cons]
    omega

theorem count_nodeElements (hBracket : bracket ∈ ['<', '>']) (nodes : List String) :
    (nodeElements nodes).toList.count bracket =
      (nodes.filter fun node => !Unicode.isBlankText node).length := by
  rw [toList_nodeElements, List.count_flatMap]
  generalize nodes.filter (fun node => !Unicode.isBlankText node) = shown
  induction shown with
  | nil => rfl
  | cons node more ih =>
    simp only [List.map_cons, List.sum_cons, Function.comp_apply, count_nodeElement hBracket,
      List.length_cons, ih]
    omega

/-- All angle brackets of a graph belong to its elements: there are three tags beside those of the
    nodes and edges. -/
theorem count_graph (hBracket : bracket ∈ ['<', '>']) (nodes : List String) (edges : List Edge) :
    (graph nodes edges).toList.count bracket =
      3 + (contentOf nodes edges).nodes.length + 4 * (contentOf nodes edges).edges.length := by
  have hFrame : graphStart.toList.count bracket + graphEnd.toList.count bracket = 3 := by
    simp only [List.mem_cons, List.not_mem_nil, or_false] at hBracket
    rcases hBracket with rfl | rfl <;> decide
  unfold graph
  simp only [String.toList_append, List.count_append, count_nodeElements hBracket,
    count_edgeElements hBracket, contentOf, List.length_map, List.length_zipIdx]
  omega

end Brackets

/-! ## Documents -/

namespace Style

/-- A document is the template with a graph in it, and reading the graph gives the short forms of
    the names in the records: those of the nodes that are not blank, and those of the two parts of
    every edge, numbered in order. So two documents in one template are only equal if their records
    have the same short forms. -/
theorem document_decodes {style : Style} {nodes records : List String}
    {edgeTable document : String}
    (h : style.document nodes records edgeTable = .ok document) :
    (∃ head tail body content,
      Text.cutLast? closingTag.toList style.template.toList = some (head, tail) ∧
      document = around head tail body ∧
      readGraph? body.toList = some content ∧
      content.nodes =
        (nodes.filter fun node => !Unicode.isBlankText node).map DottedName.shorten ∧
      content.edges.map (·.id) = (List.range records.length).map edgeId ∧
      content.ends.map some = records.map (shortParts? style.edgeSeparator) ∧
      ∀ bracket ∈ ['<', '>'],
        body.toList.count bracket = 3 + content.nodes.length + 4 * content.edges.length) ∧
    ∀ (other : Style) (otherNodes otherRecords : List String) (otherTable : String),
      other.template = style.template → other.edgeSeparator = style.edgeSeparator →
      other.document otherNodes otherRecords otherTable = .ok document →
      (otherNodes.filter fun node => !Unicode.isBlankText node).map DottedName.shorten =
        (nodes.filter fun node => !Unicode.isBlankText node).map DottedName.shorten ∧
      otherRecords.map (shortParts? style.edgeSeparator) =
        records.map (shortParts? style.edgeSeparator) := by
  obtain ⟨head, tail, hCut⟩ := exists_cutLast?_of_document h
  obtain ⟨edges, hEdges, hDocument⟩ := (document_eq_ok_iff hCut).1 h
  refine ⟨⟨head, tail, graph nodes edges, contentOf nodes edges, hCut, hDocument,
    readGraph?_graph nodes edges, rfl, ?_, ends_contentOf_of_readEdges hEdges nodes, ?_⟩, ?_⟩
  · rw [ids_contentOf, length_of_readEdges hEdges]
  · intro bracket hBracket
    exact count_graph hBracket nodes edges
  · intro other otherNodes otherRecords otherTable hTemplate hSeparator hOther
    rw [← hTemplate] at hCut
    obtain ⟨otherEdges, hOtherEdges, hOtherDocument⟩ := (document_eq_ok_iff hCut).1 hOther
    -- the graphs in both documents are the same text, and so hold the same content
    have hGraph : graph otherNodes otherEdges = graph nodes edges :=
      around_inj.1 (hOtherDocument.symm.trans hDocument)
    have hContent : contentOf otherNodes otherEdges = contentOf nodes edges := by
      have hRead := readGraph?_graph otherNodes otherEdges
      rw [hGraph, readGraph?_graph] at hRead
      exact (Option.some.inj hRead).symm
    rw [← ends_contentOf_of_readEdges hEdges nodes, ← hContent, ← hSeparator,
      ends_contentOf_of_readEdges hOtherEdges otherNodes]
    exact ⟨congrArg Content.nodes hContent, rfl⟩

private def hostileStyle : Style :=
  { template := "<g></graphml></graphml>", edgeSeparator := "=>" }

private def hostileDocument : String :=
  "<g></graphml>\n" ++ graphStart ++ "    <node id=\"a&quot;/&gt;&lt;b&gt;.c&amp;lt;\"/>\n" ++
  "    <edge id=\"e0\" source=\"y.z&apos;\" target=\"\n&lt;node id=&quot;q&quot;/&gt;.w=&gt;\">\n" ++
  "      <data key=\"d1\">1.0</data>\n" ++ "    </edge>\n" ++ graphEnd ++ "</graphml>"

/-- Names that look like tags, entities and separators come back as they are, but for the packages
    that their short forms leave out. -/
theorem document_decodes_hostile :
    hostileStyle.document ["p.a\"/><b>.c&lt;", " "] ["x.y.z'=>\n<node id=\"q\"/>.w=>"] "edges.csv" =
      .ok hostileDocument ∧
    hostileStyle.document ["q.a\"/><b>.c&lt;"] ["y.z'=>\n<node id=\"q\"/>.w=>"] "edges.csv" =
      .ok hostileDocument ∧
    (∃ head tail body content,
      Text.cutLast? closingTag.toList hostileStyle.template.toList = some (head, tail) ∧
      hostileDocument = around head tail body ∧ readGraph? body.toList = some content ∧
      content.nodes = ["a\"/><b>.c&lt;"] ∧ content.edges.map (·.id) = ["e0"] ∧
      content.ends.map some = [some ("y.z'", "\n<node id=\"q\"/>.w=>")]) ∧
    ["y.z'=>\n<node id=\"q\"/>.w=>"].map (shortParts? "=>") =
      ["x.y.z'=>\n<node id=\"q\"/>.w=>"].map (shortParts? "=>") := by
  have hDocument : hostileStyle.document ["p.a\"/><b>.c&lt;", " "]
      ["x.y.z'=>\n<node id=\"q\"/>.w=>"] "edges.csv" = .ok hostileDocument := by
    decide +kernel
  have hOther : hostileStyle.document ["q.a\"/><b>.c&lt;"]
      ["y.z'=>\n<node id=\"q\"/>.w=>"] "edges.csv" = .ok hostileDocument := by
    decide +kernel
  obtain ⟨⟨head, tail, body, content, hCut, hBody, hRead, hNodes, hIds, hEnds, -⟩, hUnique⟩ :=
    document_decodes hDocument
  refine ⟨hDocument, hOther, ⟨head, tail, body, content, hCut, hBody, hRead, ?_, ?_, ?_⟩, ?_⟩
  · rw [hNodes]
    decide +kernel
  · rw [hIds]
    decide +kernel
  · rw [hEnds]
    decide +kernel
  · exact (hUnique _ _ _ _ rfl rfl hOther).2

end Style

end JavaImports.Graphml
