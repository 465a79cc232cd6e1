-- SUMMARY: Which nodes of a document have identifiers of their own.
import JavaImports.Proofs.DottedName
import JavaImports.Proofs.Graphml.Failures

/-! # Identifiers of nodes

A node is identified by the short form of its name. Escaping keeps short forms apart, but a short
form is all that is left of a name: nodes from different packages have the same identifier if their
names end in the same two segments. An end of an edge stands for every node that has its
identifier. -/

namespace JavaImports.Graphml

open DottedName (EndAlike)

/-- Names have different short forms exactly if no two of them end in the same two segments. -/
theorem nodup_map_shorten_iff {names : List String} (h : names.Nodup) :
    (names.map DottedName.shorten).Nodup ↔
      ∀ a ∈ names, ∀ b ∈ names, EndAlike a b → a = b := by
  rw [List.nodup_map_iff_inj_on h]
  simp only [DottedName.shorten_eq_iff]
  refine forall₄_congr fun a _ b _ => ?_
  exact ⟨fun hInj hAlike => hInj (.inr hAlike), fun hInj hShort => hShort.elim id hInj⟩

/-- The built-in template has no nodes of its own. -/
theorem not_node_infix_emptyDocument : ¬ "<node".toList <:+: emptyDocument.toList := by
  have hPlain {text : String} (h : '<' ∉ text.toList) :
      Text.StartsNowhereIn "<node".toList text.toList := by
    have hTag : "<node".toList = '<' :: "node".toList := by decide
    rw [hTag]
    exact .of_not_mem h
  have hDeclaration : Text.StartsNowhereIn "<node".toList
      "<?xml version=\"1.0\" encoding=\"UTF-8\"?>\n".toList := by
    decide +kernel
  have hRoot : Text.StartsNowhereIn "<node".toList
      "<graphml xmlns=\"http://graphml.graphdrawing.org/xmlns\"\n".toList := by
    decide +kernel
  have hEnd : Text.StartsNowhereIn "<node".toList "</graphml>\n".toList := by decide +kernel
  have hWhole : Text.StartsNowhereIn "<node".toList emptyDocument.toList := by
    unfold emptyDocument
    simp only [String.toList_append]
    -- the attributes of the root are texts without a tag
    refine .append (.append (.append (.append (.append hDeclaration hRoot) ?_) ?_) ?_) hEnd
    all_goals exact hPlain (by decide +kernel)
  exact hWhole.not_infix (by decide)

namespace Style

/-- The nodes of the graph in a document have different identifiers exactly if no two of their names
    end in the same two segments, and the built-in template adds no nodes. An end of an edge stands
    for the nodes with its own name, and for those whose names end in the same two segments. -/
theorem nodup_nodes_iff {style : Style} {nodes records : List String}
    {edgeTable document : String} (hDistinct : nodes.Nodup)
    (hNodes : ∀ node ∈ nodes, Unicode.isBlankText node = false)
    (h : style.document nodes records edgeTable = .ok document) :
    ∃ head tail body content,
      Text.cutLast? closingTag.toList style.template.toList = some (head, tail) ∧
      document = around head tail body ∧ readGraph? body.toList = some content ∧
      (style.template = emptyDocument → ¬ "<node".toList <:+: head ++ tail) ∧
      content.nodes = nodes.map DottedName.shorten ∧
      (content.nodes.Nodup ↔ ∀ a ∈ nodes, ∀ b ∈ nodes, EndAlike a b → a = b) ∧
      ∀ (index : Nat) (record : String), records[index]? = some record → ∃ edge entry,
        splitEdge? style.edgeSeparator record = some edge ∧
        content.edges[index]? = some entry ∧
        ∀ (position : Nat) (node : String), nodes[position]? = some node →
          (content.nodes[position]? = some entry.source ↔
            node = edge.source ∨ EndAlike node edge.source) ∧
          (content.nodes[position]? = some entry.target ↔
            node = edge.target ∨ EndAlike node edge.target) := by
  obtain ⟨head, tail, hCut⟩ := exists_cutLast?_of_document h
  obtain ⟨edges, hEdges, hDocument⟩ := (document_eq_ok_iff hCut).1 h
  have hContent : (contentOf nodes edges).nodes = nodes.map DottedName.shorten := by
    have hAll : nodes.filter (fun node => !Unicode.isBlankText node) = nodes :=
      List.filter_eq_self.2 fun node hNode => by simp [hNodes node hNode]
    simp only [contentOf, hAll]
  refine ⟨head, tail, graph nodes edges, contentOf nodes edges, hCut, hDocument,
    readGraph?_graph nodes edges, fun hTemplate => ?_, hContent, ?_, ?_⟩
  · rw [← (Text.eq_append_of_cutLast? hCut).1, hTemplate]
    exact not_node_infix_emptyDocument
  · rw [hContent]
    exact nodup_map_shorten_iff hDistinct
  · intro index record hRecord
    obtain ⟨edge, hEdge, hEntry⟩ := getElem?_edges_contentOf hEdges nodes hRecord
    refine ⟨edge, edgeEntry index edge, hEdge, hEntry, fun position node hNode => ?_⟩
    simp [hContent, hNode, edgeEntry, DottedName.shorten_eq_iff]

private def rootOnly : Style := { template := "</graphml>" }

private def apartDocument : String :=
  graphStart ++ "    <node id=\"a.B\"/>\n" ++ "    <node id=\"b.B\"/>\n" ++
  "    <node id=\"B\"/>\n" ++ "    <edge id=\"e0\" source=\"a.B\" target=\"b.B\">\n" ++
  "      <data key=\"d1\">1.0</data>\n" ++ "    </edge>\n" ++ graphEnd ++ "</graphml>"

/-- Names that differ within their last two segments have different identifiers, and an end of an
    edge stands for one of them. -/
theorem nodup_nodes_iff_apart :
    ["p.a.B", "p.b.B", "B"].Nodup ∧
    (∀ node ∈ ["p.a.B", "p.b.B", "B"], Unicode.isBlankText node = false) ∧
    rootOnly.document ["p.a.B", "p.b.B", "B"] ["q.a.B;b.B"] "edges.csv" = .ok apartDocument ∧
    ∃ head tail body content entry,
      apartDocument = around head tail body ∧ readGraph? body.toList = some content ∧
      content.nodes.Nodup ∧ ¬ EndAlike "p.a.B" "p.b.B" ∧ content.edges[0]? = some entry ∧
      content.nodes[0]? = some entry.source ∧ content.nodes[0]? ≠ some entry.target := by
  have hDistinct : ["p.a.B", "p.b.B", "B"].Nodup := by decide
  have hNodes : ∀ node ∈ ["p.a.B", "p.b.B", "B"], Unicode.isBlankText node = false := by decide
  have hDocument : rootOnly.document ["p.a.B", "p.b.B", "B"] ["q.a.B;b.B"] "edges.csv" =
      .ok apartDocument := by
    decide +kernel
  have hSplit : splitEdge? rootOnly.edgeSeparator "q.a.B;b.B" = some ⟨"q.a.B", "b.B"⟩ := by decide
  obtain ⟨head, tail, body, content, -, hBody, hRead, -, hShort, hIff, hEnds⟩ :=
    nodup_nodes_iff hDistinct hNodes hDocument
  obtain ⟨edge, entry, hEdge, hEntry, hStands⟩ := hEnds 0 "q.a.B;b.B" rfl
  obtain rfl := Option.some.inj (hSplit.symm.trans hEdge)
  have hNodup : content.nodes.Nodup := by
    rw [hShort]
    decide
  refine ⟨hDistinct, hNodes, hDocument, head, tail, body, content, entry, hBody, hRead, hNodup, ?_,
    hEntry, ?_, ?_⟩
  · intro hAlike
    exact absurd (hIff.1 hNodup _ (by simp) _ (by simp) hAlike) (by decide)
  · exact (hStands 0 "p.a.B" rfl).1.2 (DottedName.shorten_eq_iff.1 (by decide))
  · rw [Ne, (hStands 0 "p.a.B" rfl).2, ← DottedName.shorten_eq_iff]
    decide

/-- Two classes of the same name in packages whose last segments are the same have one
    identifier. -/
theorem nodes_share_identifier :
    ["a.x.Y", "b.x.Y"].Nodup ∧ (∀ node ∈ ["a.x.Y", "b.x.Y"], Unicode.isBlankText node = false) ∧
    ∃ head tail document content,
      Text.cutLast? closingTag.toList ({} : Style).template.toList = some (head, tail) ∧
      ({} : Style).document ["a.x.Y", "b.x.Y"] ["c.Z;a.x.Y"] "edges.csv" = .ok document ∧
      document = around head tail (graph ["a.x.Y", "b.x.Y"] [⟨"c.Z", "a.x.Y"⟩]) ∧
      readGraph? (graph ["a.x.Y", "b.x.Y"] [⟨"c.Z", "a.x.Y"⟩]).toList = some content ∧
      content.nodes = ["x.Y", "x.Y"] ∧ ¬ content.nodes.Nodup := by
  have hDistinct : ["a.x.Y", "b.x.Y"].Nodup := by decide
  have hNodes : ∀ node ∈ ["a.x.Y", "b.x.Y"], Unicode.isBlankText node = false := by decide
  have hEdges : readEdges ";" "edges.csv" 1 ["c.Z;a.x.Y"] = .ok [⟨"c.Z", "a.x.Y"⟩] := by decide
  have hSame : (contentOf ["a.x.Y", "b.x.Y"] [⟨"c.Z", "a.x.Y"⟩]).nodes = ["x.Y", "x.Y"] := by
    decide +kernel
  have hShared : ¬ (contentOf ["a.x.Y", "b.x.Y"] [⟨"c.Z", "a.x.Y"⟩]).nodes.Nodup := by
    rw [hSame]
    decide
  have hTemplate : closingTag.toList <:+: ({} : Style).template.toList :=
    closingTag_infix_emptyDocument
  obtain ⟨head, tail, hCut⟩ := Text.exists_cutLast? hTemplate
  have hDocument : ({} : Style).document ["a.x.Y", "b.x.Y"] ["c.Z;a.x.Y"] "edges.csv" =
      .ok (around head tail (graph ["a.x.Y", "b.x.Y"] [⟨"c.Z", "a.x.Y"⟩])) :=
    (document_eq_ok_iff hCut).2 ⟨_, hEdges, rfl⟩
  exact ⟨hDistinct, hNodes, head, tail, _, _, hCut, hDocument, rfl, readGraph?_graph .., hSame,
    hShared⟩

end Style

end JavaImports.Graphml
