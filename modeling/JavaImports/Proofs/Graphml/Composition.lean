-- SUMMARY: A document is a template again, and the graphs that are put into it follow one another.
import JavaImports.Proofs.Graphml.Failures

/-! # Documents as templates

A graph is put right before the last closing tag of a template. No closing tag of the root starts
in the graph: angle brackets in names are escaped, and the graph closes elements of its own only. So
the last closing tag of a document is the one of its template, and a graph that is put into the
document stands right behind the graph that is there already. -/

namespace JavaImports.Graphml

/-! ## Texts that do not close the root -/

/-- No closing tag of the root starts in a text, whatever stands behind the text. -/
def LeavesRootOpen (text : String) : Prop :=
  Text.StartsNowhereIn closingTag.toList text.toList

instance (text : String) : Decidable (LeavesRootOpen text) :=
  inferInstanceAs (Decidable (Text.StartsNowhereIn ..))

namespace LeavesRootOpen

theorem append {text more : String} (h : LeavesRootOpen text) (hMore : LeavesRootOpen more) :
    LeavesRootOpen (text ++ more) := by
  unfold LeavesRootOpen
  rw [String.toList_append]
  exact Text.StartsNowhereIn.append h hMore

theorem of_not_mem {text : String} (h : '<' ∉ text.toList) : LeavesRootOpen text := by
  have hTag : closingTag.toList = '<' :: "/graphml>".toList := by decide
  unfold LeavesRootOpen
  rw [hTag]
  exact .of_not_mem h

theorem not_infix {text : String} (h : LeavesRootOpen text) :
    ¬ closingTag.toList <:+: text.toList :=
  Text.StartsNowhereIn.not_infix h (by decide)

end LeavesRootOpen

theorem leavesRootOpen_nodeId (name : String) : LeavesRootOpen (nodeId name) :=
  .of_not_mem (List.count_eq_zero.1 (count_escape (by simp) _))

theorem leavesRootOpen_edgeId (number : Nat) : LeavesRootOpen (edgeId number) :=
  .of_not_mem (not_mem_edgeId (by decide) (by decide) number)

theorem leavesRootOpen_nodeElement (name : String) : LeavesRootOpen (nodeElement name) := by
  have hFront : LeavesRootOpen "    <node id=\"" := by decide
  have hBack : LeavesRootOpen "\"/>\n" := by decide
  exact (hFront.append (leavesRootOpen_nodeId name)).append hBack

theorem leavesRootOpen_edgeElement (number : Nat) (edge : Edge) :
    LeavesRootOpen (edgeElement number edge) := by
  have hText := toList_edgeElement_append number edge []
  have hQuote : Text.StartsNowhereIn closingTag.toList ['"'] := by decide
  have hFront : LeavesRootOpen "    <edge id=\"" := by decide
  have hSource : LeavesRootOpen " source=\"" := by decide
  have hTarget : LeavesRootOpen " target=\"" := by decide
  have hBody : LeavesRootOpen edgeBody := by decide
  unfold LeavesRootOpen
  rw [List.append_nil] at hText
  rw [hText, List.append_nil]
  refine .append hFront (.append (leavesRootOpen_edgeId number) (hQuote.append ?_))
  refine .append hSource (.append (leavesRootOpen_nodeId edge.source) (hQuote.append ?_))
  exact .append hTarget (.append (leavesRootOpen_nodeId edge.target) (hQuote.append hBody))

/-- No closing tag of the root starts in a graph, whatever the names in it. -/
theorem leavesRootOpen_graph (nodes : List String) (edges : List Edge) :
    LeavesRootOpen (graph nodes edges) := by
  have hStart : LeavesRootOpen graphStart := by decide +kernel
  have hEnd : LeavesRootOpen graphEnd := by decide
  have hNodes : LeavesRootOpen (nodeElements nodes) := by
    unfold LeavesRootOpen
    rw [toList_nodeElements]
    exact .flatMap fun name _ => leavesRootOpen_nodeElement name
  have hEdges : LeavesRootOpen (edgeElements 0 edges) := by
    unfold LeavesRootOpen
    rw [toList_edgeElements]
    exact .flatMap fun item _ => leavesRootOpen_edgeElement item.2 item.1
  exact ((hStart.append hNodes).append hEdges).append hEnd

/-! ## Whole lines -/

/-- The line feed that a text lacks if it ends within a line. -/
def missingFeed (text : List Char) : List Char :=
  if text ≠ [] ∧ text.getLast? ≠ some '\n' then ['\n'] else []

theorem endLine_eq_append (text : List Char) : endLine text = text ++ missingFeed text := by
  unfold endLine missingFeed
  by_cases hEmpty : text = []
  · simp [hEmpty]
  · by_cases hFeed : text.getLast? = some '\n' <;> simp [hEmpty, hFeed]

/-- A text that ends in a graph ends in a whole line. -/
theorem missingFeed_append_graph (text : List Char) (nodes : List String) (edges : List Edge) :
    missingFeed (text ++ (graph nodes edges).toList) = [] := by
  have hEnd : graphEnd.toList.getLast? = some '\n' := by decide
  have hLast : (text ++ (graph nodes edges).toList).getLast? = some '\n' := by
    simp only [graph, String.toList_append, List.getLast?_append, hEnd, Option.some_or]
  exact if_neg fun h => h.2 hLast

/-! ## Records -/

/-- The graph for the records of two tables. -/
def graphOf (separator : String) (nodes records : List String) : String :=
  graph nodes (records.filterMap (splitEdge? separator))

/-- Records are read if none of them is malformed. -/
theorem readEdges_eq_ok_iff_filterMap {separator tablePath : String} {line : Nat}
    {records : List String} {edges : List Edge} :
    readEdges separator tablePath line records = .ok edges ↔
      (∀ record ∈ records, ¬ IsMalformed separator record) ∧
        edges = records.filterMap (splitEdge? separator) := by
  rw [readEdges_eq_ok_iff]
  simp only [← splitEdge?_eq_none_iff]
  induction records generalizing edges with
  | nil => cases edges <;> simp
  | cons record more ih =>
    cases hRecord : splitEdge? separator record with
    | none => cases edges <;> simp [hRecord]
    | some edge =>
      cases edges with
      | nil => simp [hRecord]
      | cons first rest =>
        rw [List.map_cons, List.map_cons, List.cons.injEq, ih, List.forall_mem_cons,
          List.filterMap_cons_some hRecord, List.cons.injEq, hRecord, Option.some.injEq]
        constructor
        · rintro ⟨rfl, hMore, hRest⟩
          exact ⟨⟨nofun, hMore⟩, rfl, hRest⟩
        · rintro ⟨⟨-, hMore⟩, rfl, hRest⟩
          exact ⟨rfl, hMore, hRest⟩

/-! ## Documents -/

namespace Style

/-- A document is rendered if no record is malformed. It is the template with the graph before its
    last closing tag. -/
theorem document_eq_ok_iff_graphOf {style : Style} {head tail : List Char}
    (hTemplate : style.template.toList = head ++ tail)
    (hLast : Text.IsLastPlace closingTag.toList head tail) {nodes records : List String}
    {edgeTable document : String} :
    style.document nodes records edgeTable = .ok document ↔
      (∀ record ∈ records, ¬ IsMalformed style.edgeSeparator record) ∧
        document.toList = head ++ missingFeed head ++
          (graphOf style.edgeSeparator nodes records).toList ++ tail := by
  rw [document_eq_ok_iff (Text.cutLast?_eq_some_iff.2 ⟨hTemplate, hLast⟩)]
  simp only [readEdges_eq_ok_iff_filterMap, and_assoc, exists_and_left, exists_eq_left]
  rw [← String.toList_inj]
  simp [around, endLine_eq_append, graphOf]

/-- A document consists of the part of the template before its last closing tag, a line feed if that
    part ends within a line, the graph of the records, and the rest of the template. The closing tag
    that the rest begins with is the last one of the document, and none is in the graph. So the
    document of other records with this document as template has both graphs, one right behind the
    other. -/
theorem document_again {style : Style} {nodes records : List String} {edgeTable document : String}
    (h : style.document nodes records edgeTable = .ok document) :
    ∃ head tail,
      style.template.toList = head ++ tail ∧ Text.IsLastPlace closingTag.toList head tail ∧
      document.toList = head ++ missingFeed head ++
        (graphOf style.edgeSeparator nodes records).toList ++ tail ∧
      ¬ closingTag.toList <:+: (graphOf style.edgeSeparator nodes records).toList ∧
      Text.IsLastPlace closingTag.toList
        (head ++ missingFeed head ++ (graphOf style.edgeSeparator nodes records).toList) tail ∧
      ∀ (other : Style) (otherNodes otherRecords : List String) (otherTable again : String),
        other.template = document →
        (other.document otherNodes otherRecords otherTable = .ok again ↔
          (∀ record ∈ otherRecords, ¬ IsMalformed other.edgeSeparator record) ∧
            again.toList = head ++ missingFeed head ++
              (graphOf style.edgeSeparator nodes records).toList ++
              (graphOf other.edgeSeparator otherNodes otherRecords).toList ++ tail) := by
  obtain ⟨head, tail, hCut⟩ := exists_cutLast?_of_document h
  obtain ⟨hTemplate, hLast⟩ := Text.cutLast?_eq_some_iff.1 hCut
  obtain ⟨-, hDocument⟩ := (document_eq_ok_iff_graphOf hTemplate hLast).1 h
  have hBehind := hLast.behind
    (head ++ missingFeed head ++ (graphOf style.edgeSeparator nodes records).toList)
  have hOpen : LeavesRootOpen (graphOf style.edgeSeparator nodes records) :=
    leavesRootOpen_graph nodes _
  refine ⟨head, tail, hTemplate, hLast, hDocument, hOpen.not_infix, hBehind, ?_⟩
  intro other otherNodes otherRecords otherTable again hOther
  have hFeed : missingFeed (head ++ missingFeed head ++
      (graphOf style.edgeSeparator nodes records).toList) = [] :=
    missingFeed_append_graph ..
  rw [document_eq_ok_iff_graphOf (hOther ▸ hDocument) hBehind, hFeed, List.append_nil]

private def openLineStyle : Style :=
  { template := "</graphml><g></graphml> ", edgeSeparator := "=>" }

private def firstDocument : String :=
  "</graphml><g>\n" ++ graphStart ++ "    <node id=\"&lt;/graphml&gt;\"/>\n" ++ graphEnd ++
    "</graphml> "

/-- A name that looks like the closing tag is not taken for it when the document is a template. -/
theorem document_again_closingTag :
    openLineStyle.document ["</graphml>"] [] "edges.csv" = .ok firstDocument ∧
    ∃ head tail again,
      openLineStyle.template.toList = head ++ tail ∧
      Text.IsLastPlace closingTag.toList head tail ∧
      ({ template := firstDocument } : Style).document [] ["a;b"] "edges.csv" = .ok again ∧
      again.toList = head ++ missingFeed head ++ (graphOf "=>" ["</graphml>"] []).toList ++
        (graphOf ";" [] ["a;b"]).toList ++ tail := by
  have hFirst : openLineStyle.document ["</graphml>"] [] "edges.csv" = .ok firstDocument := by
    decide +kernel
  obtain ⟨head, tail, hTemplate, hLast, -, -, -, hAgain⟩ := document_again hFirst
  have hEdge : ∀ record ∈ ["a;b"], ¬ IsMalformed ";" record := by decide
  refine ⟨hFirst, head, tail, String.ofList _, hTemplate, hLast, ?_, String.toList_ofList⟩
  exact (hAgain _ _ _ _ _ rfl).2 ⟨hEdge, String.toList_ofList⟩

end Style

end JavaImports.Graphml
