-- SUMMARY: When rendering fails, with which failure, and what is rendered otherwise.
import JavaImports.Proofs.Graphml.Decoding

/-! # Failures of rendering

Of two tables the one of nodes is read first. The template is looked at before any record, and the
records of edges are read from the first line on, so the first of them that is no edge is the one
that a failure tells of. A blank line is skipped in the table of nodes but is no edge in the other.
Without a failure every line that counts has its element. -/

namespace JavaImports.Graphml

/-! ## Malformed records -/

/-- The records that are no edges. -/
inductive IsMalformed (separator record : String) : Prop where
  /-- The separator stands nowhere in the record. -/
  | noSeparator (h : ¬ separator.toList <:+: record.toList)
  /-- What stands before or after the first separator is blank. -/
  | blankPart (source target : String) (hRecord : record = source ++ separator ++ target)
      (hFirst : Text.StandsFirstAfter separator.toList source.toList)
      (hBlank : Unicode.isBlankText source ∨ Unicode.isBlankText target)

theorem splitEdge?_eq_none_iff {separator record : String} :
    splitEdge? separator record = none ↔ IsMalformed separator record := by
  constructor
  · intro h
    unfold splitEdge? at h
    split at h
    · next hCut =>
      refine .noSeparator fun hInfix => ?_
      obtain ⟨parts, hParts⟩ := Text.exists_splitFirst? hInfix
      rw [hCut] at hParts
      cases hParts
    · next source target hCut =>
      have hRecord : record =
          String.ofList source ++ separator ++ String.ofList target := by
        rw [← String.toList_inj]
        simpa using Text.eq_append_of_splitFirst? hCut
      split at h
      · next hBlank =>
        refine .blankPart _ _ hRecord ?_ ?_
        · simpa using Text.standsFirstAfter_of_splitFirst? hCut
        · simpa [Unicode.isBlankText] using hBlank
      · cases h
  · rintro (hInfix | ⟨source, target, rfl, hFirst, hBlank⟩)
    · unfold splitEdge?
      split
      · rfl
      · next source target hCut =>
        refine absurd ?_ hInfix
        rw [Text.eq_append_of_splitFirst? hCut]
        exact ⟨source, target, rfl⟩
    · have hCut := Text.splitFirst?_append hFirst target.toList
      simp only [splitEdge?, String.toList_append, hCut]
      exact if_pos (by simpa [Unicode.isBlankText] using hBlank)

instance (separator record : String) : Decidable (IsMalformed separator record) :=
  decidable_of_iff _ splitEdge?_eq_none_iff

/-- The first malformed record of a table and its line, counted from one. -/
def IsFirstMalformed (separator : String) (records : List String) (line : Nat) (record : String) :
    Prop :=
  ∃ before after, records = before ++ record :: after ∧ line = before.length + 1 ∧
    IsMalformed separator record ∧ ∀ earlier ∈ before, ¬ IsMalformed separator earlier

section Edges

variable {separator tablePath : String} {records : List String}

/-- Reading edges fails at the first malformed record. -/
theorem readEdges_eq_error_iff {start : Nat} {failure : Failure} :
    readEdges separator tablePath start records = .error failure ↔
      ∃ before record after, records = before ++ record :: after ∧
        failure = .malformedRecord tablePath (start + before.length) record ∧
        IsMalformed separator record ∧ ∀ earlier ∈ before, ¬ IsMalformed separator earlier := by
  induction records generalizing start with
  | nil => simp [readEdges]
  | cons record more ih =>
    simp only [readEdges]
    cases hRecord : splitEdge? separator record with
    | none =>
      have hMalformed := splitEdge?_eq_none_iff.1 hRecord
      constructor
      · intro hFailure
        cases hFailure
        exact ⟨[], record, more, rfl, rfl, hMalformed, by simp⟩
      · rintro ⟨before, first, after, hSplit, rfl, -, hBefore⟩
        cases before with
        | nil =>
          obtain ⟨rfl, rfl⟩ := List.cons.inj hSplit
          rfl
        | cons earlier before =>
          obtain ⟨rfl, -⟩ := List.cons.inj hSplit
          exact absurd hMalformed (hBefore record (List.mem_cons_self ..))
    | some edge =>
      have hEdge : ¬ IsMalformed separator record := by
        rw [← splitEdge?_eq_none_iff, hRecord]
        simp
      have hStep : (do return edge :: (← readEdges separator tablePath (start + 1) more)) =
          Except.error failure ↔
            readEdges separator tablePath (start + 1) more = .error failure := by
        cases readEdges separator tablePath (start + 1) more <;>
          simp [bind, Except.bind, pure, Except.pure]
      rw [hStep, ih]
      constructor
      · rintro ⟨before, first, after, rfl, rfl, hFirst, hBefore⟩
        refine ⟨record :: before, first, after, rfl, ?_, hFirst, ?_⟩
        · rw [List.length_cons, Nat.add_right_comm, Nat.add_assoc]
        · exact List.forall_mem_cons.2 ⟨hEdge, hBefore⟩
      · rintro ⟨before, first, after, hSplit, rfl, hFirst, hBefore⟩
        cases before with
        | nil =>
          obtain ⟨rfl, -⟩ := List.cons.inj hSplit
          exact absurd hFirst hEdge
        | cons earlier before =>
          obtain ⟨-, rfl⟩ := List.cons.inj hSplit
          refine ⟨before, first, after, rfl, ?_, hFirst, (List.forall_mem_cons.1 hBefore).2⟩
          rw [List.length_cons, Nat.add_right_comm, Nat.add_assoc]

/-- What reading a whole table fails with is its first malformed record. -/
theorem readEdges_one_eq_error_iff {failure : Failure} :
    readEdges separator tablePath 1 records = .error failure ↔ ∃ line record,
      IsFirstMalformed separator records line record ∧
        failure = .malformedRecord tablePath line record := by
  rw [readEdges_eq_error_iff]
  constructor
  · rintro ⟨before, record, after, hSplit, rfl, hRecord, hBefore⟩
    exact ⟨_, record, ⟨before, after, hSplit, Nat.add_comm .., hRecord, hBefore⟩, rfl⟩
  · rintro ⟨_, record, ⟨before, after, hSplit, rfl, hRecord, hBefore⟩, rfl⟩
    exact ⟨before, record, after, hSplit, by rw [Nat.add_comm], hRecord, hBefore⟩

end Edges

/-! ## Elements -/

/-- The elements of edges stand in the order of the records, numbered from zero. -/
theorem getElem?_edges_contentOf {separator tablePath : String} {line : Nat}
    {records : List String} {edges : List Edge}
    (h : readEdges separator tablePath line records = .ok edges) (nodes : List String)
    {index : Nat} {record : String} (hRecord : records[index]? = some record) :
    ∃ edge, splitEdge? separator record = some edge ∧
      (contentOf nodes edges).edges[index]? = some (edgeEntry index edge) := by
  have hSame := congrArg (fun found => found[index]?) (readEdges_eq_ok_iff.1 h)
  simp only [List.getElem?_map, hRecord, Option.map_some] at hSame
  cases hEdge : edges[index]? with
  | none => simp [hEdge] at hSame
  | some edge =>
    rw [hEdge, Option.map_some] at hSame
    refine ⟨edge, Option.some.inj hSame, ?_⟩
    simp [contentOf, List.getElem?_map, List.getElem?_zipIdx, hEdge]

theorem exists_parts_of_splitEdge? {separator record : String} {edge : Edge}
    (h : splitEdge? separator record = some edge) :
    record = edge.source ++ separator ++ edge.target ∧
      Text.StandsFirstAfter separator.toList edge.source.toList := by
  unfold splitEdge? at h
  split at h
  · cases h
  · next source target hCut =>
    split at h
    · cases h
    · cases h
      rw [← String.toList_inj]
      exact ⟨by simpa using Text.eq_append_of_splitFirst? hCut,
        by simpa using Text.standsFirstAfter_of_splitFirst? hCut⟩

/-! ## Documents -/

namespace Style

section Documents

variable {style : Style} {nodes records : List String} {edgeTable : String}

/-- A document fails at its template or, if that has a place for the graph, at the first malformed
    record. -/
theorem document_eq_error_iff {failure : Failure} :
    style.document nodes records edgeTable = .error failure ↔
      (¬ closingTag.toList <:+: style.template.toList ∧
        failure = .unclosedTemplate style.templatePath?) ∨
      (closingTag.toList <:+: style.template.toList ∧ ∃ line record,
        IsFirstMalformed style.edgeSeparator records line record ∧
          failure = .malformedRecord edgeTable line record) := by
  rw [← readEdges_one_eq_error_iff]
  unfold Style.document
  cases hCut : Text.cutLast? closingTag.toList style.template.toList with
  | none =>
    have hTemplate := Text.cutLast?_eq_none_iff.1 hCut
    simp [hTemplate, eq_comm]
  | some parts =>
    have hTemplate : closingTag.toList <:+: style.template.toList := by
      by_contra h
      rw [Text.cutLast?_eq_none_iff.2 h] at hCut
      cases hCut
    cases readEdges style.edgeSeparator edgeTable 1 records <;> simp [hTemplate]

end Documents

/-- The failures of rendering two tables, those that come first to light first. -/
inductive Fails (style : Style) (fs : FileSystem) (nodeTable edgeTable : String) : Failure → Prop
  /-- The table of nodes cannot be read. -/
  | nodes {error : FileError} (hNodes : fs.readText nodeTable = .error error) :
    Fails style fs nodeTable edgeTable (.file error nodeTable)
  /-- The table of edges cannot be read. -/
  | edges {nodes : String} {error : FileError} (hNodes : fs.readText nodeTable = .ok nodes)
      (hEdges : fs.readText edgeTable = .error error) :
    Fails style fs nodeTable edgeTable (.file error edgeTable)
  /-- The template has no place for the graph. -/
  | template {nodes edges : String} (hNodes : fs.readText nodeTable = .ok nodes)
      (hEdges : fs.readText edgeTable = .ok edges)
      (hTemplate : ¬ closingTag.toList <:+: style.template.toList) :
    Fails style fs nodeTable edgeTable (.unclosedTemplate style.templatePath?)
  /-- A line in the table of edges is no edge, and none before it is malformed. -/
  | record {nodes edges : String} {line : Nat} {record : String}
      (hNodes : fs.readText nodeTable = .ok nodes) (hEdges : fs.readText edgeTable = .ok edges)
      (hTemplate : closingTag.toList <:+: style.template.toList)
      (hRecord : IsFirstMalformed style.edgeSeparator (Table.records edges) line record) :
    Fails style fs nodeTable edgeTable (.malformedRecord edgeTable line record)

section Tables

variable {style : Style} {fs : FileSystem} {nodeTable edgeTable : String}

theorem render_of_readText {nodes edges : String} (hNodes : fs.readText nodeTable = .ok nodes)
    (hEdges : fs.readText edgeTable = .ok edges) : style.render fs nodeTable edgeTable =
      style.document (Table.records nodes) (Table.records edges) edgeTable := by
  simp only [Style.render, Table.read, hNodes, hEdges, bind, Except.bind]

theorem render_eq_error_iff {failure : Failure} :
    style.render fs nodeTable edgeTable = .error failure ↔
      Fails style fs nodeTable edgeTable failure := by
  constructor
  · intro h
    cases hNodes : fs.readText nodeTable with
    | error error =>
      simp only [Style.render, Table.read, hNodes, bind, Except.bind] at h
      cases h
      exact .nodes hNodes
    | ok nodes =>
      cases hEdges : fs.readText edgeTable with
      | error error =>
        simp only [Style.render, Table.read, hNodes, hEdges, bind, Except.bind] at h
        cases h
        exact .edges hNodes hEdges
      | ok edges =>
        rw [render_of_readText hNodes hEdges, document_eq_error_iff] at h
        rcases h with ⟨hTemplate, rfl⟩ | ⟨hTemplate, line, record, hRecord, rfl⟩
        · exact .template hNodes hEdges hTemplate
        · exact .record hNodes hEdges hTemplate hRecord
  · rintro (hNodes | ⟨hNodes, hEdges⟩ | ⟨hNodes, hEdges, hTemplate⟩ |
      ⟨hNodes, hEdges, hTemplate, hRecord⟩)
    · simp only [Style.render, Table.read, hNodes, bind, Except.bind]
    · simp only [Style.render, Table.read, hNodes, hEdges, bind, Except.bind]
    · rw [render_of_readText hNodes hEdges, document_eq_error_iff]
      exact .inl ⟨hTemplate, rfl⟩
    · rw [render_of_readText hNodes hEdges, document_eq_error_iff]
      exact .inr ⟨hTemplate, _, _, hRecord, rfl⟩

theorem exists_readText_of_render {document : String}
    (h : style.render fs nodeTable edgeTable = .ok document) :
    ∃ nodes edges, fs.readText nodeTable = .ok nodes ∧ fs.readText edgeTable = .ok edges ∧
      style.document (Table.records nodes) (Table.records edges) edgeTable = .ok document := by
  cases hNodes : fs.readText nodeTable with
  | error error => simp [render_eq_error_iff.2 (.nodes hNodes)] at h
  | ok nodes =>
    cases hEdges : fs.readText edgeTable with
    | error error => simp [render_eq_error_iff.2 (.edges hNodes hEdges)] at h
    | ok edges => exact ⟨nodes, edges, rfl, rfl, render_of_readText hNodes hEdges ▸ h⟩

end Tables

/-- Rendering fails with the first thing that is wrong: a table that cannot be read, the template, or
    the first malformed line of the table of edges. If nothing is wrong, the graph in the document
    has one element for every line in the table of nodes that is not blank and one for every line in
    the table of edges, which is numbered from zero, and no other elements. -/
theorem render_outcome (style : Style) (fs : FileSystem) (nodeTable edgeTable : String) :
    (∀ failure, style.render fs nodeTable edgeTable = .error failure ↔
      Fails style fs nodeTable edgeTable failure) ∧
    ((∀ failure, ¬ Fails style fs nodeTable edgeTable failure) →
      ∃ nodes edges head tail body content,
        fs.readText nodeTable = .ok nodes ∧ fs.readText edgeTable = .ok edges ∧
        Text.cutLast? closingTag.toList style.template.toList = some (head, tail) ∧
        style.render fs nodeTable edgeTable = .ok (around head tail body) ∧
        readGraph? body.toList = some content ∧
        content.nodes = ((Table.records nodes).filter fun node =>
          !Unicode.isBlankText node).map DottedName.shorten ∧
        content.edges.length = (Table.records edges).length ∧
        (∀ (index : Nat) (record : String), (Table.records edges)[index]? = some record →
          ∃ source target, record = source ++ style.edgeSeparator ++ target ∧
            Text.StandsFirstAfter style.edgeSeparator.toList source.toList ∧
            content.edges[index]? = some ⟨"e" ++ toString index, DottedName.shorten source,
              DottedName.shorten target⟩) ∧
        ∀ bracket ∈ ['<', '>'],
          body.toList.count bracket = 3 + content.nodes.length + 4 * content.edges.length) := by
  refine ⟨fun failure => render_eq_error_iff, fun hNone => ?_⟩
  cases hRender : style.render fs nodeTable edgeTable with
  | error failure => exact absurd (render_eq_error_iff.1 hRender) (hNone failure)
  | ok document =>
    obtain ⟨nodes, records, hNodes, hRecords, hDocument⟩ := exists_readText_of_render hRender
    obtain ⟨head, tail, hCut⟩ := exists_cutLast?_of_document hDocument
    obtain ⟨edges, hEdges, rfl⟩ := (document_eq_ok_iff hCut).1 hDocument
    refine ⟨nodes, records, head, tail, graph (Table.records nodes) edges,
      contentOf (Table.records nodes) edges, hNodes, hRecords, hCut, rfl, readGraph?_graph .., rfl,
      ?_, ?_, fun bracket hBracket => count_graph hBracket ..⟩
    · rw [contentOf, List.length_map, List.length_zipIdx, length_of_readEdges hEdges]
    · intro index record hRecord
      obtain ⟨edge, hEdge, hElement⟩ := getElem?_edges_contentOf hEdges (Table.records nodes) hRecord
      obtain ⟨hParts, hFirst⟩ := exists_parts_of_splitEdge? hEdge
      exact ⟨edge.source, edge.target, hParts, hFirst, hElement⟩

/-! ### A table of nodes with a blank line, and two tables of edges -/

section Sample

private def tablesWith (edges : String) : FileSystem :=
  (FileSystem.bare.put ["nodes.csv"] (.file "a.b.C\n \r\n".toUTF8)).put ["edges.csv"]
    (.file edges.toUTF8)

private theorem readText_nodes (edges : String) :
    (tablesWith edges).readText "/nodes.csv" = .ok "a.b.C\n \r\n" := by
  have hPath : FileSystem.IsTopPath "/nodes.csv" "nodes.csv" := by decide
  refine hPath.readText ?_
  rw [tablesWith, FileSystem.nodeAt?_put (by decide), if_neg (by decide),
    FileSystem.nodeAt?_put (by decide), if_pos rfl]

private theorem readText_edges (edges : String) :
    (tablesWith edges).readText "/edges.csv" = .ok edges := by
  have hPath : FileSystem.IsTopPath "/edges.csv" "edges.csv" := by decide
  refine hPath.readText ?_
  rw [tablesWith, FileSystem.nodeAt?_put (by decide), if_pos rfl]

/-- The blank line among the nodes is passed over, that among the edges is the second line and no
    edge. -/
theorem render_outcome_blankLines :
    ({} : Style).render (tablesWith "a.b.C;x.y.Z\r\n\n;\n") "/nodes.csv" "/edges.csv" =
      .error (.malformedRecord "/edges.csv" 2 "") ∧
    ∃ head tail body content,
      ({} : Style).render (tablesWith "a.b.C;x.y.Z\r\n") "/nodes.csv" "/edges.csv" =
        .ok (around head tail body) ∧
      readGraph? body.toList = some content ∧ content.nodes = ["b.C"] ∧
      content.edges.map (·.id) = ["e0"] := by
  constructor
  · refine ((render_outcome ..).1 _).2 ?_
    refine .record (readText_nodes _) (readText_edges _) closingTag_infix_emptyDocument ?_
    exact ⟨["a.b.C;x.y.Z"], [";"], by decide +kernel, rfl, by decide +kernel, by decide +kernel⟩
  · have hNone (failure : Failure) :
        ¬ Fails {} (tablesWith "a.b.C;x.y.Z\r\n") "/nodes.csv" "/edges.csv" failure := by
      rw [← render_eq_error_iff, render_of_readText (readText_nodes _) (readText_edges _),
        document_eq_error_iff,
        show Table.records "a.b.C;x.y.Z\r\n" = ["a.b.C;x.y.Z"] by decide +kernel]
      rintro (⟨hTemplate, -⟩ | ⟨-, line, record, ⟨before, after, hSplit, -, hRecord, -⟩, -⟩)
      · exact hTemplate closingTag_infix_emptyDocument
      · have hMem : record ∈ ["a.b.C;x.y.Z"] := by simp [hSplit]
        rw [List.mem_singleton.1 hMem] at hRecord
        exact absurd hRecord (by decide +kernel)
    obtain ⟨nodes, edges, head, tail, body, content, hNodes, hEdges, -, hRender, hRead, hContent,
      hLength, hElements, -⟩ := (render_outcome ..).2 hNone
    obtain rfl : "a.b.C\n \r\n" = nodes := Except.ok.inj ((readText_nodes _).symm.trans hNodes)
    obtain rfl : "a.b.C;x.y.Z\r\n" = edges := Except.ok.inj ((readText_edges _).symm.trans hEdges)
    obtain ⟨source, target, -, -, hElement⟩ := hElements 0 "a.b.C;x.y.Z" (by decide +kernel)
    have hOne : content.edges.length = 1 := hLength.trans (by decide +kernel)
    obtain ⟨entry, hEntry⟩ := List.length_eq_one_iff.1 hOne
    refine ⟨head, tail, body, content, hRender, hRead, ?_, ?_⟩
    · rw [hContent]
      decide +kernel
    · rw [hEntry, List.getElem?_cons_zero] at hElement
      rw [hEntry, Option.some.inj hElement]
      rfl

end Sample

end Style

end JavaImports.Graphml
