-- SUMMARY: What comes back from the records of edges when names hold the separator.
import JavaImports.Proofs.Table

/-! # Misread edges

A separator of one character cuts the record of an edge at its first place, wherever that is. If it
stands inside the source, the edge comes back as another one: what was in front of it is the source,
and all the rest has gone to the target. -/

namespace JavaImports.Graphml

/-- The edge that the record of an edge is cut into. -/
def readAs (separator : String) (edge : Edge) : Edge :=
  match Text.splitFirst? separator.toList (Table.edgeRecord separator edge).toList with
  | some (source, target) => ⟨String.ofList source, String.ofList target⟩
  | none => edge

theorem splitFirst?_edgeRecord (separator : String) (edge : Edge) :
    Text.splitFirst? separator.toList (Table.edgeRecord separator edge).toList =
      some ((readAs separator edge).source.toList, (readAs separator edge).target.toList) := by
  have hInfix : separator.toList <:+: (Table.edgeRecord separator edge).toList := by
    rw [Table.toList_edgeRecord]
    exact List.infix_append ..
  obtain ⟨⟨source, target⟩, hCut⟩ := Text.exists_splitFirst? hInfix
  unfold readAs
  simp only [hCut, String.toList_ofList]

section OneChar

variable {separator : String} {c : Char} {edge : Edge}

/-- An edge comes back as it is if its source has no separator in it. -/
theorem readAs_of_not_mem (hSeparator : separator.toList = [c]) (h : c ∉ edge.source.toList) :
    readAs separator edge = edge := by
  have hCut := Text.splitFirst?_append (Text.standsFirstAfter_singleton.2 h) edge.target.toList
  unfold readAs
  rw [Table.toList_edgeRecord, hSeparator, hCut]
  simp only [String.ofList_toList]

/-- An edge comes back as it is, or its source has lost what follows its first separator to the
    target. -/
theorem readAs_eq_or (hSeparator : separator.toList = [c]) (edge : Edge) :
    readAs separator edge = edge ∨ ∃ lost,
      edge.source.toList = (readAs separator edge).source.toList ++ c :: lost ∧
      (readAs separator edge).target.toList = lost ++ c :: edge.target.toList := by
  by_cases hMem : c ∈ edge.source.toList
  · obtain ⟨before, lost, hSource, hBefore⟩ := List.eq_append_cons_of_mem hMem
    have hCut := Text.splitFirst?_append (Text.standsFirstAfter_singleton.2 hBefore)
      (lost ++ c :: edge.target.toList)
    have hRecord : (Table.edgeRecord separator edge).toList =
        before ++ [c] ++ (lost ++ c :: edge.target.toList) := by
      simp [Table.toList_edgeRecord, hSeparator, hSource]
    have hRead : readAs separator edge =
        ⟨String.ofList before, String.ofList (lost ++ c :: edge.target.toList)⟩ := by
      unfold readAs
      rw [hRecord, hSeparator, hCut]
    refine .inr ⟨lost, ?_, ?_⟩
    · rw [hRead, String.toList_ofList, hSource]
    · rw [hRead, String.toList_ofList]
  · exact .inl (readAs_of_not_mem hSeparator hMem)

/-- The source that is read is the front of the source of the edge. -/
theorem prefix_source_readAs (hSeparator : separator.toList = [c]) (edge : Edge) :
    (readAs separator edge).source.toList <+: edge.source.toList := by
  rcases readAs_eq_or hSeparator edge with hSame | ⟨lost, hSource, -⟩
  · rw [hSame]
  · exact ⟨c :: lost, hSource.symm⟩

/-- The target that is read ends with the target of the edge. -/
theorem suffix_target_readAs (hSeparator : separator.toList = [c]) (edge : Edge) :
    edge.target.toList <:+ (readAs separator edge).target.toList := by
  rcases readAs_eq_or hSeparator edge with hSame | ⟨lost, -, hTarget⟩
  · rw [hSame]
  · exact ⟨lost ++ [c], by simp [hTarget]⟩

/-- The record of an edge is read unless the source is blank up to the first separator. -/
theorem splitEdge?_edgeRecord_eq_some_iff (hSeparator : separator.toList = [c])
    (hTarget : Unicode.isBlankText edge.target = false) {found : Edge} :
    splitEdge? separator (Table.edgeRecord separator edge) = some found ↔
      Unicode.isBlankText (readAs separator edge).source = false ∧
        readAs separator edge = found := by
  have hTargetRead : (readAs separator edge).target.toList.all Unicode.isBlank = false := by
    obtain ⟨d, hMem, hBlank⟩ := List.all_eq_false.1 hTarget
    exact List.all_eq_false.2 ⟨d, (suffix_target_readAs hSeparator edge).subset hMem, hBlank⟩
  rw [splitEdge?, splitFirst?_edgeRecord separator edge]
  simp only [hTargetRead, Bool.or_false, String.ofList_toList, Unicode.isBlankText]
  split <;> simp_all

/-- The records of edges are read if that holds of each of them. -/
theorem readEdges_edgeRecords_eq_ok_iff (hSeparator : separator.toList = [c])
    {tablePath : String} {line : Nat} {edges found : List Edge}
    (hTargets : ∀ edge ∈ edges, Unicode.isBlankText edge.target = false) :
    readEdges separator tablePath line (edges.map (Table.edgeRecord separator)) = .ok found ↔
      (∀ edge ∈ edges, Unicode.isBlankText (readAs separator edge).source = false) ∧
        edges.map (readAs separator) = found := by
  rw [readEdges_eq_ok_iff, List.map_map]
  induction edges generalizing found with
  | nil => cases found <;> simp
  | cons edge edges ih =>
    have hTarget := hTargets edge (List.mem_cons_self ..)
    have hMore := fun other hOther => hTargets other (List.mem_cons_of_mem _ hOther)
    cases found with
    | nil => simp
    | cons first found =>
      simp only [List.map_cons, List.cons.injEq, Function.comp_apply, ih hMore,
        splitEdge?_edgeRecord_eq_some_iff hSeparator hTarget, List.forall_mem_cons]
      exact and_and_and_comm

/-- In the sources that are read from a table, there is neither a line feed nor the separator. -/
theorem not_mem_source_of_readEdges (hSeparator : separator.toList = [c]) {tablePath table : String}
    {line : Nat} {found : List Edge}
    (h : readEdges separator tablePath line (Table.records table) = .ok found) :
    ∀ edge ∈ found, '\n' ∉ edge.source.toList ∧ c ∉ edge.source.toList := by
  intro edge hEdge
  have hMem : some edge ∈ (Table.records table).map (splitEdge? separator) := by
    rw [readEdges_eq_ok_iff.1 h]
    exact List.mem_map_of_mem hEdge
  obtain ⟨record, hRecord, hSplit⟩ := List.mem_map.1 hMem
  obtain ⟨chars, hLine, rfl⟩ := List.mem_map.1 hRecord
  unfold splitEdge? at hSplit
  split at hSplit
  · cases hSplit
  · next source target hCut =>
    split at hSplit
    · cases hSplit
    · cases hSplit
      have hText := Text.eq_append_of_splitFirst? hCut
      have hFirst := Text.standsFirstAfter_of_splitFirst? hCut
      rw [String.toList_ofList] at hText ⊢
      refine ⟨fun hFeed => Text.not_mem_of_mem_lines hLine ?_, ?_⟩
      · simp [hText, hFeed]
      · rw [hSeparator] at hFirst
        exact Text.standsFirstAfter_singleton.1 hFirst

end OneChar

end JavaImports.Graphml
