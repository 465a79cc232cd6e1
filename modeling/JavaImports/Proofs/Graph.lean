-- SUMMARY: The edges of a graph tell the import map that it was made from.
import JavaImports.Proofs.ImportMap

/-! # Graphs and their import maps

Edges are counted without being listed, and all their ends are nodes. A unit without symbols has no
edge and is lost in a list of edges, but no such unit comes about when files are added. So a map
that was made from files can be put together again from its edges, in whichever order they come. -/

namespace JavaImports.ImportMap

/-! ## Edges and their ends -/

theorem length_edges (imports : ImportMap) : imports.edges.length = imports.edgeCount := by
  unfold edges edgeCount
  induction imports.entries with
  | nil => rfl
  | cons entry more ih =>
    rw [List.flatMap_cons, List.length_append, ih, List.length_map, SortedSet.toList,
      SortedMap.keys, List.length_map]
    rfl

theorem source_mem_nodes {imports : ImportMap} {edge : Edge} (h : edge ∈ imports.edges) :
    edge.source ∈ imports.nodes.toList :=
  mem_nodes_iff.2 (.inl (mem_edges_iff.1 h).mem_units)

theorem target_mem_nodes {imports : ImportMap} {edge : Edge} (h : edge ∈ imports.edges) :
    edge.target ∈ imports.nodes.toList :=
  mem_nodes_iff.2 (.inr ⟨edge.source, mem_edges_iff.1 h⟩)

/-- The units of a map in which all of them import something are where the edges start. -/
theorem HasNoEmptyUnit.mem_units_iff_edge {imports : ImportMap} (h : imports.HasNoEmptyUnit)
    {name : String} : name ∈ imports.units ↔ ∃ edge ∈ imports.edges, edge.source = name := by
  constructor
  · intro hUnit
    obtain ⟨symbol, hSymbol⟩ := h name hUnit
    exact ⟨⟨name, symbol⟩, mem_edges_iff.2 hSymbol, rfl⟩
  · rintro ⟨edge, hEdge, rfl⟩
    exact (mem_edges_iff.1 hEdge).mem_units

/-- The nodes of such a map are the ends of its edges. -/
theorem HasNoEmptyUnit.mem_nodes_iff_edge {imports : ImportMap} (h : imports.HasNoEmptyUnit)
    {name : String} : name ∈ imports.nodes.toList ↔
      ∃ edge ∈ imports.edges, edge.source = name ∨ edge.target = name := by
  constructor
  · intro hNode
    rcases mem_nodes_iff.1 hNode with hUnit | ⟨unit, hSymbol⟩
    · obtain ⟨edge, hEdge, hSource⟩ := h.mem_units_iff_edge.1 hUnit
      exact ⟨edge, hEdge, .inl hSource⟩
    · exact ⟨⟨unit, name⟩, mem_edges_iff.2 hSymbol, .inr rfl⟩
  · rintro ⟨edge, hEdge, rfl | rfl⟩
    · exact source_mem_nodes hEdge
    · exact target_mem_nodes hEdge

/-! ## Maps from edges -/

/-- The map with the symbol of an edge among those that its unit imports. -/
def addEdge (imports : ImportMap) (edge : Edge) : ImportMap :=
  imports.insert edge.source ((imports.symbols edge.source).add edge.target)

/-- The map that gives every unit the symbols to which edges lead from it. -/
def ofEdges (edges : List Edge) : ImportMap :=
  edges.foldl addEdge empty

theorem imports_addEdge_iff {imports : ImportMap} {edge : Edge} {unit symbol : String} :
    (imports.addEdge edge).Imports unit symbol ↔
      imports.Imports unit symbol ∨ edge = ⟨unit, symbol⟩ := by
  obtain ⟨source, target⟩ := edge
  rw [Edge.mk.injEq]
  by_cases hUnit : unit = source
  · subst hUnit
    simp [addEdge, Imports, symbols, or_comm, eq_comm]
  · simp [addEdge, Imports, symbols, hUnit, Ne.symm hUnit]

theorem HasNoEmptyUnit.addEdge {imports : ImportMap} (h : imports.HasNoEmptyUnit) (edge : Edge) :
    (imports.addEdge edge).HasNoEmptyUnit := by
  intro unit hUnit
  by_cases hSource : unit = edge.source
  · exact ⟨edge.target, imports_addEdge_iff.2 (.inr (by rw [hSource]))⟩
  · have hOld : unit ∈ imports.units := by
      rw [mem_units_iff] at hUnit ⊢
      simpa [ImportMap.addEdge, hSource] using hUnit
    obtain ⟨symbol, hSymbol⟩ := h unit hOld
    exact ⟨symbol, imports_addEdge_iff.2 (.inl hSymbol)⟩

/-- What a map holds after edges were added to it, one after another. -/
theorem foldl_addEdge (edges : List Edge) {imports : ImportMap} (h : imports.HasNoEmptyUnit) :
    (edges.foldl addEdge imports).HasNoEmptyUnit ∧
      ∀ unit symbol, (edges.foldl addEdge imports).Imports unit symbol ↔
        imports.Imports unit symbol ∨ ⟨unit, symbol⟩ ∈ edges := by
  induction edges generalizing imports with
  | nil => exact ⟨h, fun unit symbol => by simp⟩
  | cons edge more ih =>
    obtain ⟨hNoEmpty, hImports⟩ := ih (h.addEdge edge)
    refine ⟨hNoEmpty, fun unit symbol => ?_⟩
    rw [List.foldl_cons, hImports, imports_addEdge_iff, List.mem_cons, or_assoc,
      eq_comm (a := edge)]

theorem hasNoEmptyUnit_ofEdges (edges : List Edge) : (ofEdges edges).HasNoEmptyUnit :=
  (foldl_addEdge edges hasNoEmptyUnit_empty).1

theorem imports_ofEdges_iff {edges : List Edge} {unit symbol : String} :
    (ofEdges edges).Imports unit symbol ↔ ⟨unit, symbol⟩ ∈ edges := by
  rw [ofEdges, (foldl_addEdge edges hasNoEmptyUnit_empty).2]
  simp

/-- Edges give back the map they come from if every unit of it imports something. Neither their
    order matters nor how often one is listed. -/
theorem HasNoEmptyUnit.ofEdges_eq {imports : ImportMap} (h : imports.HasNoEmptyUnit)
    {edges : List Edge} (hEdges : ∀ edge, edge ∈ edges ↔ edge ∈ imports.edges) :
    ofEdges edges = imports := by
  refine (hasNoEmptyUnit_ofEdges edges).eq_of_imports h fun unit symbol => ?_
  rw [imports_ofEdges_iff, hEdges, mem_edges_iff]

/-! ## Maps from files -/

/-- The map after files were added, each through a filter of its own. -/
def addFiles : ImportMap → List (SymbolFilter × SourceUnit) → ImportMap
  | imports, [] => imports
  | imports, (filter, file) :: more => addFiles (imports.add filter file) more

/-- Adding files makes no unit without symbols. -/
theorem HasNoEmptyUnit.addFiles {imports : ImportMap} (h : imports.HasNoEmptyUnit)
    (files : List (SymbolFilter × SourceUnit)) : (imports.addFiles files).HasNoEmptyUnit := by
  induction files generalizing imports with
  | nil => exact h
  | cons file more ih => exact ih (h.add file.1 file.2)

/-- Nothing is lost in a graph. The number of edges is that of the pairs listed, and all their ends
    are nodes. The units and the nodes of a map that was made by adding files are the starts and the
    ends of its edges, and the edges give the map back. -/
theorem edges_lossless :
    (∀ imports : ImportMap, imports.edges.Nodup ∧ imports.edgeCount = imports.edges.length ∧
      ∀ edge ∈ imports.edges,
        edge.source ∈ imports.nodes.toList ∧ edge.target ∈ imports.nodes.toList) ∧
    ∀ files : List (SymbolFilter × SourceUnit), let imports := empty.addFiles files
      (∀ name, name ∈ imports.units ↔ ∃ edge ∈ imports.edges, edge.source = name) ∧
      (∀ name, name ∈ imports.nodes.toList ↔
        ∃ edge ∈ imports.edges, edge.source = name ∨ edge.target = name) ∧
      (∀ edges, (∀ edge, edge ∈ edges ↔ edge ∈ imports.edges) → ofEdges edges = imports) ∧
      ∀ others, (∀ edge, edge ∈ imports.edges ↔ edge ∈ (empty.addFiles others).edges) →
        imports = empty.addFiles others := by
  constructor
  · intro imports
    exact ⟨imports.nodup_edges, imports.length_edges.symm, fun edge hEdge =>
      ⟨source_mem_nodes hEdge, target_mem_nodes hEdge⟩⟩
  · intro files imports
    have hImports : imports.HasNoEmptyUnit := hasNoEmptyUnit_empty.addFiles files
    refine ⟨fun name => hImports.mem_units_iff_edge, fun name => hImports.mem_nodes_iff_edge,
      fun edges hEdges => hImports.ofEdges_eq hEdges, fun others hSame => ?_⟩
    calc imports = ofEdges imports.edges := (hImports.ofEdges_eq fun _ => Iff.rfl).symm
      _ = empty.addFiles others := (hasNoEmptyUnit_empty.addFiles others).ofEdges_eq hSame

end JavaImports.ImportMap
