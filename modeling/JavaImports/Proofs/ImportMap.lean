-- SUMMARY: Import maps as relations between units and symbols.
import JavaImports.Graph
import JavaImports.Proofs.SortedMap
import Mathlib.Data.Finset.Union
import Mathlib.Data.List.Nodup

/-! # Import maps as relations

An import map relates units to symbols. Adding a file adds the pairs of its unit with the imports
that the filter keeps, and takes none away. A map in which every unit imports something is known by
its relation, so it does not matter in which order files were added, or how often. -/

namespace JavaImports.ImportMap

/-- Whether a unit imports a symbol. -/
def Imports (imports : ImportMap) (unit symbol : String) : Prop :=
  symbol ∈ (imports.symbols unit).toList

/-- Whether every unit imports something. -/
def HasNoEmptyUnit (imports : ImportMap) : Prop :=
  ∀ unit ∈ imports.units, ∃ symbol, imports.Imports unit symbol

theorem imports_iff {imports : ImportMap} {unit symbol : String} :
    imports.Imports unit symbol ↔
      ∃ symbols, imports.get? unit = some symbols ∧ symbol ∈ symbols.toList := by
  unfold Imports symbols
  rcases imports.get? unit with _ | symbols <;> simp

@[simp] theorem not_imports_empty (unit symbol : String) : ¬ empty.Imports unit symbol := by
  simp [imports_iff, empty]

theorem hasNoEmptyUnit_empty : empty.HasNoEmptyUnit := by
  simp [HasNoEmptyUnit, units, empty, SortedMap.keys, SortedMap.empty]

theorem mem_units_iff {imports : ImportMap} {unit : String} :
    unit ∈ imports.units ↔ ∃ symbols, imports.get? unit = some symbols :=
  SortedMap.mem_keys_iff

theorem nodup_units (imports : ImportMap) : imports.units.Nodup :=
  SortedMap.nodup_keys imports

/-- A unit that imports something is a unit of the map. -/
theorem Imports.mem_units {imports : ImportMap} {unit symbol : String}
    (h : imports.Imports unit symbol) : unit ∈ imports.units := by
  obtain ⟨symbols, hGet, -⟩ := imports_iff.1 h
  exact mem_units_iff.2 ⟨symbols, hGet⟩

/-! ## The graph -/

theorem mem_targets_iff {imports : ImportMap} {symbol : String} :
    symbol ∈ imports.targets ↔ ∃ unit, imports.Imports unit symbol := by
  simp only [targets, List.mem_flatMap, Prod.exists, SortedMap.mem_entries_iff, imports_iff]

theorem mem_nodes_iff {imports : ImportMap} {name : String} :
    name ∈ imports.nodes.toList ↔ name ∈ imports.units ∨ ∃ unit, imports.Imports unit name := by
  simp [nodes, mem_targets_iff]

theorem mem_edges_iff {imports : ImportMap} {edge : Edge} :
    edge ∈ imports.edges ↔ imports.Imports edge.source edge.target := by
  simp only [edges, List.mem_flatMap, Prod.exists, SortedMap.mem_entries_iff, List.mem_map,
    imports_iff]
  constructor
  · rintro ⟨unit, symbols, hGet, symbol, hMem, rfl⟩
    exact ⟨symbols, hGet, hMem⟩
  · rintro ⟨symbols, hGet, hMem⟩
    exact ⟨edge.source, symbols, hGet, edge.target, hMem, rfl⟩

/-- No edge is listed twice. -/
theorem nodup_edges (imports : ImportMap) : imports.edges.Nodup := by
  refine List.nodup_flatMap.2 ⟨fun entry _ => ?_, ?_⟩
  · refine List.Nodup.map (fun a b hEdge => ?_) (SortedSet.nodup_toList entry.2)
    exact (Edge.mk.inj hEdge).2
  · refine imports.sorted.imp fun {a b} hLess => ?_
    refine List.disjoint_left.2 fun edge hA hB => ?_
    obtain ⟨_, _, rfl⟩ := List.mem_map.1 hA
    obtain ⟨_, _, hEdge⟩ := List.mem_map.1 hB
    rw [(Edge.mk.inj hEdge).1] at hLess
    simp at hLess

/-- All names in the graph: the units, and the symbols that some unit imports. -/
def names (imports : ImportMap) : Finset String :=
  imports.units.toFinset ∪ imports.targets.toFinset

/-- All pairs of a unit and a symbol it imports. -/
def pairs (imports : ImportMap) : Finset (String × String) :=
  imports.units.toFinset.biUnion fun unit =>
    (imports.symbols unit).toList.toFinset.image fun symbol => (unit, symbol)

theorem mem_names_iff {imports : ImportMap} {name : String} :
    name ∈ imports.names ↔ name ∈ imports.units ∨ ∃ unit, imports.Imports unit name := by
  simp [names, mem_targets_iff]

theorem mem_pairs_iff {imports : ImportMap} {unit symbol : String} :
    (unit, symbol) ∈ imports.pairs ↔ imports.Imports unit symbol := by
  simp only [pairs, Finset.mem_biUnion, Finset.mem_image, List.mem_toFinset, Prod.mk.injEq]
  constructor
  · rintro ⟨unit, -, symbol, hMem, rfl, rfl⟩
    exact hMem
  · intro h
    exact ⟨unit, h.mem_units, symbol, h, rfl, rfl⟩

/-- The nodes of the graph list every name once. -/
theorem coe_nodes (imports : ImportMap) :
    (imports.nodes.toList : Multiset String) = imports.names.val := by
  have hSet : imports.names = imports.nodes.toList.toFinset := by
    ext name
    rw [mem_names_iff, List.mem_toFinset, mem_nodes_iff]
  rw [hSet, List.toFinset_val, (SortedSet.nodup_toList imports.nodes).dedup]

/-- The edges of the graph list all pairs. -/
theorem pairs_eq_toFinset (imports : ImportMap) :
    imports.pairs = (imports.edges.map fun edge => (edge.source, edge.target)).toFinset := by
  ext ⟨unit, symbol⟩
  simp only [mem_pairs_iff, List.mem_toFinset, List.mem_map, mem_edges_iff, Prod.mk.injEq]
  exact ⟨fun h => ⟨⟨unit, symbol⟩, h, rfl, rfl⟩, fun ⟨_, h, hUnit, hSymbol⟩ => hUnit ▸ hSymbol ▸ h⟩

/-- The edges of the graph list every pair once. -/
theorem coe_edges (imports : ImportMap) :
    (imports.edges.map fun edge => (edge.source, edge.target) : Multiset (String × String)) =
      imports.pairs.val := by
  have hNodup : (imports.edges.map fun edge => (edge.source, edge.target)).Nodup := by
    refine imports.nodup_edges.map fun a b h => ?_
    cases a; cases b; simpa using h
  rw [pairs_eq_toFinset, List.toFinset_val, hNodup.dedup]

/-! ## Adding files -/

/-- What a file adds to the relation. -/
theorem imports_add_iff {imports : ImportMap} {filter : SymbolFilter} {file : SourceUnit}
    {unit symbol : String} :
    (imports.add filter file).Imports unit symbol ↔ imports.Imports unit symbol ∨
      (unit = file.name ∧ symbol ∈ file.imports ∧ filter.keeps symbol) := by
  have hKept : symbol ∈ kept filter file ↔ symbol ∈ file.imports ∧ filter.keeps symbol := by
    simp [kept]
  unfold add
  split
  · next hNone => simp [← hKept, hNone]
  · next hSome =>
    by_cases hUnit : unit = file.name
    · subst hUnit
      simp [Imports, symbols, ← hKept]
    · simp [Imports, symbols, hUnit]

/-- The unit that a file with an import that the filter keeps writes to. -/
theorem written?_eq_some_iff {filter : SymbolFilter} {file : SourceUnit} {unit : String} :
    written? filter file = some unit ↔
      unit = file.name ∧ ∃ symbol ∈ file.imports, filter.keeps symbol := by
  have hKept : kept filter file = [] ↔ ¬ ∃ symbol ∈ file.imports, filter.keeps symbol := by
    simp [kept, List.filter_eq_nil_iff]
  unfold written?
  split
  · next hNone => simp [hKept.1 hNone]
  · next hSome =>
    have hKeeps : ∃ symbol ∈ file.imports, filter.keeps symbol := by
      by_contra hNone
      simp [hKept.2 hNone] at hSome
    rw [Option.some.injEq, and_iff_left hKeeps, eq_comm]

/-- A file that writes to no unit leaves the map as it is. -/
theorem add_of_written?_eq_none {filter : SymbolFilter} {file : SourceUnit}
    (h : written? filter file = none) (imports : ImportMap) :
    imports.add filter file = imports := by
  unfold written? at h
  unfold add
  split at h
  · next hNone => rw [hNone]
  · cases h

/-- The units of a map with one more file. -/
theorem mem_units_add_iff {imports : ImportMap} {filter : SymbolFilter} {file : SourceUnit}
    {unit : String} :
    unit ∈ (imports.add filter file).units ↔
      unit ∈ imports.units ∨ written? filter file = some unit := by
  cases hWritten : written? filter file with
  | none => simp [add_of_written?_eq_none hWritten]
  | some name =>
    have hName : name = file.name := (written?_eq_some_iff.1 hWritten).1
    unfold written? at hWritten
    split at hWritten
    · cases hWritten
    · next first more hKept =>
      simp only [add, hKept, mem_units_iff, SortedMap.get?_insert, Std.compare_eq_iff_eq, hName]
      by_cases hUnit : unit = file.name <;> simp [hUnit, eq_comm]

theorem HasNoEmptyUnit.add {imports : ImportMap} (h : imports.HasNoEmptyUnit)
    (filter : SymbolFilter) (file : SourceUnit) : (imports.add filter file).HasNoEmptyUnit := by
  intro unit hUnit
  rcases mem_units_add_iff.1 hUnit with hOld | hWritten
  · obtain ⟨symbol, hSymbol⟩ := h unit hOld
    exact ⟨symbol, imports_add_iff.2 (.inl hSymbol)⟩
  · obtain ⟨hName, symbol, hSymbol⟩ := written?_eq_some_iff.1 hWritten
    exact ⟨symbol, imports_add_iff.2 (.inr ⟨hName, hSymbol⟩)⟩

/-- Maps in which every unit imports something are equal if they relate the same units and
    symbols. -/
theorem HasNoEmptyUnit.eq_of_imports {a b : ImportMap} (hA : a.HasNoEmptyUnit)
    (hB : b.HasNoEmptyUnit)
    (h : ∀ unit symbol, a.Imports unit symbol ↔ b.Imports unit symbol) : a = b := by
  have hUnits (unit : String) : unit ∈ a.units ↔ unit ∈ b.units := by
    constructor
    · intro hUnit
      obtain ⟨symbol, hSymbol⟩ := hA unit hUnit
      exact ((h unit symbol).1 hSymbol).mem_units
    · intro hUnit
      obtain ⟨symbol, hSymbol⟩ := hB unit hUnit
      exact ((h unit symbol).2 hSymbol).mem_units
  refine SortedMap.ext_get? fun unit => ?_
  have hUnit := hUnits unit
  simp only [mem_units_iff] at hUnit
  have hSymbols : a.symbols unit = b.symbols unit := SortedSet.ext_mem (h unit)
  unfold symbols at hSymbols
  rcases hGetA : a.get? unit with _ | symbolsA <;> rcases hGetB : b.get? unit with _ | symbolsB <;>
    simp_all

end JavaImports.ImportMap
