-- SUMMARY: The nodes and edges of the graph that an import map describes.
import JavaImports.ImportMap

/-! # Import graphs

The nodes of the graph are the units and the symbols they import, and every import is an edge from
the unit to the symbol. -/

namespace JavaImports

/-- An import: a unit and a symbol it imports. -/
structure Edge where
  source : String
  target : String
deriving DecidableEq, Repr

/-- Edges are ordered by source, and those of one source by target. -/
instance : Ord Edge where
  compare a b := (compare a.source b.source).then (compare a.target b.target)

/-- Puts edges in order. Edges that occur several times stay. -/
def sortEdges (edges : List Edge) : List Edge :=
  edges.mergeSort fun a b => (compare a b).isLE

namespace ImportMap

/-- The units of the graph, in order. -/
def units (imports : ImportMap) : List String :=
  imports.keys

/-- The symbols that some unit imports, in the order of the units. -/
def targets (imports : ImportMap) : List String :=
  imports.entries.flatMap fun (_, symbols) => symbols.toList

/-- The nodes of the graph: all units and all symbols they import. -/
def nodes (imports : ImportMap) : SortedSet String :=
  (SortedSet.ofList imports.units).addAll imports.targets

/-- The edges of the graph, in order. -/
def edges (imports : ImportMap) : List Edge :=
  imports.entries.flatMap fun (unit, symbols) => symbols.toList.map fun symbol => ⟨unit, symbol⟩

/-- The number of edges. -/
def edgeCount (imports : ImportMap) : Nat :=
  imports.entries.foldr (fun (_, symbols) count => symbols.size + count) 0

end ImportMap

end JavaImports
