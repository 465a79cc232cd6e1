-- SUMMARY: Tables of nodes and edges: writing them as text and reading their records back.
import JavaImports.Failure
import JavaImports.FileSystem.Operations
import JavaImports.Graph
import JavaImports.Text.Lines

/-! # Tables

A table is a text in which a separator ends every record. The record of a node is its name, that of
an edge the source and the target with a separator of their own between them. Whatever separator
wrote a table, it is read line by line. -/

namespace JavaImports.Table

/-- The record of an edge. -/
def edgeRecord (edgeSeparator : String) (edge : Edge) : String :=
  edge.source ++ edgeSeparator ++ edge.target

/-- The table with given records. -/
def ofRecords (separator : String) (records : List String) : String :=
  String.join (records.map fun record => record ++ separator)

/-- The table of nodes. -/
def ofNodes (separator : String) (nodes : List String) : String :=
  ofRecords separator nodes

/-- The table of edges. -/
def ofEdges (edgeSeparator recordSeparator : String) (edges : List Edge) : String :=
  ofRecords recordSeparator (edges.map (edgeRecord edgeSeparator))

/-- The records of a table, one per line. -/
def records (table : String) : List String :=
  (Text.lines table.toList).map String.ofList

/-- Writes a table to a file. -/
def write (fs : FileSystem) (path table : String) : FileSystem × Except Failure Unit :=
  match fs.writeText path table with
  | (written, .ok ()) => (written, .ok ())
  | (written, .error error) => (written, .error (.file error path))

/-- Reads the records of the table in a file. -/
def read (fs : FileSystem) (path : String) : Except Failure (List String) :=
  match fs.readText path with
  | .ok table => .ok (records table)
  | .error error => .error (.file error path)

end JavaImports.Table
