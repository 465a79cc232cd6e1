-- SUMMARY: GraphML documents: rendering records into a template and writing the result.
import JavaImports.DottedName
import JavaImports.Table
import JavaImports.Text.Split
import JavaImports.Unicode.Blank

/-! # GraphML documents

A document is a template with one graph put in right before the last closing tag of its root. Nodes
and the ends of edges are named by the short forms of the names in the tables. -/

namespace JavaImports.Graphml

/-- The closing tag of the root element. -/
def closingTag : String := "</graphml>"

/-- A document without a graph. -/
def emptyDocument : String :=
  "<?xml version=\"1.0\" encoding=\"UTF-8\"?>\n" ++
  "<graphml xmlns=\"http://graphml.graphdrawing.org/xmlns\"\n" ++
  "    xmlns:xsi=\"http://www.w3.org/2001/XMLSchema-instance\"\n" ++
  "    xsi:schemaLocation=\"http://graphml.graphdrawing.org/xmlns " ++
  "http://graphml.graphdrawing.org/xmlns/1.0/graphml.xsd\">\n" ++
  "</graphml>\n"

/-! ## Elements -/

/-- A character as it stands in the value of an attribute. -/
def escapeChar : Char → List Char
  | '&' => "&amp;".toList
  | '<' => "&lt;".toList
  | '>' => "&gt;".toList
  | '"' => "&quot;".toList
  | '\'' => "&apos;".toList
  | c => [c]

/-- A text as the value of an attribute. -/
def escape (text : String) : String :=
  String.ofList (text.toList.flatMap escapeChar)

/-- The identifier of a node, as the value of an attribute. -/
def nodeId (name : String) : String :=
  escape (DottedName.shorten name)

/-- The element of a node. -/
def nodeElement (name : String) : String :=
  "    <node id=\"" ++ nodeId name ++ "\"/>\n"

/-- The element of an edge with a given number. -/
def edgeElement (number : Nat) (edge : Edge) : String :=
  "    <edge id=\"e" ++ toString number ++ "\" source=\"" ++ nodeId edge.source ++
    "\" target=\"" ++ nodeId edge.target ++ "\">\n" ++
  "      <data key=\"d1\">1.0</data>\n" ++
  "    </edge>\n"

/-- The key of the edge weights and the opening tag of the graph. -/
def graphStart : String :=
  "  <key id=\"d1\" for=\"edge\" attr.name=\"weight\" attr.type=\"double\"/>\n" ++
  "  <graph id=\"G\" edgedefault=\"undirected\">\n"

/-- The closing tag of the graph. -/
def graphEnd : String :=
  "  </graph>\n"

/-! ## Records -/

/-- The edge of a record: what stands before and after the first separator, neither blank. -/
def splitEdge? (separator record : String) : Option Edge :=
  match Text.splitFirst? separator.toList record.toList with
  | none => none
  | some (source, target) =>
    if source.all Unicode.isBlank || target.all Unicode.isBlank then none
    else some ⟨String.ofList source, String.ofList target⟩

/-- The edges of the records of a table, which start on a given line. -/
def readEdges (separator tablePath : String) : (line : Nat) → List String →
    Except Failure (List Edge)
  | _, [] => .ok []
  | line, record :: more =>
    match splitEdge? separator record with
    | none => .error (.malformedRecord tablePath line record)
    | some edge => do return edge :: (← readEdges separator tablePath (line + 1) more)

/-- The elements of edges, numbered from `number` on. -/
def edgeElements (number : Nat) : List Edge → String
  | [] => ""
  | edge :: more => edgeElement number edge ++ edgeElements (number + 1) more

/-- The elements of the nodes whose records are not blank. -/
def nodeElements (nodes : List String) : String :=
  String.join ((nodes.filter fun node => !Unicode.isBlankText node).map nodeElement)

/-- A graph with its weights. -/
def graph (nodes : List String) (edges : List Edge) : String :=
  graphStart ++ nodeElements nodes ++ edgeElements 0 edges ++ graphEnd

/-! ## Documents -/

/-- The text of a template that starts a new line, if it ends within one. -/
def endLine (text : List Char) : List Char :=
  if text.isEmpty || text.getLast? = some '\n' then text else text ++ ['\n']

/-- How documents are made. -/
structure Style where
  /-- The document that the graph is put into. -/
  template : String := emptyDocument
  /-- The file the template comes from. -/
  templatePath? : Option String := none
  /-- What stands between source and target in the record of an edge. -/
  edgeSeparator : String := ";"
deriving DecidableEq, Repr

namespace Style

/-- The style with the template that a file holds. -/
def withTemplateFile (style : Style) (fs : FileSystem) (path : String) : Except Failure Style :=
  match fs.readText path with
  | .ok template => .ok { style with template, templatePath? := some path }
  | .error error => .error (.file error path)

/-- The document for given records. `edgeTable` is the path of the table the edges come from. -/
def document (style : Style) (nodes edges : List String) (edgeTable : String) :
    Except Failure String :=
  match Text.cutLast? closingTag.toList style.template.toList with
  | none => .error (.unclosedTemplate style.templatePath?)
  | some (head, tail) =>
    match readEdges style.edgeSeparator edgeTable 1 edges with
    | .error failure => .error failure
    | .ok edges => .ok (String.ofList (endLine head) ++ graph nodes edges ++ String.ofList tail)

/-- The document for the records of two tables. -/
def render (style : Style) (fs : FileSystem) (nodeTable edgeTable : String) :
    Except Failure String := do
  let nodes ← Table.read fs nodeTable
  let edges ← Table.read fs edgeTable
  style.document nodes edges edgeTable

/-- The file that a document is written to before it takes its place. -/
def temporaryPath (output : String) : String :=
  output ++ ".tmp"

/-- The file system without a file, if it can be removed. -/
def removed (fs : FileSystem) (path : String) : FileSystem :=
  match fs.removeFile path with
  | .ok fs => fs
  | .error _ => fs

/-- Writes the document for the records of two tables. What stood at `output` before is only
    replaced once the document is complete. A temporary file that was written in part stays. -/
def write (style : Style) (fs : FileSystem) (nodeTable edgeTable output : String) :
    FileSystem × Except Failure Unit :=
  match style.render fs nodeTable edgeTable with
  | .error failure => (fs, .error failure)
  | .ok document =>
    match fs.writeText (temporaryPath output) document with
    | (written, .error error) => (written, .error (.file error (temporaryPath output)))
    | (written, .ok ()) =>
      match written.moveFile (temporaryPath output) output with
      | .error error => (removed written (temporaryPath output), .error (.file error output))
      | .ok moved => (moved, .ok ())

end Style

end JavaImports.Graphml
