-- SUMMARY: The syntax tree of a Java source file, and the declarations it holds.
import JavaImports.Java.Chart
import JavaImports.Java.Declarations
import JavaImports.Java.Header
import JavaImports.Java.Repair

/-! # Source files

A source file is a sequence of declarations and statements, read one after another. A package or
an import declaration gets a node with its name; annotations may stand in front of a package
declaration. What cannot be read becomes a fault, and the text after it is not looked at. -/

namespace JavaImports.Java

/-- The network of the grammar. -/
def network : Network := Network.ofGrammar

/-- A piece at the top of a source file, its text, and the text after it. -/
structure Piece where
  tree : SyntaxTree
  read : List Char
  rest : List Char

/-- The node of a package or import declaration, with `annotations` in front of it. -/
def HeaderLine.tree (line : HeaderLine) (start : Position) (annotations : List Char) : SyntaxTree :=
  let nameStart := start.afterAll (annotations ++ line.before)
  .node (if line.isImport then .imports else .package) start (annotations ++ line.text)
    [.node .name nameStart line.name []]

/-- The annotations at the front of a text with the gap after them, if a package declaration
    follows. -/
def packageAnnotations? (text : List Char) : Option (List Char) :=
  match text with
  | '@' :: _ =>
    match (Reading.ofText network .annotations text).complete? with
    | none => none
    | some n =>
      let gap := (splitGap (text.drop n)).1
      let front := text.take (n + gap.length)
      match splitWord? (text.drop front.length) with
      | some (word, _) => if word = "package".toList then some front else none
      | none => none
  | _ => none

/-- The package or import declaration at the front of a text. -/
def headerPiece? (start : Position) (text : List Char) : Option Piece :=
  let annotations := (packageAnnotations? text).getD []
  (splitHeaderLine? (text.drop annotations.length)).map fun (line, rest) =>
    ⟨line.tree start annotations, annotations ++ line.text, rest⟩

/-- The fault at the place where reading stopped: something is missing right after the last lexeme,
    or the next lexeme fits nowhere. -/
def faultAt (start : Position) (text : List Char) (reading : Reading) : SyntaxTree :=
  let reached := start.afterAll (text.take reading.reach)
  if reading.lacksTerminal network .topLevel then .node .missing reached [] []
  else
    let (gap, rest) := splitGap reading.rest
    .node .error (reached.afterAll gap) rest []

/-- What it costs to go on after a declaration with a text: nothing if the text is empty or starts
    with a whole piece. -/
def followCost? (text : List Char) : Option Nat :=
  let (_, text) := splitGap text
  if text.isEmpty || (splitHeaderLine? text).isSome then some 0
  else if startsHeaderLine text then some faultyCost
  else if (Reading.ofText network .topLevel text).complete?.isSome then some 0
  else if Reading.starts network .topLevel text then some faultyCost
  else none

/-- The fault of a package or import declaration that breaks the grammar. -/
def headerFault? (start : Position) (text : List Char) : Option SyntaxTree :=
  (repair? followCost? text).map fun repair =>
    .node (if repair.isMissing then .missing else .error)
      (start.afterAll (text.take repair.fault)) (text.drop repair.fault) []

/-- The declaration or statement at the front of a text, by the grammar. -/
def grammarPiece (start : Position) (text : List Char) : Piece :=
  let reading := Reading.ofText network .topLevel text
  if startsHeaderLine text then
    ⟨(headerFault? start text).getD (faultAt start text reading), text, []⟩
  else match reading.complete? with
    | some n =>
      if n = 0 then ⟨faultAt start text reading, text, []⟩
      else ⟨.node .other start (text.take n) [], text.take n, text.drop n⟩
    | none => ⟨faultAt start text reading, text, []⟩

/-- The piece at the front of a text that is not empty and starts with no gap. A semicolon alone is
    one. -/
def piece (start : Position) : List Char → Piece
  | ';' :: rest => ⟨.node .other start [';'] [], [';'], rest⟩
  | text => (headerPiece? start text).getD (grammarPiece start text)

/-- The trees of the pieces of a text, at most `fuel` of them. -/
def pieces : (fuel : Nat) → Position → List Char → List SyntaxTree
  | 0, _, _ => []
  | fuel + 1, position, text =>
    let (gap, text) := splitGap text
    let start := position.afterAll gap
    if text.isEmpty then []
    else
      let found := piece start text
      found.tree :: pieces fuel (start.afterAll found.read) found.rest

/-- The syntax tree of a source file. A byte order mark at its very front is passed over. -/
def parse (source : String) : SyntaxTree :=
  let text := source.toList
  let mark := text.takeWhile (· = '\ufeff') |>.take 1
  let start := Position.front.afterAll mark
  .node .program .front text (pieces text.length start (text.drop mark.length))

/-- The declarations at the top of a source file, or the place of the first fault in it. -/
def declarations (source : String) : Except (Option Position) (List Declaration) :=
  (parse source).declarations

end JavaImports.Java
