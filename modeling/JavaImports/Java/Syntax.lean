-- SUMMARY: Syntax trees, and the search for the first fault in one.
import JavaImports.Text.Position

/-! # Syntax trees

Source text that does not follow the grammar still has a tree; the faults are nodes of it. An error
node stands for text that fits nowhere, a missing node for text that should be there. The first
fault is the first in document order: a node comes before its children, and they come from left to
right. -/

namespace JavaImports.Java

/-- What a node of a syntax tree stands for. -/
inductive SyntaxKind where
  | program
  | package
  | imports
  /-- The name that a package or import declaration is about. -/
  | name
  /-- Anything else at the top of a file. -/
  | other
  | error
  | missing
deriving DecidableEq, Repr

/-- Whether a node of a kind is an error or missing. -/
def SyntaxKind.isFault (kind : SyntaxKind) : Bool :=
  kind = .error || kind = .missing

/-- A syntax tree: what its root stands for, where it starts, its text, and its children. -/
inductive SyntaxTree where
  | node (kind : SyntaxKind) (start : Position) (text : List Char) (children : List SyntaxTree)

namespace SyntaxTree

/-- What the root stands for. -/
def kind : SyntaxTree → SyntaxKind
  | node kind _ _ _ => kind

/-- Where the tree starts. -/
def start : SyntaxTree → Position
  | node _ start _ _ => start

/-- The text of the whole tree. -/
def text : SyntaxTree → List Char
  | node _ _ text _ => text

/-- The children of the root. -/
def children : SyntaxTree → List SyntaxTree
  | node _ _ _ children => children

mutual

/-- Whether any node of the tree is a fault. -/
def hasFault : SyntaxTree → Bool
  | node kind _ _ children => kind.isFault || anyFault children

/-- Whether any node of the trees is a fault. -/
def anyFault : List SyntaxTree → Bool
  | [] => false
  | tree :: more => hasFault tree || anyFault more

end

mutual

/-- The first fault of a tree. Children without faults are not searched. -/
def firstFault? : SyntaxTree → Option SyntaxTree
  | node kind start text children =>
    if kind.isFault then some (node kind start text children)
    else firstFaultIn? children

/-- The first fault of several trees. -/
def firstFaultIn? : List SyntaxTree → Option SyntaxTree
  | [] => none
  | tree :: more =>
    if hasFault tree then
      match firstFault? tree with
      | some fault => some fault
      | none => firstFaultIn? more
    else firstFaultIn? more

end

end SyntaxTree

end JavaImports.Java
