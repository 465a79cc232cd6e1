-- SUMMARY: The declarations at the top of a syntax tree, and what becomes of a file with a tree.
import JavaImports.Failure
import JavaImports.Java.Syntax
import JavaImports.Unicode.Blank
import JavaImports.Unit

/-! # Declarations of a syntax tree

Which tree a text has is up to a parser; what a file declares is read off its tree. A tree with a
fault declares nothing. The file is refused then, with the place of the first fault as far as the
search finds one. -/

namespace JavaImports.Java

/-- The declaration a node at the top of a file makes. -/
def declaration? (tree : SyntaxTree) : Option Declaration :=
  match tree.children.find? fun child => child.kind = .name with
  | none => none
  | some name =>
    let written := String.ofList (Unicode.withoutBlanks name.text)
    match tree.kind with
    | .package => some (.package written)
    | .imports => some (.imports written)
    | _ => none

/-- The declarations at the top of a tree, or the place of the first fault that is found in it. -/
def SyntaxTree.declarations (tree : SyntaxTree) : Except (Option Position) (List Declaration) :=
  if tree.hasFault then .error (tree.firstFault?.map SyntaxTree.start)
  else .ok (tree.children.filterMap declaration?)

/-- A parser gives the syntax tree of a source file, or says why there is none. -/
abbrev Parser := (source : String) → Except String SyntaxTree

/-- The declarations of the file at a path, from the tree of its text. -/
def Parser.declarations (parser : Parser) (path source : String) :
    Except Failure (List Declaration) :=
  match parser source with
  | .error reason => .error (.refused reason path)
  | .ok tree =>
    match tree.declarations with
    | .error position? => .error (.syntaxError position? path)
    | .ok declarations => .ok declarations

end JavaImports.Java
