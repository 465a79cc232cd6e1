-- SUMMARY: What a source file declares, and the name of the unit it stands for.
import JavaImports.Path

/-! # Units

A source file stands for one unit, a class: its name is the package the file declares, a dot, and
the name of the file up to its first dot. -/

namespace JavaImports

/-- One declaration at the head of a source file. -/
inductive Declaration where
  /-- The file belongs to a package. -/
  | package (name : String)
  /-- The file uses a symbol from elsewhere. -/
  | imports (symbol : String)
deriving DecidableEq, Repr

/-- The unit of a source file and the symbols it imports, in the order of their declarations. -/
structure SourceUnit where
  name : String
  imports : List String
deriving DecidableEq, Repr

/-- The class a file holds by its name: the file name up to the first dot. -/
def className (path : String) : String :=
  match Path.fileName? path with
  | none => ""
  | some name => String.ofList (name.toList.takeWhile fun c => c != '.')

/-- The class of a file within a package; no package and the empty package are the same. -/
def unitName (package? : Option String) (path : String) : String :=
  match package? with
  | none => className path
  | some package => if package.isEmpty then className path else package ++ "." ++ className path

/-- The package of the last package declaration. -/
def declaredPackage? : List Declaration → Option String
  | [] => none
  | .package name :: rest => some ((declaredPackage? rest).getD name)
  | .imports _ :: rest => declaredPackage? rest

/-- The symbols of the import declarations, in order. -/
def declaredImports (declarations : List Declaration) : List String :=
  declarations.filterMap fun
    | .package _ => none
    | .imports symbol => some symbol

/-- The unit that a file with these declarations stands for. -/
def SourceUnit.ofDeclarations (path : String) (declarations : List Declaration) : SourceUnit :=
  ⟨unitName (declaredPackage? declarations) path, declaredImports declarations⟩

end JavaImports
