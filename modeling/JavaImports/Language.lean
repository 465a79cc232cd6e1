-- SUMMARY: Languages of source files, and the choice of one by a file's extension.
import JavaImports.Failure
import JavaImports.Unit

/-! # Languages

A language knows the extensions of its files and reads the declarations of a file from its text. Of
several languages with one extension the first is chosen. -/

namespace JavaImports

/-- A language that source files can be written in. -/
structure Language where
  name : String
  /-- The extensions of its files, without a dot. -/
  extensions : List String
  /-- The declarations of the file at a path, from its text. -/
  declarations : (path source : String) → Except Failure (List Declaration)

/-- The unit of a file, from its text. -/
def Language.unit (language : Language) (path source : String) : Except Failure SourceUnit := do
  return SourceUnit.ofDeclarations path (← language.declarations path source)

/-- The languages of a project, the preferred ones first. -/
abbrev Languages := List Language

namespace Languages

/-- The language of the file at a path. -/
def forFile? (languages : Languages) (path : String) : Option Language :=
  match Path.extension? path with
  | none => none
  | some extension => languages.find? fun language => language.extensions.contains extension

/-- The extensions of all languages, in order. -/
def extensions (languages : Languages) : List String :=
  languages.flatMap fun language => language.extensions

end Languages

end JavaImports
