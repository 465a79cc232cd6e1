-- SUMMARY: Projects: a root with its configuration, and the import map built last.
import JavaImports.Config.Store
import JavaImports.Java.Language
import JavaImports.Scan

/-! # Projects

A project can be built many times. A build first forgets the imports there are, then reads the
pattern, visits the files and scans them, and keeps the imports it found if nothing failed on the
way. -/

namespace JavaImports

/-- A project, with the import map of its last build. -/
structure Project where
  root : String
  config : Config
  languages : Languages
  imports : ImportMap

namespace Project

/-- A project with a given configuration, not built yet. -/
def withConfig (root : String) (config : Config) : Project :=
  ⟨root, config, Languages.known, ImportMap.empty⟩

/-- A project with the default configuration. -/
def ofRoot (root : String) : Project :=
  withConfig root (Config.ofRoot root)

/-- A project with the configuration it stores. -/
def load (fs : FileSystem) (root : String) : Except Failure Project := do
  return withConfig root (← Config.load fs root)

/-- The project with its files in other languages. -/
def withLanguages (project : Project) (languages : Languages) : Project :=
  { project with languages }

/-- The project without imports. -/
def clear (project : Project) : Project :=
  { project with imports := ImportMap.empty }

/-- The files that a build of the project reads: those in some language of the project. -/
def visit (project : Project) (fs : FileSystem) : Selection :=
  Selection.ofProject fs project.config (fun path => (project.languages.forFile? path).isSome)
    project.root

/-- The project after a build that keeps the symbols that match a pattern, and what came of it. -/
def build (project : Project) (fs : FileSystem) (pattern : String) : Project × Scan :=
  let cleared := project.clear
  match SymbolFilter.ofText pattern with
  | .error error => (cleared, ⟨[], .error (.badPattern error pattern)⟩)
  | .ok filter =>
    match cleared.visit fs with
    | ⟨warnings, .error failure⟩ => (cleared, ⟨warnings, .error failure⟩)
    | ⟨warnings, .ok files⟩ =>
      match Scan.ofFiles fs cleared.languages filter ImportMap.empty files with
      | ⟨more, .error failure⟩ => (cleared, ⟨warnings ++ more, .error failure⟩)
      | ⟨more, .ok imports⟩ => ({ cleared with imports }, ⟨warnings ++ more, .ok imports⟩)

/-- What comes of a build that keeps the symbols that match a pattern. -/
def scan (project : Project) (fs : FileSystem) (pattern : String) : Scan :=
  (project.build fs pattern).2

/-- The project after a build that keeps all symbols, and what came of it. -/
def buildAll (project : Project) (fs : FileSystem) : Project × Scan :=
  project.build fs Config.keepAll

end Project

end JavaImports
