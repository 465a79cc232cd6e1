-- SUMMARY: The source files of a project, and the import map of their units.
import JavaImports.Config.Inclusion
import JavaImports.FileSystem.Operations
import JavaImports.FileSystem.Walk
import JavaImports.ImportMap
import JavaImports.Language
import JavaImports.Warning

/-! # Scanning a project

The files of a project are the regular files that a walk below its root comes to, in the order of
the walk. A visit of the project keeps those that are selected; what cannot be told on the walk ends
it. A scan reads the files that were kept, one after another, and adds the imports of each to the
map. The first file that cannot be read ends it. -/

namespace JavaImports

/-- The path of a location below a root. -/
def pathBelow (root : String) (relative : Location) : String :=
  Path.join root ("/".intercalate relative)

/-- The path under which a walk that starts at a root knows a location. -/
def walkPath (root : String) (relative : Location) : String :=
  if relative.isEmpty then root else pathBelow root relative

/-- A path with slashes for its backslashes. -/
def withSlashes (path : String) : String :=
  String.ofList (path.toList.map fun c => if c = '\\' then '/' else c)

/-- What a visit makes of an entry below the root. -/
inductive Finding where
  /-- The entry is no file to be read. -/
  | skipped
  /-- The file is left out. -/
  | warned (warning : Warning)
  | selected (path : String)
deriving DecidableEq, Repr

/-- The files that a scan reads, if they can all be told, and the warnings about those it leaves
    out. -/
structure Selection where
  warnings : List Warning
  result : Except Failure (List String)

namespace Selection

/-- Whether a file has to be read that stands at a path and has a given size. `relative` is what
    remains of the path below the root. -/
def judge (config : Config) (accepts : String → Bool) (path relative : String)
    (size? : Except FileError Nat) : Except Failure Finding :=
  if !config.selects relative || !accepts path then .ok .skipped
  else match size? with
    | .error error => .error (.walk error path)
    | .ok size =>
      if config.sizeLimit.toNat < size then
        .ok (.warned (.overLimit relative size config.sizeLimit.toNat))
      else .ok (.selected path)

/-- What a visit makes of a part of the walk below the root, which leads to `directory`. -/
def examine (fs : FileSystem) (config : Config) (accepts : String → Bool) (root : String)
    (directory : Location) : Except FileSystem.WalkError (Location × Node) → Except Failure Finding
  | .error ⟨none, error⟩ => .error (.file error root)
  | .error ⟨some place, error⟩ => .error (.walk error (walkPath root place))
  | .ok (place, node) =>
    match node.size? with
    | none => .ok .skipped
    | some size =>
      match Path.stripPrefix? root (walkPath root place) with
      | none => .ok .skipped
      | some relative =>
        judge config accepts (walkPath root place) (withSlashes relative)
          (match fs.troubles.unsized? (directory ++ place) with
            | some error => .error error
            | none => .ok size)

/-- Gathers what is made of the parts of a walk, one after another. The first failure ends it. -/
def gather {α : Type} (examine : α → Except Failure Finding) : List α → Selection
  | [] => ⟨[], .ok []⟩
  | part :: more =>
    match examine part with
    | .error failure => ⟨[], .error failure⟩
    | .ok .skipped => gather examine more
    | .ok (.warned warning) =>
      let rest := gather examine more
      ⟨warning :: rest.warnings, rest.result⟩
    | .ok (.selected path) =>
      let rest := gather examine more
      ⟨rest.warnings, rest.result.map (path :: ·)⟩

/-- The files of a project that a configuration selects and a test accepts, but for those over the
    limit. -/
def ofProject (fs : FileSystem) (config : Config) (accepts : String → Bool) (root : String) :
    Selection :=
  match fs.directory? root with
  | none => ⟨[], .error (.noProject root)⟩
  | some directory =>
    gather (examine fs config accepts root directory) (fs.walkBelow directory [])

end Selection

/-- What came of a scan, and the warnings up to its end. -/
structure Scan where
  warnings : List Warning
  result : Except Failure ImportMap

namespace Scan

/-- The unit of the file at a path; none if no language has files like it. -/
def unit? (fs : FileSystem) (languages : Languages) (path : String) :
    Except Failure (Option SourceUnit) :=
  match languages.forFile? path with
  | none => .ok none
  | some language =>
    match fs.readText path with
    | .error error => .error (.file error path)
    | .ok source => (language.unit path source).map some

/-- Adds the units of files to a map, one after another. -/
def ofFiles (fs : FileSystem) (languages : Languages) (filter : SymbolFilter) :
    ImportMap → List String → Scan
  | imports, [] => ⟨[], .ok imports⟩
  | imports, path :: paths =>
    match unit? fs languages path with
    | .error failure => ⟨[], .error failure⟩
    | .ok none => ofFiles fs languages filter imports paths
    | .ok (some file) =>
      let rest := ofFiles fs languages filter (imports.add filter file) paths
      if imports.merges filter file then ⟨.mergedUnit file.name :: rest.warnings, rest.result⟩
      else rest

end Scan

end JavaImports
