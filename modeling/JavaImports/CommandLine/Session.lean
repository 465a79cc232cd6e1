-- SUMMARY: What each command does to the file system and what it prints.
import JavaImports.CommandLine.Arguments
import JavaImports.Graphml
import JavaImports.Project

/-! # Commands at work

A command changes the file system, prints lines and warnings, and may fail; what it did before it
failed stays done. One command after another is a command too, in which the second only runs if the
first did not fail. -/

namespace JavaImports.CommandLine

/-- What came of a command. -/
structure Session where
  files : FileSystem
  lines : List String := []
  warnings : List Warning := []
  failure? : Option Failure := none

namespace Session

/-- A command that only failed. -/
def failed (fs : FileSystem) (failure : Failure) : Session :=
  { files := fs, failure? := some failure }

/-- Goes on in the file system a command left, unless the command failed. -/
def andThen (first : Session) (next : FileSystem → Session) : Session :=
  match first.failure? with
  | some _ => first
  | none =>
    let second := next first.files
    { second with
      lines := first.lines ++ second.lines
      warnings := first.warnings ++ second.warnings }

end Session

/-- The path of the working directory. -/
def workingPath (fs : FileSystem) : String :=
  "/" ++ "/".intercalate fs.workingDirectory

/-- The path of the project, the working directory if none is given. -/
def projectPath (fs : FileSystem) (path? : Option String) : String :=
  path?.getD (workingPath fs)

/-- Stores the default configuration of a project. -/
def storeDefaults (fs : FileSystem) (root : String) : Session :=
  match Config.save fs root (Config.ofRoot root) with
  | (files, .error failure) => .failed files failure
  | (files, .ok ()) => { files, lines := ["Wrote " ++ Config.path root] }

/-- Writes the tables of nodes and edges of an import map. -/
def writeTables (fs : FileSystem) (root : String) (config : Config) (imports : ImportMap) :
    FileSystem × Except Failure Unit :=
  let nodes := Table.ofNodes config.nodeSeparator imports.nodes.toList
  let edges := Table.ofEdges config.edgeSeparator config.recordSeparator imports.edges
  match Table.write fs (Config.resolve root config.nodesFile) nodes with
  | (fs, .error failure) => (fs, .error failure)
  | (fs, .ok ()) => Table.write fs (Config.resolve root config.edgesFile) edges

/-- The lines that tell about a scan. -/
def scanReport (root : String) (config : Config) (imports : ImportMap) : List String :=
  ["Scanned " ++ toString imports.size ++ " units: " ++ toString imports.nodes.size ++
      " nodes, " ++ toString imports.edges.length ++ " edges",
    "  Nodes: " ++ Config.resolve root config.nodesFile,
    "  Edges: " ++ Config.resolve root config.edgesFile]

/-- Scans a project and writes its tables. -/
def scanProject (fs : FileSystem) (root : String) (config : Config) : Session :=
  let found := (Project.withConfig root config).scan fs config.filter
  match found.result with
  | .error failure => { Session.failed fs failure with warnings := found.warnings }
  | .ok imports =>
    match writeTables fs root config imports with
    | (files, .error failure) => { Session.failed files failure with warnings := found.warnings }
    | (files, .ok ()) =>
      { files, lines := scanReport root config imports, warnings := found.warnings }

/-- How the documents of a project are made. -/
def style (fs : FileSystem) (root : String) (config : Config) : Except Failure Graphml.Style :=
  let plain : Graphml.Style := { edgeSeparator := config.edgeSeparator }
  match config.template? with
  | none => .ok plain
  | some template => plain.withTemplateFile fs (Config.resolve root template)

/-- Renders the document of the tables of a project. -/
def renderProject (fs : FileSystem) (root : String) (config : Config) : Session :=
  let output := Config.resolve root config.graphmlFile
  match style fs root config with
  | .error failure => .failed fs failure
  | .ok style =>
    match style.write fs (Config.resolve root config.nodesFile)
        (Config.resolve root config.edgesFile) output with
    | (files, .error failure) => .failed files failure
    | (files, .ok ()) => { files, lines := ["Wrote " ++ output] }

/-- Does something with the configuration of a project. -/
def withConfig (fs : FileSystem) (root : String) (work : Config → Session) : Session :=
  match Config.load fs root with
  | .error failure => .failed fs failure
  | .ok config => work config

/-- The path that a command is given. -/
def Command.path? : Command → Option String
  | .init path? => path?
  | .scan path? _ _ _ => path?
  | .graphml path? _ _ _ _ => path?
  | .run path? _ => path?

/-- The configuration of a project with the settings that a command changes. -/
def Command.adjust (config : Config) : Command → Config
  | .init _ => config
  | .scan _ filter? nodes? edges? =>
    { config with
      filter := filter?.getD config.filter
      nodesFile := nodes?.getD config.nodesFile
      edgesFile := edges?.getD config.edgesFile }
  | .graphml _ nodes? edges? output? template? =>
    { config with
      nodesFile := nodes?.getD config.nodesFile
      edgesFile := edges?.getD config.edgesFile
      graphmlFile := output?.getD config.graphmlFile
      template? := template?.or config.template? }
  | .run _ filter? => { config with filter := filter?.getD config.filter }

/-- Scans a project, writes its tables and renders their document. -/
def runProject (fs : FileSystem) (root : String) (config : Config) : Session :=
  (scanProject fs root config).andThen fun fs => renderProject fs root config

/-- Runs a command. -/
def Command.execute (command : Command) (fs : FileSystem) : Session :=
  let root := projectPath fs command.path?
  match command with
  | .init _ => storeDefaults fs root
  | .scan _ _ _ _ =>
    withConfig fs root fun config => scanProject fs root (command.adjust config)
  | .graphml _ _ _ _ _ =>
    withConfig fs root fun config => renderProject fs root (command.adjust config)
  | .run _ _ =>
    withConfig fs root fun config => runProject fs root (command.adjust config)

end JavaImports.CommandLine
