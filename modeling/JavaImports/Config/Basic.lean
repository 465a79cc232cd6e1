-- SUMMARY: The configuration of a project, and its defaults.
import JavaImports.Path

/-! # Configurations

A configuration says which files of a project are scanned, which symbols are kept, how the tables
are written and where the results go. -/

namespace JavaImports

/-- The configuration of a project. -/
structure Config where
  /-- The version of the format the configuration is stored in. -/
  version : UInt32 := 1
  /-- The project the configuration was made for. -/
  rootDirectory : String := ""
  /-- Globs for the files to scan. -/
  included : List String := ["**/*.java"]
  /-- Globs for the files to leave out, included or not. -/
  excluded : List String :=
    ["target/**", "build/**", "out/**", ".git/**", ".gradle/**", ".importgraph/**",
      "node_modules/**"]
  /-- The greatest number of bytes a file may have to be scanned. -/
  sizeLimit : UInt64 := 1048576
  /-- The pattern that the symbols to keep match from beginning to end. -/
  filter : String := ".*"
  /-- What ends every record of the node table. -/
  nodeSeparator : String := "\n"
  /-- What stands between source and target in a record of the edge table. -/
  edgeSeparator : String := ";"
  /-- What ends every record of the edge table. -/
  recordSeparator : String := "\n"
  nodesFile : String := "nodes.csv"
  edgesFile : String := "edges.csv"
  graphmlFile : String := "dependencies.graphml"
  /-- The file with the document that the graph is put into, if it is not the built-in one. -/
  template? : Option String := none
deriving DecidableEq, Repr

namespace Config

/-- The pattern that keeps every symbol. -/
def keepAll : String := ".*"

/-- The configuration of a project that stores none. -/
def ofRoot (root : String) : Config :=
  { rootDirectory := root }

/-- The path of a file named in the configuration, seen from the project. -/
def resolve (root file : String) : String :=
  Path.join root file

/-- The directory where a project keeps its settings. -/
def directory (root : String) : String :=
  Path.join root ".importgraph"

/-- The file that a project stores its configuration in. -/
def path (root : String) : String :=
  Path.join (directory root) "config.json"

/-- The file that a configuration is written to before it takes its place. -/
def temporaryPath (root : String) : String :=
  Path.join (directory root) "config.tmp"

end Config

end JavaImports
