-- SUMMARY: Loading and saving the configuration of a project.
import JavaImports.Failure
import JavaImports.FileSystem.Operations
import JavaImports.Json.Reader
import JavaImports.Json.Writer

/-! # Stored configurations

A project keeps its configuration in a file of its own directory of settings. A project without that
file has the default configuration. -/

namespace JavaImports.Config

/-- The configuration that a text describes. -/
def ofString (text : String) : Except ConfigError Config :=
  match Json.ofString? text with
  | some value => ofJson value
  | none => .error .notJson

/-- The text a configuration is stored as. -/
def render (config : Config) : String :=
  config.toJson.render

/-- The configuration of a project. -/
def load (fs : FileSystem) (root : String) : Except Failure Config :=
  if !fs.hasPath (path root) then .ok (ofRoot root)
  else match fs.readText (path root) with
    | .error error => .error (.config (.unreadable (path root) error))
    | .ok text =>
      match ofString text with
      | .error error => .error (.config (.invalid (path root) error))
      | .ok config => .ok config

/-- Stores a configuration. It is written to a file next to its place and then moved there. -/
def save (fs : FileSystem) (root : String) (config : Config) :
    FileSystem × Except Failure Unit :=
  match fs.createDirectories (directory root) with
  | (made, .error error) => (made, .error (.config (.noDirectory (directory root) error)))
  | (made, .ok ()) =>
    match made.writeText (temporaryPath root) config.render with
    | (written, .error error) =>
      (written, .error (.config (.unwritable (temporaryPath root) error)))
    | (written, .ok ()) =>
      match written.moveFile (temporaryPath root) (path root) with
      | .error error =>
        (written, .error (.config (.unmovable (temporaryPath root) (path root) error)))
      | .ok moved => (moved, .ok ())

end JavaImports.Config
