-- SUMMARY: Configurations as JSON values.
import JavaImports.Config.Basic
import JavaImports.Json.Value

/-! # The stored form of a configuration

A configuration is stored as a record with one member per setting. When it is read, settings without
a member keep their defaults and members of other names are passed over. A list is read as the
values of the settings in their order. -/

namespace JavaImports

/-- Why a text does not describe a configuration. -/
inductive ConfigError where
  | notJson
  | notRecord
  /-- A key with half of a surrogate pair in it. -/
  | brokenKey
  | repeatedKey (key : String)
  | wrongValue (key : String)
  | tooManyValues
deriving DecidableEq, Repr

/-- The text of an error. -/
def ConfigError.message : ConfigError → String
  | .notJson => "not a JSON value"
  | .notRecord => "expected a record of settings"
  | .brokenKey => "half of a surrogate pair in a key"
  | .repeatedKey key => "repeated setting " ++ key
  | .wrongValue key => "wrong value for setting " ++ key
  | .tooManyValues => "more values than settings"

/-- One setting of a configuration. -/
inductive Setting where
  | version
  | rootDirectory
  | included
  | excluded
  | sizeLimit
  | filter
  | nodeSeparator
  | edgeSeparator
  | recordSeparator
  | nodesFile
  | edgesFile
  | graphmlFile
  | template
deriving DecidableEq, Repr

namespace Setting

/-- The settings in the order they are stored. -/
def all : List Setting :=
  [.version, .rootDirectory, .included, .excluded, .sizeLimit, .filter, .nodeSeparator,
    .edgeSeparator, .recordSeparator, .nodesFile, .edgesFile, .graphmlFile, .template]

/-- The key of a setting. -/
def key : Setting → String
  | version => "version"
  | rootDirectory => "root_dir"
  | included => "include"
  | excluded => "exclude"
  | sizeLimit => "max_file_size"
  | filter => "filter"
  | nodeSeparator => "node_separator"
  | edgeSeparator => "edge_separator"
  | recordSeparator => "record_separator"
  | nodesFile => "nodes_file"
  | edgesFile => "edges_file"
  | graphmlFile => "graphml_file"
  | template => "template"

/-- The setting with a given key. -/
def ofKey? (key : String) : Option Setting :=
  all.find? fun setting => setting.key = key

/-- The value a configuration gives to a setting. -/
def value (config : Config) : Setting → Json
  | version => .ofNat config.version.toNat
  | rootDirectory => .ofText config.rootDirectory
  | included => .ofTexts config.included
  | excluded => .ofTexts config.excluded
  | sizeLimit => .ofNat config.sizeLimit.toNat
  | filter => .ofText config.filter
  | nodeSeparator => .ofText config.nodeSeparator
  | edgeSeparator => .ofText config.edgeSeparator
  | recordSeparator => .ofText config.recordSeparator
  | nodesFile => .ofText config.nodesFile
  | edgesFile => .ofText config.edgesFile
  | graphmlFile => .ofText config.graphmlFile
  | template => (config.template?.map Json.ofText).getD .null

/-- A number below a bound. -/
def below? (bound : Nat) (value : Json) : Option Nat :=
  value.natural?.filter fun n => n < bound

/-- A text, or none where nothing is set. -/
def optionalText? : Json → Option (Option String)
  | .null => some none
  | value => value.text?.map some

/-- The configuration in which a setting has a given value, if it is one the setting can have. -/
def set? (config : Config) (given : Json) : Setting → Option Config
  | version =>
    (below? UInt32.size given).map fun n => { config with version := UInt32.ofNat n }
  | rootDirectory => given.text?.map fun text => { config with rootDirectory := text }
  | included => given.texts?.map fun globs => { config with included := globs }
  | excluded => given.texts?.map fun globs => { config with excluded := globs }
  | sizeLimit =>
    (below? UInt64.size given).map fun n => { config with sizeLimit := UInt64.ofNat n }
  | filter => given.text?.map fun text => { config with filter := text }
  | nodeSeparator => given.text?.map fun text => { config with nodeSeparator := text }
  | edgeSeparator => given.text?.map fun text => { config with edgeSeparator := text }
  | recordSeparator => given.text?.map fun text => { config with recordSeparator := text }
  | nodesFile => given.text?.map fun text => { config with nodesFile := text }
  | edgesFile => given.text?.map fun text => { config with edgesFile := text }
  | graphmlFile => given.text?.map fun text => { config with graphmlFile := text }
  | template => (optionalText? given).map fun text? => { config with template? := text? }

/-- Sets a setting, or tells that it cannot have the value. -/
def set (config : Config) (given : Json) (setting : Setting) : Except ConfigError Config :=
  match setting.set? config given with
  | some config => .ok config
  | none => .error (.wrongValue setting.key)

end Setting

namespace Config

/-- The stored form of a configuration. -/
def toJson (config : Config) : Json :=
  .record (Setting.all.map fun setting => (Json.codesOf setting.key, setting.value config))

/-- Sets what the members of a record name. `seen` are the settings named before. -/
def readMembers (config : Config) (seen : List Setting) :
    List (List Nat × Json) → Except ConfigError Config
  | [] => .ok config
  | (codes, value) :: more =>
    match Json.textOfCodes? codes with
    | none => .error .brokenKey
    | some key =>
      match Setting.ofKey? key with
      | none => readMembers config seen more
      | some setting =>
        if seen.contains setting then .error (.repeatedKey key)
        else match setting.set config value with
          | .ok config => readMembers config (setting :: seen) more
          | .error e => .error e

/-- Sets the settings to the values of a list, one after another. -/
def readItems (config : Config) : List Setting → List Json → Except ConfigError Config
  | _, [] => .ok config
  | [], _ :: _ => .error .tooManyValues
  | setting :: settings, value :: values =>
    match setting.set config value with
    | .ok config => readItems config settings values
    | .error e => .error e

/-- The configuration that a value describes. -/
def ofJson : Json → Except ConfigError Config
  | .record members => readMembers {} [] members
  | .list items => readItems {} Setting.all items
  | _ => .error .notRecord

end Config

end JavaImports
