-- SUMMARY: The commands of the command line, and reading one from its arguments.
import JavaImports.Text.Split

/-! # Arguments

A command is named by the first argument. Of the arguments after it one may be a path; the others
are switches, each with a value. The value of a switch is the argument after it, or stands in the
same argument, after an equals sign or right after the letter of the switch. After two dashes alone
no argument is a switch. -/

namespace JavaImports.CommandLine

/-- What is asked of the program. -/
inductive Command where
  /-- Store the default configuration. -/
  | init (path? : Option String)
  /-- Scan the sources and write the tables. -/
  | scan (path? filter? nodes? edges? : Option String)
  /-- Render the document of existing tables. -/
  | graphml (path? nodes? edges? output? template? : Option String)
  /-- Scan the sources, write the tables and render the document. -/
  | run (path? filter? : Option String)
deriving DecidableEq, Repr

/-- Why arguments name no command. -/
inductive UsageError where
  | noCommand
  | unknownCommand (argument : String)
  | unknownSwitch (argument : String)
  | missingValue (argument : String)
  | repeatedSwitch (argument : String)
  | unexpectedArgument (argument : String)
deriving DecidableEq, Repr

/-- The text of an error. -/
def UsageError.message : UsageError → String
  | .noCommand => "a command is required: init, scan, graphml or run"
  | .unknownCommand argument => "unrecognized command '" ++ argument ++ "'"
  | .unknownSwitch argument => "unexpected argument '" ++ argument ++ "' found"
  | .missingValue argument => "a value is required for '" ++ argument ++ "'"
  | .repeatedSwitch argument => "'" ++ argument ++ "' cannot be used multiple times"
  | .unexpectedArgument argument => "unexpected argument '" ++ argument ++ "' found"

/-- A switch with a value. -/
inductive Switch where
  | filter
  | nodes
  | edges
  | output
  | template
deriving DecidableEq, Repr

/-- The name of a switch, which follows two dashes. -/
def Switch.name : Switch → String
  | filter => "filter"
  | nodes => "nodes"
  | edges => "edges"
  | output => "output"
  | template => "template"

/-- The letter of a switch, which follows one dash. -/
def Switch.letter? : Switch → Option Char
  | filter => some 'f'
  | nodes => none
  | edges => none
  | output => some 'o'
  | template => some 't'

/-- What the arguments of a command give: the path, and the values of the switches. -/
structure Given where
  path? : Option String
  values : List (Switch × String)
deriving DecidableEq, Repr

/-- The value given to a switch. -/
def Given.value? (given : Given) (switch : Switch) : Option String :=
  given.values.lookup switch

/-- Adds the path, of which there is at most one. -/
def Given.addPath (given : Given) (argument : String) : Except UsageError Given :=
  match given.path? with
  | none => .ok { given with path? := some argument }
  | some _ => .error (.unexpectedArgument argument)

/-- Adds the value of a switch, which may have only one. -/
def Given.addValue (given : Given) (switch : Switch) (argument value : String) :
    Except UsageError Given :=
  match given.value? switch with
  | none => .ok { given with values := (switch, value) :: given.values }
  | some _ => .error (.repeatedSwitch argument)

/-- What an argument is by its form. -/
inductive Form where
  | plain
  /-- Two dashes alone. -/
  | dashes
  /-- A switch; its value may stand in the same argument. -/
  | switch (switch : Switch) (value? : Option String)
  | unknown
deriving DecidableEq, Repr

/-- The form of an argument that two dashes start, by what follows them. -/
def longForm (switches : List Switch) (rest : List Char) : Form :=
  let (name, value?) := match Text.splitFirst? ['='] rest with
    | some (name, value) => (name, some (String.ofList value))
    | none => (rest, none)
  match switches.find? fun switch => switch.name.toList = name with
  | some switch => .switch switch value?
  | none => .unknown

/-- The form of an argument that one dash starts, by the letter and what follows it. -/
def shortForm (switches : List Switch) (letter : Char) (rest : List Char) : Form :=
  let value? := match rest with
    | [] => none
    | '=' :: value => some (String.ofList value)
    | value => some (String.ofList value)
  match switches.find? fun switch => switch.letter? = some letter with
  | some switch => .switch switch value?
  | none => .unknown

/-- The form of an argument. A dash alone is plain. -/
def formOf (switches : List Switch) (argument : String) : Form :=
  match argument.toList with
  | ['-', '-'] => .dashes
  | '-' :: '-' :: rest => longForm switches rest
  | '-' :: letter :: rest => shortForm switches letter rest
  | _ => .plain

/-- Reads the arguments of a command that knows some switches. `switching` tells whether arguments
    may still be switches. -/
def readArguments (switches : List Switch) (switching : Bool) (given : Given) :
    List String → Except UsageError Given
  | [] => .ok given
  | argument :: rest =>
    match if switching then formOf switches argument else .plain with
    | .plain =>
      match given.addPath argument with
      | .ok given => readArguments switches switching given rest
      | .error error => .error error
    | .dashes => readArguments switches false given rest
    | .switch switch (some value) =>
      match given.addValue switch argument value with
      | .ok given => readArguments switches switching given rest
      | .error error => .error error
    | .switch switch none =>
      match rest with
      | [] => .error (.missingValue argument)
      | value :: rest =>
        if formOf switches value ≠ .plain then .error (.missingValue argument)
        else match given.addValue switch argument value with
          | .ok given => readArguments switches switching given rest
          | .error error => .error error
    | .unknown => .error (.unknownSwitch argument)

/-- The command that arguments name. -/
def Command.ofArguments : List String → Except UsageError Command
  | [] => .error .noCommand
  | name :: rest =>
    let read (switches : List Switch) := readArguments switches true ⟨none, []⟩ rest
    if name = "init" then do
      let given ← read []
      return .init given.path?
    else if name = "scan" then do
      let given ← read [.filter, .nodes, .edges]
      return .scan given.path? (given.value? .filter) (given.value? .nodes) (given.value? .edges)
    else if name = "graphml" then do
      let given ← read [.nodes, .edges, .output, .template]
      return .graphml given.path? (given.value? .nodes) (given.value? .edges)
        (given.value? .output) (given.value? .template)
    else if name = "run" then do
      let given ← read [.filter]
      return .run given.path? (given.value? .filter)
    else .error (.unknownCommand name)

end JavaImports.CommandLine
