-- SUMMARY: What can go wrong, by cause, and the message for each cause.
import JavaImports.Config.Format
import JavaImports.FileSystem.Basic
import JavaImports.Pattern.Error
import JavaImports.Text.Position
import JavaImports.Text.Quoted

/-! # Failures

A failure holds its cause. Its message says what failed and names the path or the text it is about;
how a message gives places and reasons in detail is a choice of its own. -/

namespace JavaImports

/-- Why no configuration could be read or stored. -/
inductive ConfigFailure where
  | unreadable (path : String) (error : FileError)
  | invalid (path : String) (error : ConfigError)
  | noDirectory (path : String) (error : FileError)
  | unwritable (path : String) (error : FileError)
  | unmovable (source target : String) (error : FileError)
deriving DecidableEq, Repr

/-- Why the work was given up. -/
inductive Failure where
  /-- A source file breaks the grammar of its language, at a position if one was found. -/
  | syntaxError (position? : Option Position) (path : String)
  /-- A source file is refused for a reason its language gives. -/
  | refused (reason path : String)
  | badPattern (error : PatternError) (pattern : String)
  | file (error : FileError) (path : String)
  /-- What stands at a path below the root of a project cannot be told. -/
  | walk (error : FileError) (path : String)
  | noProject (path : String)
  /-- A record of an edge table, on a line counted from one, is not an edge. -/
  | malformedRecord (path : String) (line : Nat) (record : String)
  /-- The template does not close its root element; the built-in one has no path. -/
  | unclosedTemplate (path? : Option String)
  | config (failure : ConfigFailure)
deriving DecidableEq, Repr

/-- How a message gives the details of a cause. -/
structure Details where
  position : Position → String
  patternError : PatternError → String
  configError : ConfigError → String

/-- All details, with lines and columns counted from one. -/
def Details.full : Details where
  position place := "line " ++ toString (place.line + 1) ++ ", column " ++
    toString (place.column + 1)
  patternError := PatternError.message
  configError := ConfigError.message

/-- What a message says about a configuration. -/
def ConfigFailure.message (details : Details) : ConfigFailure → String
  | unreadable path error => "failed to read config file '" ++ path ++ "': " ++ error.message
  | invalid path error =>
    "failed to parse config file '" ++ path ++ "': " ++ details.configError error
  | noDirectory path error => "failed to create directory '" ++ path ++ "': " ++ error.message
  | unwritable path error =>
    "failed to write temporary config file '" ++ path ++ "': " ++ error.message
  | unmovable source target error =>
    "failed to rename '" ++ source ++ "' to '" ++ target ++ "': " ++ error.message

namespace Failure

/-- A message with the path it is about. -/
def about (path message : String) : String :=
  message ++ " (path: " ++ path ++ ")"

/-- The message of a failure. -/
def message (details : Details) : Failure → String
  | syntaxError none path => about path "extraction error: syntax error"
  | syntaxError (some position) path =>
    about path ("extraction error: syntax error at " ++ details.position position)
  | refused reason path => about path ("extraction error: " ++ reason)
  | badPattern error pattern =>
    "filter pattern error: " ++ details.patternError error ++ " (pattern: " ++ pattern ++ ")"
  | file error path => about path ("io error: " ++ error.message)
  | walk error path =>
    about path ("io error: IO error for operation on " ++ path ++ ": " ++ error.message)
  | noProject path => about path "io error: project root is not a directory"
  | malformedRecord path line record =>
    "malformed record at " ++ path ++ ":" ++ toString line ++ ": " ++ Text.quoted record
  | unclosedTemplate path? =>
    about (path?.getD "<built-in>") "template error: template has no closing </graphml> element"
  | config failure => "config error: " ++ failure.message details

end Failure

end JavaImports
