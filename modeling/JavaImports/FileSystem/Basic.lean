-- SUMMARY: A file system as a value: which node stands at which location, and what can go wrong.
import JavaImports.SortedMap

/-! # File systems

A location is the list of names that lead from the top directory to a node. A file system says which
node stands at which location, and what the system refuses to do there although the nodes would
allow it. -/

namespace JavaImports

/-- The names that lead from the top directory to a node. -/
abbrev Location := List String

/-- Why an operation on a file system fails. -/
inductive FileError where
  | notFound
  | alreadyExists
  | notADirectory
  | isADirectory
  | tooManyLinks
  | nameTooLong
  | busy
  | nulInPath
  | notText
  /-- Any other error of the system, with its text and its number. -/
  | system (text : String) (number : Nat)
deriving DecidableEq, Repr

/-- The text of a failure, with the number the system gives it. -/
def FileError.message : FileError → String
  | .notFound => "No such file or directory (os error 2)"
  | .alreadyExists => "File exists (os error 17)"
  | .notADirectory => "Not a directory (os error 20)"
  | .isADirectory => "Is a directory (os error 21)"
  | .tooManyLinks => "Too many levels of symbolic links (os error 40)"
  | .nameTooLong => "File name too long (os error 36)"
  | .busy => "Device or resource busy (os error 16)"
  | .nulInPath => "file name contained an unexpected NUL byte"
  | .notText => "stream did not contain valid UTF-8"
  | .system text number => text ++ " (os error " ++ toString number ++ ")"

/-! ## Nodes -/

/-- Contents are compared byte by byte. -/
local instance decidableEqContent : DecidableEq ByteArray := ByteArray.instDecidableEq

/-- What can stand at a location. -/
inductive Node where
  | file (content : ByteArray)
  /-- A symbolic link, with the path it stands for. -/
  | link (target : String)
  | directory
  /-- A regular file of a given size that cannot be read, and why. -/
  | sealed (size : Nat) (error : FileError)
deriving DecidableEq

namespace Node

/-- The size of a regular file. -/
def size? : Node → Option Nat
  | .file content => some content.size
  | .link _ => none
  | .directory => none
  | .sealed size _ => some size

/-- Whether a node is a regular file. -/
def isRegular (node : Node) : Bool :=
  node.size?.isSome

end Node

/-! ## Troubles -/

/-- What the system refuses to do, and where, for reasons that the nodes do not show: rights,
    failing devices, too little space. None of it changes while a program runs. -/
structure Troubles where
  /-- Why the entries of a directory cannot be listed. -/
  unlisted? : Location → Option FileError := fun _ => none
  /-- Entries of a directory of which it cannot be told what they are, or not even their names. -/
  lost : Location → List (Option String × FileError) := fun _ => []
  /-- Why the size of a file cannot be told. -/
  unsized? : Location → Option FileError := fun _ => none
  /-- Why a file cannot be opened to be written. -/
  unwritable? : Location → Option FileError := fun _ => none
  /-- How many bytes can be written to a file before writing breaks off, and why. -/
  cutShort? : Location → Option (Nat × FileError) := fun _ => none
  /-- Why an entry can be neither made nor replaced nor taken away. -/
  fixed? : Location → Option FileError := fun _ => none
  /-- Why an entry cannot be taken away, though it can be made and replaced. -/
  bound? : Location → Option FileError := fun _ => none

/-- Why an entry cannot be taken away. -/
def Troubles.held? (troubles : Troubles) (location : Location) : Option FileError :=
  (troubles.fixed? location).or (troubles.bound? location)

@[simp] theorem Troubles.held?_none (location : Location) : Troubles.held? {} location = none :=
  rfl

theorem Troubles.fixed?_of_held? {troubles : Troubles} {location : Location}
    (h : troubles.held? location = none) : troubles.fixed? location = none :=
  (Option.or_eq_none_iff.1 h).1

/-- The nodes of a file system, the directory that relative paths start from, and the troubles. -/
structure FileSystem where
  nodes : SortedMap Location Node
  workingDirectory : Location
  troubles : Troubles := {}

namespace FileSystem

/-- The file system of the top directory alone, in which nothing goes wrong. -/
def bare : FileSystem where
  nodes := SortedMap.empty
  workingDirectory := []

/-- The node at a location. The top directory is always there. -/
def nodeAt? (fs : FileSystem) (location : Location) : Option Node :=
  if location.isEmpty then some .directory else fs.nodes.get? location

/-- The file system with `node` at a location. -/
def put (fs : FileSystem) (location : Location) (node : Node) : FileSystem :=
  { fs with nodes := fs.nodes.insert location node }

/-- The file system without the node at a location. -/
def drop (fs : FileSystem) (location : Location) : FileSystem :=
  { fs with nodes := fs.nodes.erase location }

/-- The file system without the node at a location and everything below it. -/
def dropTree (fs : FileSystem) (location : Location) : FileSystem :=
  { fs with nodes := fs.nodes.filterKeys fun other => !location.isPrefixOf other }

end FileSystem

end JavaImports
