-- SUMMARY: The node that a path leads to, through directories and symbolic links.
import JavaImports.FileSystem.Basic
import JavaImports.Path

/-! # Resolving paths

A path is followed step by step from the top directory or from the working directory. A dot stays,
two dots go one directory up, and a link on the way is replaced by the steps of its target. At most
`linkLimit` links are followed. -/

namespace JavaImports.FileSystem

/-- Where a path leads: a location whose directory exists, and the node there, if any. -/
structure Place where
  location : Location
  node? : Option Node

/-- How many links one path may lead through. -/
def linkLimit : Nat := 40

/-- How many bytes a name may have. -/
def nameLimit : Nat := 255

/-- The directory a path starts from. -/
def start (path : String) (current : Location) : Location :=
  if Path.isAbsolute path then [] else current

/-- The steps of a path. A slash at the end asks for a directory, as a final dot does. -/
def pathSteps (path : String) : List String :=
  if path.toList.getLast? = some '/' then Path.steps path ++ ["."] else Path.steps path

/-- Follows steps from a directory. `links` more links may be followed; one that is the last step is
    only followed if `followLast` says so. -/
def walk (fs : FileSystem) (followLast : Bool) (links : Nat) (current : Location) :
    List String → Except FileError Place
  | [] => .ok ⟨current, some .directory⟩
  | step :: rest =>
    if step = "." then walk fs followLast links current rest
    else if step = ".." then walk fs followLast links current.dropLast rest
    else if nameLimit < step.utf8ByteSize then .error .nameTooLong
    else
      let location := current ++ [step]
      match fs.nodeAt? location with
      | none => if rest.isEmpty then .ok ⟨location, none⟩ else .error .notFound
      | some .directory => walk fs followLast links location rest
      | some (.link target) =>
        if rest.isEmpty && !followLast then .ok ⟨location, some (.link target)⟩
        else if target.isEmpty then .error .notFound
        else match links with
          | 0 => .error .tooManyLinks
          | links + 1 =>
            walk fs followLast links (start target current) (pathSteps target ++ rest)
      | some file =>
        if rest.isEmpty then .ok ⟨location, some file⟩ else .error .notADirectory
termination_by steps => (links, steps.length)

/-- Where given steps of a path lead. -/
def resolveSteps (fs : FileSystem) (followLast : Bool) (path : String) (steps : List String) :
    Except FileError Place :=
  if path.toList.contains '\x00' then .error .nulInPath
  else if path.isEmpty then .error .notFound
  else walk fs followLast linkLimit (start path fs.workingDirectory) steps

/-- Where a path leads. -/
def resolve (fs : FileSystem) (followLast : Bool) (path : String) : Except FileError Place :=
  resolveSteps fs followLast path (pathSteps path)

end JavaImports.FileSystem
