-- SUMMARY: Reading, writing, moving and removing files, and making directories.
import JavaImports.FileSystem.Resolve

/-! # Operations

Reading and writing follow links; moving and removing act on a link itself. An operation that fails
leaves the file system as it was, with two exceptions: of several directories some may have been
made, and a file may have been written in part. -/

namespace JavaImports.FileSystem

/-- The location and the node a path leads to, all links followed. -/
def find (fs : FileSystem) (path : String) : Except FileError (Location × Node) := do
  let place ← fs.resolve true path
  match place.node? with
  | none => .error .notFound
  | some node => .ok (place.location, node)

/-- Whether a path leads to anything. -/
def hasPath (fs : FileSystem) (path : String) : Bool :=
  match fs.find path with
  | .ok _ => true
  | .error _ => false

/-- The location of the directory a path leads to. -/
def directory? (fs : FileSystem) (path : String) : Option Location :=
  match fs.find path with
  | .ok (location, .directory) => some location
  | _ => none

/-- The bytes of the file a path leads to. -/
def readBytes (fs : FileSystem) (path : String) : Except FileError ByteArray := do
  match (← fs.find path).2 with
  | .file content => .ok content
  | .link _ => .error .tooManyLinks
  | .directory => .error .isADirectory
  | .sealed _ error => .error error

/-- The text of the file a path leads to. -/
def readText (fs : FileSystem) (path : String) : Except FileError String := do
  let content ← fs.readBytes path
  match String.fromUTF8? content with
  | some text => .ok text
  | none => .error .notText

/-- Whether a path can only name a directory. -/
def namesDirectory (path : String) : Bool :=
  match (pathSteps path).getLast? with
  | none => true
  | some step => step = "." || step = ".."

/-- The location of the file a path leads to, if it can be opened to be written. A file is made
    where nothing stands yet. -/
def openToWrite (fs : FileSystem) (path : String) : Except FileError Location := do
  if namesDirectory path then
    let _ ← fs.resolveSteps true path ((Path.steps path).dropLast ++ ["."])
    .error .isADirectory
  else
    let place ← fs.resolve true path
    match place.node?, fs.troubles.fixed? place.location with
    | some .directory, _ => .error .isADirectory
    | none, some error => .error error
    | _, _ =>
      match fs.troubles.unwritable? place.location with
      | some error => .error error
      | none => .ok place.location

/-- Makes the file a path leads to hold `content`, in place of what it held before. If writing
    breaks off, it holds what was written until then. -/
def writeBytes (fs : FileSystem) (path : String) (content : ByteArray) :
    FileSystem × Except FileError Unit :=
  match fs.openToWrite path with
  | .error error => (fs, .error error)
  | .ok location =>
    match fs.troubles.cutShort? location with
    | none => (fs.put location (.file content), .ok ())
    | some (room, error) =>
      if content.size ≤ room then (fs.put location (.file content), .ok ())
      else (fs.put location (.file (content.extract 0 room)), .error error)

/-- Makes the file a path leads to hold a text. -/
def writeText (fs : FileSystem) (path : String) (text : String) :
    FileSystem × Except FileError Unit :=
  fs.writeBytes path text.toUTF8

/-- Makes a directory where nothing stands yet. -/
def createDirectory (fs : FileSystem) (path : String) : Except FileError FileSystem := do
  let place ← fs.resolveSteps false path (Path.steps path)
  match place.node?, fs.troubles.fixed? place.location with
  | some _, _ => .error .alreadyExists
  | none, some error => .error error
  | none, none => .ok (fs.put place.location .directory)

/-- Makes the directory of a path, unless there is one already. -/
def ensureDirectory (fs : FileSystem) (path : String) : FileSystem × Except FileError Unit :=
  match fs.createDirectory path with
  | .ok made => (made, .ok ())
  | .error e => (fs, if (fs.directory? path).isSome then .ok () else .error e)

/-- Makes the first of the given directories, each of which lies in the next, and before it those
    that are missing. A directory that is there already is left alone. Directories made before a
    failure stay. -/
def createNested (fs : FileSystem) : List String → FileSystem × Except FileError Unit
  | [] => (fs, .error .notFound)
  | path :: above =>
    if path.isEmpty then (fs, .ok ())
    else match fs.createDirectory path with
      | .error .notFound =>
        match createNested fs above with
        | (under, .ok ()) => under.ensureDirectory path
        | failed => failed
      | _ => fs.ensureDirectory path

/-- A path and the paths of the directories above it, the nearest first. -/
def pathsUpwards (path : String) : List String :=
  let names := Path.segments path
  let top := if Path.isAbsolute path then "/" else ""
  path :: ((List.range names.length).reverse.map fun n => top ++ "/".intercalate (names.take n))

/-- Makes a directory and all directories above it that are missing. -/
def createDirectories (fs : FileSystem) (path : String) : FileSystem × Except FileError Unit :=
  fs.createNested (pathsUpwards path)

/-- Moves a file or a link to another path, in place of the file or link that stands there. -/
def moveFile (fs : FileSystem) (source target : String) : Except FileError FileSystem := do
  let sourcePlace ← fs.resolve false source
  let targetSteps := Path.steps target
  let _ ← fs.resolveSteps true target (targetSteps.dropLast ++ ["."])
  match targetSteps.getLast? with
  | none => .error .busy
  | some name =>
    if name = "." || name = ".." then .error .busy
    else match sourcePlace.node? with
      | none => .error .notFound
      | some .directory => .error .isADirectory
      | some node =>
        if target.toList.getLast? = some '/' then .error .notADirectory
        else
          let targetPlace ← fs.resolve false target
          match fs.troubles.held? sourcePlace.location, fs.troubles.fixed? targetPlace.location,
            targetPlace.node? with
          | some error, _, _ => .error error
          | none, some error, _ => .error error
          | none, none, some .directory => .error .isADirectory
          | none, none, _ => .ok ((fs.drop sourcePlace.location).put targetPlace.location node)

/-- Removes a file or a link. -/
def removeFile (fs : FileSystem) (path : String) : Except FileError FileSystem := do
  let place ← fs.resolve false path
  match place.node?, fs.troubles.held? place.location with
  | none, _ => .error .notFound
  | some _, some error => .error error
  | some .directory, none => .error .isADirectory
  | some _, none => .ok (fs.drop place.location)

/-- Removes whatever a path leads to, with everything below it. -/
def removeAll (fs : FileSystem) (path : String) : FileSystem :=
  match fs.resolve false path with
  | .ok place => fs.dropTree place.location
  | .error _ => fs

/-- Makes a symbolic link where nothing stands yet. -/
def createLink (fs : FileSystem) (path target : String) : Except FileError FileSystem := do
  let place ← fs.resolve false path
  match place.node?, fs.troubles.fixed? place.location with
  | some _, _ => .error .alreadyExists
  | none, some error => .error error
  | none, none => .ok (fs.put place.location (.link target))

end JavaImports.FileSystem
