-- SUMMARY: The command line program.
import JavaImports.CommandLine.Session

/-! # The program

The program takes a picture of the part of the disk that a command can see, runs the command on the
picture, and carries over to the disk what the command changed. In the picture a link leads straight
to where it ends, and only source files and the files a command names have their contents. What
could not be read is in the picture too, with the reason. -/

namespace JavaImports.Disk

/-- What can be seen at a location. -/
inductive Sight where
  | node (node : Node)
  /-- A directory that cannot be listed. -/
  | unlisted (error : FileError)
  /-- A file whose size cannot be told. -/
  | unsized (error : FileError)
  /-- A file that cannot be opened to be written. -/
  | unwritable (error : FileError)

/-- What was seen, each at its location. -/
abbrev Picture := List (Location × Sight)

/-- The error of a failure with a number of the system. -/
def errorOfNumber (number : UInt32) (text : String) : FileError :=
  -- some numbers are handed on with a minus
  let number := if number < 0x80000000 then number.toNat else (0 - number).toNat
  match number with
  | 2 => .notFound
  | 16 => .busy
  | 17 => .alreadyExists
  | 20 => .notADirectory
  | 21 => .isADirectory
  | 36 => .nameTooLong
  | 40 => .tooManyLinks
  | number => .system text.capitalize number

/-- The error that an operation on the disk failed with. -/
def errorOf : IO.Error → FileError
  | .alreadyExists _ number text => errorOfNumber number text
  | .otherError number text => errorOfNumber number text
  | .resourceBusy number text => errorOfNumber number text
  | .resourceVanished number text => errorOfNumber number text
  | .unsupportedOperation number text => errorOfNumber number text
  | .hardwareFault number text => errorOfNumber number text
  | .unsatisfiedConstraints number text => errorOfNumber number text
  | .illegalOperation number text => errorOfNumber number text
  | .protocolError number text => errorOfNumber number text
  | .timeExpired number text => errorOfNumber number text
  | .interrupted _ number text => errorOfNumber number text
  | .noFileOrDirectory _ _ _ => .notFound
  | .invalidArgument _ number text => errorOfNumber number text
  | .permissionDenied _ number text => errorOfNumber number text
  | .resourceExhausted _ number text => errorOfNumber number text
  | .inappropriateType _ number text => errorOfNumber number text
  | .noSuchThing _ number text => errorOfNumber number text
  | .unexpectedEof => .system "Unexpected end of file" 0
  | .userError text => .system text 0

/-- The path of a location. -/
def pathOf (location : Location) : String :=
  "/" ++ "/".intercalate location

/-- The file at a location. Its content is only read if it is asked for. -/
def fileAt (location : Location) (size : Nat) (withContent : Bool) : IO Node := do
  if withContent then
    try return .file (← IO.FS.readBinFile ((← IO.currentDir) / pathOf location))
    catch error => return .sealed size (errorOf error)
  else return .file ByteArray.empty

/-- What stands at a location, if it is a file, a directory or a link. -/
def sightsAt (location : Location) (withContent : Bool) : IO (List Sight) := do
  let place := (← IO.currentDir) / pathOf location
  try
    let found ← place.symlinkMetadata
    match found.type with
    | .dir => return [.node .directory]
    | .file => return [.node (← fileAt location found.byteSize.toNat withContent)]
    | .symlink =>
      let target ← try pure (← IO.FS.realPath place).toString catch _ => pure ""
      return [.node (.link target)]
    | .other => return []
  catch error =>
    match errorOf error with
    | .notFound => return []
    | .notADirectory => return []
    | other => return [.node (.sealed 0 other), .unsized other]

/-- What can be seen at a location, in a picture. -/
def pictureAt (location : Location) (withContent : Bool) : IO Picture := do
  return (← sightsAt location withContent).map fun sight => (location, sight)

/-- What can be seen at a location that may be written to. Opening a file to append to it leaves it
    as it is. -/
def pictureOfEntry (location : Location) : IO Picture := do
  let found ← pictureAt location true
  match found with
  | [(_, .node node)] =>
    if node.isRegular then
      try
        let _ ← IO.FS.Handle.mk ((← IO.currentDir) / pathOf location) .append
        return found
      catch error => return found ++ [(location, .unwritable (errorOf error))]
    else return found
  | _ => return found

/-- The location that a path leads to, all links followed. -/
def locationOf? (path : String) : IO (Option Location) := do
  try
    let place ← IO.FS.realPath ((← IO.currentDir) / path)
    return some (Path.steps place.toString)
  catch _ => return none

/-- A location and the directories it lies in. -/
def ancestors (location : Location) : Picture :=
  (List.range location.length).map fun n => (location.take (n + 1), .node .directory)

/-- What stands where one step from a directory leads. -/
def pictureOfStep (directory step : String) : IO Picture := do
  match ← locationOf? directory with
  | none => return []
  | some above =>
    let found ← pictureOfEntry (above ++ [step])
    let behind ← found.mapM fun
      | (_, .node (.link target)) => do
        let ends := Path.steps target
        return ancestors ends.dropLast ++ (← pictureOfEntry ends)
      | _ => pure []
    return ancestors above ++ found ++ behind.flatten

/-- What stands at the steps of a path. -/
def pictureOfPath (path : String) : IO Picture := do
  let steps := Path.steps path
  let top := if Path.isAbsolute path then "/" else "."
  let pictures ← (List.range steps.length).mapM fun n =>
    match steps[n]? with
    | some step =>
      if step = "." || step = ".." then pure []
      else pictureOfStep (Path.join top ("/".intercalate (steps.take n))) step
    | none => pure []
  return pictures.flatten

/-- Everything below a location. -/
partial def pictureBelow (location : Location) : IO Picture := do
  try
    let entries ← ((← IO.currentDir) / pathOf location).readDir
    let pictures ← entries.toList.mapM fun entry => do
      let inner := location ++ [entry.fileName]
      let found ← pictureAt inner (Languages.known.forFile? entry.fileName).isSome
      match found with
      | [(_, .node .directory)] => return found ++ (← pictureBelow inner)
      | _ => return found
    return pictures.flatten
  catch error => return [(location, .unlisted (errorOf error))]

/-- What was seen first at a location, of the sights of some kind. -/
def firstAt? {α : Type} (picture : Picture) (kind : Sight → Option α) (location : Location) :
    Option α :=
  picture.findSome? fun (there, sight) => if there = location then kind sight else none

/-- The file system of a picture. Earlier nodes count where there are several. -/
def fileSystem (workingDirectory : Location) (picture : Picture) : FileSystem where
  nodes :=
    let nodes := picture.filterMap fun
      | (location, .node node) => some (location, node)
      | _ => none
    let sorted := nodes.reverse.mergeSort fun a b => (compare a.1 b.1).isGE
    sorted.foldl (fun nodes (location, node) => nodes.insert location node) .empty
  workingDirectory := workingDirectory
  troubles :=
    -- these are few, and looked through for every directory and file
    let troubles := picture.filter fun
      | (_, .node _) => false
      | _ => true
    { unlisted? := firstAt? troubles fun
        | .unlisted error => some error
        | _ => none
      unsized? := firstAt? troubles fun
        | .unsized error => some error
        | _ => none
      unwritable? := firstAt? troubles fun
        | .unwritable error => some error
        | _ => none }

/-- The paths of the files that a command may read or write in a project. -/
def namedPaths (root : String) (config : Config) : List String :=
  let output := Config.resolve root config.graphmlFile
  [Config.resolve root config.nodesFile, Config.resolve root config.edgesFile, output,
      Graphml.Style.temporaryPath output] ++
    config.template?.toList.map (Config.resolve root)

/-- The part of the disk that a command can see. -/
def see (command : CommandLine.Command) : IO FileSystem := do
  let working := Path.steps (← IO.currentDir).toString
  let bare := fileSystem working (ancestors working)
  let root := CommandLine.projectPath bare command.path?
  let settings ← [root, Config.path root, Config.temporaryPath root].mapM pictureOfPath
  let first := ancestors working ++ settings.flatten
  let config := match Config.load (fileSystem working first) root with
    | .ok config => command.adjust config
    | .error _ => command.adjust (Config.ofRoot root)
  let named ← (namedPaths root config).mapM pictureOfPath
  let sources ← match ← locationOf? root with
    | some location => pictureBelow location
    | none => pure []
  return fileSystem working (named.flatten ++ first ++ sources)

/-- Makes the disk hold a node at a location, or nothing. -/
def put (before : FileSystem) (location : Location) : Option Node → IO Unit
  | none => do IO.FS.removeFile ((← IO.currentDir) / pathOf location)
  | some .directory => do IO.FS.createDir ((← IO.currentDir) / pathOf location)
  | some (.link _) => pure ()
  | some (.sealed _ _) => pure ()
  | some (.file content) => do
    let place := (← IO.currentDir) / pathOf location
    if let some (.link _) := before.nodeAt? location then IO.FS.removeFile place
    IO.FS.writeBinFile place content

end JavaImports.Disk

open JavaImports in
/-- Runs the command that the arguments name. The result is 0 for success, 1 for a failure of the
    command and 2 if there is no such command. -/
def main (arguments : List String) : IO UInt32 := do
  match CommandLine.Command.ofArguments arguments with
  | .error problem =>
    IO.eprintln ("error: " ++ problem.message)
    return 2
  | .ok command =>
    let before ← Disk.see command
    let session := command.execute before
    for (location, node?) in before.nodes.changes session.files.nodes do
      Disk.put before location node?
    for warning in session.warnings do
      IO.eprintln ("WARN " ++ warning.message)
    for line in session.lines do
      IO.println line
    match session.failure? with
    | none => return 0
    | some failure =>
      IO.eprintln ("Error: " ++ failure.message Details.full)
      return 1
