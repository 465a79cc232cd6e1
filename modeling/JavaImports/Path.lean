-- SUMMARY: Paths as text: joining, segments, file name and extension.
import JavaImports.Text.Split

/-! # Paths

A path is a text whose segments slashes separate; it is absolute when it begins with a slash. Paths
are joined as text and never normalised. -/

namespace JavaImports.Path

/-- Whether a path starts at the top of the file system. -/
def isAbsolute (path : String) : Bool :=
  path.toList.head? = some '/'

/-- `path` as seen from `base`: an absolute path stands for itself, any other is put after `base`
    and a slash. -/
def join (base path : String) : String :=
  if isAbsolute path || base.isEmpty then path
  else if base.toList.getLast? = some '/' then base ++ path
  else base ++ "/" ++ path

/-- The texts between the slashes of a path, without the empty ones. -/
def steps (path : String) : List String :=
  ((Text.parts '/' path.toList).map String.ofList).filter fun step => !step.isEmpty

/-- The steps of a path that lead anywhere: all but the dots that stay in place. -/
def segments (path : String) : List String :=
  (steps path).filter fun step => step != "."

/-- What a path is made of: a slash if it starts at the top, a dot if it begins with one, and its
    segments. -/
def components (path : String) : List String :=
  if isAbsolute path then "/" :: segments path
  else if (steps path).head? = some "." then "." :: segments path
  else segments path

/-- What remains of a path behind the components of another one. -/
def stripPrefix? (base path : String) : Option String :=
  if (components base).isPrefixOf (components path) then
    some ("/".intercalate ((components path).drop (components base).length))
  else none

/-- The last segment, unless it leads upwards. -/
def fileName? (path : String) : Option String :=
  match (segments path).getLast? with
  | none => none
  | some name => if name = ".." then none else some name

/-- What follows the last dot of a file name. A dot at its very front starts no extension. -/
def extensionOfName? (name : String) : Option String :=
  match Text.cutLast? ['.'] name.toList with
  | some (_ :: _, _ :: extension) => some (String.ofList extension)
  | _ => none

/-- The extension of the file a path names. -/
def extension? (path : String) : Option String :=
  (fileName? path).bind extensionOfName?

/-- The path of the directory a path lies in, without the dots that stay in place. -/
def parent? (path : String) : Option String :=
  match segments path with
  | [] => none
  | names =>
    let above := "/".intercalate names.dropLast
    some (if isAbsolute path then "/" ++ above else above)

end JavaImports.Path
