-- SUMMARY: Where the path of a file below a root leads, and what is read there.
import JavaImports.Proofs.FileSystem.Directories
import JavaImports.Proofs.Selection

/-! # Paths below a root

The path of a location below a root is the root and then the names of the location. So its last name
is that of the location, whatever the root, and in a tree it leads from the directory of the root
through directories to what stands there. What is read from it does not tell where the root is. -/

namespace JavaImports

/-! ## Names of a path below a root -/

/-- Names that are joined by slashes end in the last of them. -/
theorem Path.exists_intercalate_concat (names : List String) (last : String) :
    ∃ front, "/".intercalate (names ++ [last]) = front ++ last := by
  induction names with
  | nil => exact ⟨"", by simp⟩
  | cons name names ih =>
    obtain ⟨front, hFront⟩ := ih
    obtain ⟨next, rest, hNext⟩ := List.exists_cons_of_ne_nil (List.concat_ne_nil last names)
    refine ⟨name ++ "/" ++ front, ?_⟩
    rw [List.cons_append, hNext, String.intercalate_cons_cons, ← hNext, hFront]
    simp only [String.append_assoc]

section Names

variable {relative : Location} (hNames : ∀ name ∈ relative, FileSystem.IsEntryName name)

include hNames

theorem steps_pathBelow (root : String) :
    Path.steps (pathBelow root relative) = Path.steps root ++ relative := by
  rw [pathBelow, Path.steps_join (not_isAbsolute_below hNames), steps_below hNames]

variable (hRelative : relative ≠ [])

include hRelative

/-- The path of a location below a root does not ask for a directory. -/
theorem pathSteps_pathBelow (root : String) :
    FileSystem.pathSteps (pathBelow root relative) = Path.steps root ++ relative := by
  have hLast := hNames _ (List.getLast_mem hRelative)
  obtain ⟨front, hFront⟩ := Path.exists_intercalate_concat relative.dropLast
    (relative.getLast hRelative)
  rw [List.dropLast_concat_getLast] at hFront
  rw [FileSystem.pathSteps_eq, steps_pathBelow hNames]
  rw [pathBelow, Path.join_eq_above (not_isAbsolute_below hNames), hFront, ← String.append_assoc]
  exact Path.getLast?_append_ne hLast.noSlash hLast.nonempty _

/-- The last name of a location below a root is the name of its file. -/
theorem fileName?_pathBelow (root : String) :
    Path.fileName? (pathBelow root relative) = some (relative.getLast hRelative) := by
  have hSegments : (Path.segments (pathBelow root relative)).getLast? =
      some (relative.getLast hRelative) := by
    have hKept : relative.filter (· != ".") = relative :=
      List.filter_eq_self.2 fun name hName => by simpa using (hNames name hName).notDot
    rw [Path.segments, steps_pathBelow hNames, List.filter_append, hKept,
      List.getLast?_append, List.getLast?_eq_some_getLast hRelative, Option.some_or]
  rw [Path.fileName?, hSegments]
  exact if_neg (hNames _ (List.getLast_mem hRelative)).notUp

/-- The language of a file does not depend on the root. -/
theorem forFile?_pathBelow (languages : Languages) (root other : String) :
    languages.forFile? (pathBelow root relative) =
      languages.forFile? (pathBelow other relative) := by
  simp only [Languages.forFile?, Path.extension?, fileName?_pathBelow hNames hRelative]

/-- The unit of a file does not depend on the root. -/
theorem ofDeclarations_pathBelow (declarations : List Declaration) (root other : String) :
    SourceUnit.ofDeclarations (pathBelow root relative) declarations =
      SourceUnit.ofDeclarations (pathBelow other relative) declarations := by
  simp only [SourceUnit.ofDeclarations, unitName, className,
    fileName?_pathBelow hNames hRelative]

end Names

namespace FileSystem

/-! ## Following a path below a root -/

/-- Whether some name is too long to be looked up. -/
def hasLongName (relative : Location) : Bool :=
  relative.any fun name => nameLimit < name.utf8ByteSize

/-- In a tree, names are followed through directories to what stands at their end. -/
theorem IsTree.walk_names {fs : FileSystem} (hTree : fs.IsTree) {links : Nat} {current : Location}
    {names : List String} (hNonempty : names ≠ []) {node : Node}
    (hNode : fs.nodeAt? (current ++ names) = some node) (hNoLink : ∀ target, node ≠ .link target) :
    walk fs true links current names =
      if hasLongName names then .error .nameTooLong else .ok ⟨current ++ names, some node⟩ := by
  have hEntries := (hTree.leads_iff.2 ⟨hNonempty, hNode⟩).isEntryName hTree
  induction names generalizing current with
  | nil => exact absurd rfl hNonempty
  | cons name rest ih =>
    obtain ⟨hName, hRest⟩ := List.forall_mem_cons.1 hEntries
    by_cases hLong : nameLimit < name.utf8ByteSize
    · rw [walk, if_neg hName.notDot, if_neg hName.notUp, if_pos hLong,
        if_pos (by simp [hasLongName, hLong])]
    · cases rest with
      | nil =>
        rw [walk_step hName.notDot hName.notUp (Nat.not_lt.1 hLong), hNode,
          if_neg (by simpa [hasLongName] using hLong)]
        intro _ target hLink
        exact hNoLink target (Option.some.inj (hNode.symm.trans hLink))
      | cons next rest =>
        have hOn : fs.nodeAt? (current ++ [name] ++ next :: rest) = some node := by
          simpa using hNode
        have hDirectory := hTree.directory_of_append (List.cons_ne_nil _ _) hOn
        have hMore := ih (List.cons_ne_nil _ _) hOn hRest
        rw [walk, if_neg hName.notDot, if_neg hName.notUp, if_neg hLong]
        simp only [hDirectory, hMore]
        simp [hasLongName, hLong]

/-- The path of a file below a root leads to the file, if it is a path at all. -/
theorem IsTree.resolve_pathBelow {fs : FileSystem} (hTree : fs.IsTree) {root : String}
    {directory relative : Location} {node : Node} (hRoot : fs.directory? root = some directory)
    (hFile : fs.Leads directory relative node) (hRegular : node.isRegular) :
    fs.resolve true (pathBelow root relative) =
      if '\x00' ∈ ("/".intercalate relative).toList then .error .nulInPath
      else if hasLongName relative then .error .nameTooLong
      else .ok ⟨directory ++ relative, some node⟩ := by
  obtain ⟨hRelative, hNode⟩ := hFile.nodeAt?
  have hNames := hFile.isEntryName hTree
  have hBelow := not_isAbsolute_below hNames
  obtain ⟨hNul, hNonempty, hWalk⟩ := directory?_eq_some_iff_walk.1 hRoot
  have hMem : '\x00' ∈ (pathBelow root relative).toList ↔
      '\x00' ∈ ("/".intercalate relative).toList := by
    rw [pathBelow, Path.mem_join hBelow root (by decide), or_iff_right hNul]
  by_cases hBelowNul : '\x00' ∈ ("/".intercalate relative).toList
  · rw [if_pos hBelowNul, resolve, resolveSteps, if_pos (by simpa using hMem.2 hBelowNul)]
  · have hPath : pathBelow root relative ≠ "" := by
      intro hEmpty
      have hSteps := steps_pathBelow hNames root
      rw [hEmpty] at hSteps
      exact hRelative (List.append_eq_nil_iff.1 hSteps.symm).2
    have hStart : start (pathBelow root relative) fs.workingDirectory =
        start root fs.workingDirectory := by
      rw [start, start, pathBelow, Path.isAbsolute_join hBelow]
    rw [if_neg hBelowNul, resolve_eq_walk (mt hMem.1 hBelowNul) hPath,
      pathSteps_pathBelow hNames hRelative, hStart]
    rcases walk_append fs linkLimit (start root fs.workingDirectory) (Path.steps root) with
      ⟨error, hError⟩ | ⟨there, left, hOn⟩
    · rw [hError _ _ (by simp)] at hWalk
      cases hWalk
    · rw [hOn _ _ (by simp), walk, if_pos rfl, walk] at hWalk
      obtain rfl : there = directory := congrArg Place.location (Except.ok.inj hWalk)
      rw [hOn _ _ hRelative]
      exact hTree.walk_names hRelative hNode (by rintro _ rfl; cases hRegular)

/-- What is read from a node at a location below a root: a name with a NUL is no path at all. -/
def readBelow (relative : Location) (node : Node) : Except FileError String :=
  if '\x00' ∈ ("/".intercalate relative).toList then .error .nulInPath
  else if hasLongName relative then .error .nameTooLong
  else match node with
    | .file content =>
      match String.fromUTF8? content with
      | some text => .ok text
      | none => .error .notText
    | .link _ => .error .tooManyLinks
    | .directory => .error .isADirectory
    | .sealed _ error => .error error

/-- What is read from a file does not depend on the root. -/
theorem IsTree.readText_pathBelow {fs : FileSystem} (hTree : fs.IsTree) {root : String}
    {directory relative : Location} {node : Node} (hRoot : fs.directory? root = some directory)
    (hFile : fs.Leads directory relative node) (hRegular : node.isRegular) :
    fs.readText (pathBelow root relative) = readBelow relative node := by
  unfold readText readBytes find readBelow
  rw [hTree.resolve_pathBelow hRoot hFile hRegular]
  split
  · rfl
  · split
    · rfl
    · cases node <;> rfl

end FileSystem

end JavaImports
