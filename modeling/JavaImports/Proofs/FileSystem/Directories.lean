-- SUMMARY: Entries of the directory a path leads to, and what making directories changes.
import JavaImports.Proofs.FileSystem.Moving
import JavaImports.Proofs.FileSystem.Tree

/-! # Directories

A name that is joined to the path of a directory leads to the entry of that name, whatever stands
there, so paths that are joined to the same base lie in the same directory. Making directories puts
directories where nothing stood: no file and no link changes, and every path that led to something
still leads there. -/

namespace JavaImports.FileSystem

/-- Names that a file can be given. -/
structure IsFileName (name : String) : Prop extends IsEntryName name where
  noNul : '\x00' ∉ name.toList
  length : name.utf8ByteSize ≤ nameLimit

instance (name : String) : Decidable (IsFileName name) :=
  decidable_of_iff (IsEntryName name ∧ '\x00' ∉ name.toList ∧ name.utf8ByteSize ≤ nameLimit)
    ⟨fun ⟨entry, noNul, length⟩ => ⟨entry, noNul, length⟩,
    fun h => ⟨h.toIsEntryName, h.noNul, h.length⟩⟩

/-! ## Paths to directories -/

/-- A dot behind steps asks for a directory: they are followed to the end, and lead to one. -/
theorem walk_append_dot {fs : FileSystem} {followLast : Bool} {links : Nat} {current : Location}
    {steps : List String} {place : Place} :
    walk fs followLast links current (steps ++ ["."]) = .ok place ↔
      walk fs true links current steps = .ok place ∧ place.node? = some .directory := by
  fun_induction walk fs true links current steps with
  | case1 links current =>
    have hHere : walk fs followLast links current ([] ++ ["."]) =
        .ok ⟨current, some .directory⟩ := by
      simp [walk]
    rw [hHere]
    exact ⟨fun h => ⟨h, by rw [← Except.ok.inj h]⟩, fun h => h.1⟩
  | case2 links current rest ih => simpa [walk] using ih
  | case3 links current rest hDot ih => simpa [walk] using ih
  | case4 links current step rest hDot hUp hLength => simp [walk, hDot, hUp, hLength]
  | case5 links current step rest hDot hUp hLength here hHere hLast =>
    -- nothing stands at the end
    simp only [List.cons_append, walk, hDot, hUp, hLength, hHere, here]
    simp
    rintro rfl
    simp
  | case6 links current step rest hDot hUp hLength here hHere hLast =>
    simp [walk, hDot, hUp, hLength, hHere, here]
  | case7 links current step rest hDot hUp hLength here hHere ih =>
    simpa [walk, hDot, hUp, hLength, hHere, here] using ih
  | case8 links current step rest hDot hUp hLength here target hHere hLast => simp at hLast
  | case9 links current step rest hDot hUp hLength here target hHere hLast hTarget
  | case10 current step rest hDot hUp hLength here target hHere hLast hTarget =>
    simp [walk, hDot, hUp, hLength, hHere, here, hTarget]
  | case11 current step rest hDot hUp hLength here target hHere hLast hTarget links ih =>
    rw [List.cons_append, walk]
    simpa [hDot, hUp, hLength, hHere, here, hTarget] using ih
  | case12 links current step rest hDot hUp hLength here file hDirectory hLink hHere hLast
  | case13 links current step rest hDot hUp hLength here file hDirectory hLink hHere hLast =>
    have hRegular := Node.isRegular_iff.2 ⟨hDirectory, hLink⟩
    rw [List.cons_append, walk_file hDot hUp hLength hHere hRegular, if_neg (by simp)]
    simp
    try (rintro rfl; simpa using hDirectory)

theorem directory?_eq_some_iff {fs : FileSystem} {path : String} {directory : Location} :
    fs.directory? path = some directory ↔
      fs.resolve true path = .ok ⟨directory, some .directory⟩ := by
  rw [← find_eq_ok_iff]
  unfold directory?
  rcases fs.find path with error | ⟨there, content | target | _ | ⟨size, error⟩⟩ <;> simp

/-- A path leads to the same directory if some files differ, or to none in either case. -/
theorem AgreeBut.directory?_eq {fs after : FileSystem} {touched : Location → Prop}
    (h : AgreeBut fs after touched) (path : String) :
    after.directory? path = fs.directory? path := by
  have hOnly {fs after : FileSystem} (h : AgreeBut fs after touched) {directory : Location}
      (hDirectory : fs.directory? path = some directory) :
      after.directory? path = some directory := by
    rw [directory?_eq_some_iff] at hDirectory ⊢
    exact h.resolveSteps hDirectory
  exact Option.ext fun directory => ⟨hOnly h.symm, hOnly h⟩

/-- A path leads to a directory exactly if its steps and a dot behind them do. -/
theorem directory?_eq_some_iff_walk {fs : FileSystem} {path : String} {directory : Location} :
    fs.directory? path = some directory ↔ '\x00' ∉ path.toList ∧ path ≠ "" ∧
      walk fs true linkLimit (start path fs.workingDirectory) (Path.steps path ++ ["."]) =
        .ok ⟨directory, some .directory⟩ := by
  rw [directory?_eq_some_iff]
  have hSteps : walk fs true linkLimit (start path fs.workingDirectory) (pathSteps path) =
      .ok ⟨directory, some .directory⟩ ↔
      walk fs true linkLimit (start path fs.workingDirectory) (Path.steps path ++ ["."]) =
        .ok ⟨directory, some .directory⟩ := by
    unfold pathSteps
    split
    · rfl
    · simp [walk_append_dot]
  constructor
  · intro h
    have hNonempty : path ≠ "" := by
      rintro rfl
      cases h
    have hNul := noNul_of_resolve h
    rw [resolve_eq_walk hNul hNonempty] at h
    exact ⟨hNul, hNonempty, hSteps.1 h⟩
  · rintro ⟨hNul, hNonempty, hWalk⟩
    rw [resolve_eq_walk hNul hNonempty, hSteps, hWalk]

/-! ## Entries of a directory -/

section Joined

variable {name : String} (hName : IsFileName name) (base : String)

include hName

theorem getLast?_join_ne : (Path.join base name).toList.getLast? ≠ some '/' := by
  rw [Path.join_eq_above (Path.not_isAbsolute_of_notMem hName.noSlash)]
  exact Path.getLast?_append_ne hName.noSlash hName.nonempty _

/-- A name that is joined to a base is the last step of the path. -/
theorem steps_join_name : Path.steps (Path.join base name) = Path.steps base ++ [name] := by
  rw [Path.steps_join (Path.not_isAbsolute_of_notMem hName.noSlash),
    Path.steps_name hName.nonempty hName.noSlash]

theorem pathSteps_join : pathSteps (Path.join base name) = Path.steps base ++ [name] := by
  rw [pathSteps_eq (getLast?_join_ne hName base), steps_join_name hName]

theorem join_ne_empty : Path.join base name ≠ "" := by
  rw [Path.join_eq_above (Path.not_isAbsolute_of_notMem hName.noSlash)]
  exact fun hEmpty => hName.nonempty (String.append_eq_empty_iff.1 hEmpty).2

/-- Steps of a joined path are followed from where its base starts. -/
theorem resolveSteps_join {fs : FileSystem} {followLast : Bool} (steps : List String)
    (hBase : '\x00' ∉ base.toList) : fs.resolveSteps followLast (Path.join base name) steps =
      walk fs followLast linkLimit (start base fs.workingDirectory) steps := by
  have hRelative := Path.not_isAbsolute_of_notMem hName.noSlash
  have hNul : '\x00' ∉ (Path.join base name).toList := by
    rw [Path.mem_join hRelative base (by decide)]
    exact not_or.2 ⟨hBase, hName.noNul⟩
  have hStart : start (Path.join base name) fs.workingDirectory =
      start base fs.workingDirectory := by
    rw [start, start, Path.isAbsolute_join hRelative]
  rw [resolveSteps, if_neg (by simp [hNul]), if_neg (by simpa using join_ne_empty hName base),
    hStart]

end Joined

/-- A name that is joined to the path of a directory leads to its entry of that name. -/
theorem resolve_join_of_directory? {fs : FileSystem} {base name : String} {directory : Location}
    (hName : IsFileName name) (h : fs.directory? base = some directory) :
    fs.resolve false (Path.join base name) =
      .ok ⟨directory ++ [name], fs.nodeAt? (directory ++ [name])⟩ := by
  obtain ⟨hNul, -, hWalk⟩ := directory?_eq_some_iff_walk.1 h
  rw [resolve, resolveSteps_join hName _ _ hNul, pathSteps_join hName]
  rcases walk_append fs linkLimit (start base fs.workingDirectory) (Path.steps base) with
    ⟨error, hError⟩ | ⟨there, left, hOn⟩
  · rw [hError _ _ (by simp)] at hWalk
    cases hWalk
  · rw [hOn _ _ (by simp), walk, if_pos rfl, walk] at hWalk
    obtain rfl : there = directory := congrArg Place.location (Except.ok.inj hWalk)
    rw [hOn _ _ (by simp)]
    exact walk_step_false hName.notDot hName.notUp hName.length

/-- If a path that is joined to a base leads somewhere, the base leads to a directory. -/
theorem exists_directory?_of_resolve_join {fs : FileSystem} {followLast : Bool}
    {base name : String} {place : Place} (hName : IsFileName name) (hNonempty : base ≠ "")
    (h : fs.resolve followLast (Path.join base name) = .ok place) :
    ∃ directory, fs.directory? base = some directory := by
  have hNul : '\x00' ∉ base.toList := by
    have hJoined := noNul_of_resolve h
    rw [Path.mem_join (Path.not_isAbsolute_of_notMem hName.noSlash) base (by decide)] at hJoined
    exact fun hMem => hJoined (.inl hMem)
  rw [resolve, resolveSteps_join hName _ _ hNul, pathSteps_join hName] at h
  rcases walk_append fs linkLimit (start base fs.workingDirectory) (Path.steps base) with
    ⟨error, hError⟩ | ⟨directory, left, hOn⟩
  · rw [hError _ _ (by simp)] at h
    cases h
  · refine ⟨directory, directory?_eq_some_iff_walk.2 ⟨hNul, hNonempty, ?_⟩⟩
    rw [hOn _ _ (by simp), walk, if_pos rfl, walk]

/-- What a joined path names is the entry of the directory that the base leads to. -/
theorem named?_join {fs : FileSystem} {base name : String} (hName : IsFileName name)
    (hNonempty : base ≠ "") : fs.named? (Path.join base name) =
      (fs.directory? base).bind fun directory => fs.nodeAt? (directory ++ [name]) := by
  cases hBase : fs.directory? base with
  | some directory => exact named?_eq (resolve_join_of_directory? hName hBase)
  | none =>
    unfold named?
    split
    · next place hPlace =>
      obtain ⟨directory, hDirectory⟩ := exists_directory?_of_resolve_join hName hNonempty hPlace
      rw [hBase] at hDirectory
      cases hDirectory
    · rfl

section Entries

variable {fs : FileSystem} {base name : String} {directory : Location} (hName : IsFileName name)
  (hBase : fs.directory? base = some directory)

include hName hBase

theorem resolve_join_follow (followLast : Bool)
    (hNoLink : ∀ target, fs.nodeAt? (directory ++ [name]) ≠ some (.link target)) :
    fs.resolve followLast (Path.join base name) =
      .ok ⟨directory ++ [name], fs.nodeAt? (directory ++ [name])⟩ := by
  have hHere := resolve_join_of_directory? hName hBase
  cases followLast with
  | false => exact hHere
  | true => rw [resolve_follow (by simpa [named?_eq hHere] using hNoLink), hHere]

/-- An entry that is a directory is found at its path. -/
theorem directory?_join (hEntry : fs.nodeAt? (directory ++ [name]) = some .directory) :
    fs.directory? (Path.join base name) = some (directory ++ [name]) := by
  rw [directory?_eq_some_iff, resolve_join_follow hName hBase true (by simp [hEntry]), hEntry]

/-- A file is opened at the entry of its name. -/
theorem openToWrite_join (hOpen : fs.IsOpenable (directory ++ [name])) :
    fs.openToWrite (Path.join base name) = .ok (directory ++ [name]) := by
  have hFree := hOpen.isFree
  refine openToWrite_eq_ok_iff.2 ⟨?_, ⟨_, ?_, hFree.not_directory⟩, hOpen⟩
  · simp [namesDirectory, pathSteps_join hName, hName.notDot, hName.notUp]
  · exact resolve_join_follow hName hBase true hFree.not_link

/-- A file takes the place of another entry of its directory, unless the file cannot be taken away,
    the entry cannot be changed, or a directory stands there. -/
theorem moveFile_join {source : String} (hSource : IsFileName source) {content : ByteArray}
    (hFile : fs.nodeAt? (directory ++ [source]) = some (.file content)) :
    fs.moveFile (Path.join base source) (Path.join base name) =
      match fs.troubles.held? (directory ++ [source]), fs.troubles.fixed? (directory ++ [name]),
        fs.nodeAt? (directory ++ [name]) with
      | some error, _, _ => .error error
      | none, some error, _ => .error error
      | none, none, some .directory => .error .isADirectory
      | none, none, _ =>
        .ok ((fs.drop (directory ++ [source])).put (directory ++ [name]) (.file content)) := by
  obtain ⟨hNul, -, hWalk⟩ := directory?_eq_some_iff_walk.1 hBase
  have hOrigin := resolve_join_of_directory? hSource hBase
  have hPlace := resolve_join_of_directory? hName hBase
  have hDirectory : fs.resolveSteps true (Path.join base name) (Path.steps base ++ ["."]) =
      .ok ⟨directory, some .directory⟩ := by
    rw [resolveSteps_join hName _ _ hNul, hWalk]
  have hDots : ¬ (name = "." || name = "..") := by simp [hName.notDot, hName.notUp]
  simp only [FileSystem.moveFile, hOrigin, hFile, hPlace, steps_join_name hName,
    List.dropLast_concat, hDirectory, List.getLast?_concat, bind, Except.bind]
  exact (if_neg hDots).trans (if_neg (getLast?_join_ne hName base))

/-- Making the directory of an entry is tried at that entry. -/
theorem createDirectory_join : fs.createDirectory (Path.join base name) =
    match fs.nodeAt? (directory ++ [name]), fs.troubles.fixed? (directory ++ [name]) with
    | some _, _ => .error .alreadyExists
    | none, some error => .error error
    | none, none => .ok (fs.put (directory ++ [name]) .directory) := by
  have hPlace : fs.resolveSteps false (Path.join base name) (Path.steps (Path.join base name)) =
      .ok ⟨directory ++ [name], fs.nodeAt? (directory ++ [name])⟩ := by
    rw [steps_join_name hName, ← pathSteps_join hName]
    exact resolve_join_of_directory? hName hBase
  rw [createDirectory, hPlace]
  rfl

/-- A directory is made where nothing stands, unless the entry cannot be made. -/
theorem createDirectories_join (hNothing : fs.nodeAt? (directory ++ [name]) = none)
    (hNotFixed : fs.troubles.fixed? (directory ++ [name]) = none) :
    fs.createDirectories (Path.join base name) =
      (fs.put (directory ++ [name]) .directory, .ok ()) := by
  have hMade := createDirectory_join hName hBase
  rw [hNothing, hNotFixed] at hMade
  rw [createDirectories, pathsUpwards, createNested,
    if_neg (by simpa using join_ne_empty hName base), hMade]
  simp [ensureDirectory, hMade]

/-- Nothing is made where something stands, be it a directory or not. -/
theorem createDirectories_join_of_isSome (hEntry : (fs.nodeAt? (directory ++ [name])).isSome) :
    (fs.createDirectories (Path.join base name)).1 = fs := by
  obtain ⟨node, hNode⟩ := Option.isSome_iff_exists.1 hEntry
  have hThere := createDirectory_join hName hBase
  rw [hNode] at hThere
  rw [createDirectories, pathsUpwards, createNested,
    if_neg (by simpa using join_ne_empty hName base), hThere]
  simp [ensureDirectory, hThere]

end Entries

/-! ## Making directories -/

/-- A file system has become another one by making directories where nothing stood. -/
structure GrowsTo (fs made : FileSystem) : Prop where
  node (location : Location) : made.nodeAt? location = fs.nodeAt? location ∨
    (fs.nodeAt? location = none ∧ fs.troubles.fixed? location = none) ∧
      made.nodeAt? location = some .directory
  workingDirectory : made.workingDirectory = fs.workingDirectory
  troubles : made.troubles = fs.troubles

theorem GrowsTo.refl (fs : FileSystem) : GrowsTo fs fs :=
  ⟨fun _ => .inl rfl, rfl, rfl⟩

theorem GrowsTo.trans {fs made more : FileSystem} (h : GrowsTo fs made)
    (hMore : GrowsTo made more) : GrowsTo fs more := by
  refine ⟨fun location => ?_, hMore.workingDirectory.trans h.workingDirectory,
    hMore.troubles.trans h.troubles⟩
  rcases hMore.node location with hSame | ⟨⟨hNothing, hNotFixed⟩, hDirectory⟩
  · rw [hSame]
    exact h.node location
  · rcases h.node location with hBefore | ⟨-, hThere⟩
    · exact .inr ⟨⟨hBefore ▸ hNothing, h.troubles ▸ hNotFixed⟩, hDirectory⟩
    · rw [hThere] at hNothing
      cases hNothing

/-- No links are made. -/
theorem GrowsTo.nodeAt?_eq_link {fs made : FileSystem} (h : GrowsTo fs made) {location : Location}
    {target : String} (hLink : made.nodeAt? location = some (.link target)) :
    fs.nodeAt? location = some (.link target) := by
  rcases h.node location with hSame | ⟨-, hDirectory⟩
  · rw [← hSame, hLink]
  · rw [hDirectory] at hLink
    cases hLink

/-- What stood at a location still stands there. -/
theorem GrowsTo.nodeAt?_eq_some {fs made : FileSystem} (h : GrowsTo fs made) {location : Location}
    {node : Node} (hNode : fs.nodeAt? location = some node) :
    made.nodeAt? location = some node := by
  rcases h.node location with hSame | ⟨⟨hNothing, -⟩, -⟩
  · rw [hSame, hNode]
  · rw [hNode] at hNothing
    cases hNothing

theorem eq_put_of_createDirectory {fs made : FileSystem} {path : String}
    (h : fs.createDirectory path = .ok made) :
    ∃ place, fs.resolveSteps false path (Path.steps path) = .ok place ∧
      (place.node? = none ∧ fs.troubles.fixed? place.location = none) ∧
      made = fs.put place.location .directory := by
  unfold createDirectory at h
  simp only [bind, Except.bind] at h
  split at h
  · cases h
  · next place hPlace =>
    split at h
    · cases h
    · cases h
    · next hNode hNotFixed =>
      exact ⟨place, hPlace, ⟨hNode, hNotFixed⟩, (Except.ok.inj h).symm⟩

theorem growsTo_createDirectory {fs made : FileSystem} {path : String}
    (h : fs.createDirectory path = .ok made) : GrowsTo fs made := by
  obtain ⟨place, hPlace, ⟨hNode, hNotFixed⟩, rfl⟩ := eq_put_of_createDirectory h
  rcases resolveSteps_node? hPlace with hDirectory | ⟨hTop, hThere, -⟩
  · rw [hNode] at hDirectory
    cases hDirectory
  · refine ⟨fun location => ?_, rfl, rfl⟩
    rw [nodeAt?_put hTop]
    split
    · next hHere => exact .inr ⟨⟨by rw [hHere, hThere, hNode], by rw [hHere, hNotFixed]⟩, rfl⟩
    · exact .inl rfl

theorem growsTo_ensureDirectory (fs : FileSystem) (path : String) :
    GrowsTo fs (fs.ensureDirectory path).1 := by
  unfold ensureDirectory
  split
  · next hMade => exact growsTo_createDirectory hMade
  · exact .refl fs

theorem growsTo_createNested (fs : FileSystem) (paths : List String) :
    GrowsTo fs (fs.createNested paths).1 := by
  fun_induction createNested fs paths with
  | case1 => exact .refl fs
  | case2 => exact .refl fs
  | case3 path above hEmpty hMissing under hUnder ih =>
    rw [hUnder] at ih
    exact ih.trans (growsTo_ensureDirectory under path)
  | case4 path above hEmpty hMissing hFailed ih => exact ih
  | case5 path above hEmpty hElse => exact growsTo_ensureDirectory fs path

/-- Whether or not all directories of a path can be made, nothing else changes. -/
theorem growsTo_createDirectories (fs : FileSystem) (path : String) :
    GrowsTo fs (fs.createDirectories path).1 :=
  growsTo_createNested fs (pathsUpwards path)

/-- A path that led to something leads there when directories have been made. -/
theorem GrowsTo.walk {fs made : FileSystem} (h : GrowsTo fs made) {followLast : Bool} {links : Nat}
    {current : Location} {steps : List String} {place : Place}
    (hPlace : walk fs followLast links current steps = .ok place) (hNode : place.node? ≠ none) :
    FileSystem.walk made followLast links current steps = .ok place := by
  fun_induction FileSystem.walk fs followLast links current steps with
  | case1 links current => simpa [FileSystem.walk] using hPlace
  | case2 links current rest ih => simpa [FileSystem.walk] using ih hPlace
  | case3 links current rest hDot ih => simpa [FileSystem.walk] using ih hPlace
  | case5 links current step rest hDot hUp hLength here hHere hLast =>
    cases hPlace
    exact absurd rfl hNode
  | case7 links current step rest hDot hUp hLength here hHere ih =>
    have hThere := h.nodeAt?_eq_some hHere
    simpa [FileSystem.walk, hDot, hUp, hLength, hThere, here] using ih hPlace
  | case8 links current step rest hDot hUp hLength here target hHere hLast =>
    have hThere := h.nodeAt?_eq_some hHere
    rw [FileSystem.walk]
    simpa [hDot, hUp, hLength, hThere, here, hLast] using hPlace
  | case11 current step rest hDot hUp hLength here target hHere hLast hTarget links ih =>
    have hThere := h.nodeAt?_eq_some hHere
    rw [FileSystem.walk]
    simp only [hDot, hUp, hLength, hThere, here, hLast, hTarget, if_false]
    simpa using ih hPlace
  | case12 links current step rest hDot hUp hLength here file hDirectory hLink hHere hLast =>
    have hRegular := Node.isRegular_iff.2 ⟨hDirectory, hLink⟩
    rw [walk_file hDot hUp hLength (h.nodeAt?_eq_some hHere) hRegular, if_pos hLast, hPlace]
  | case4 | case6 | case9 | case10 | case13 => cases hPlace

theorem GrowsTo.directory? {fs made : FileSystem} (h : GrowsTo fs made) {path : String}
    {directory : Location} (hPath : fs.directory? path = some directory) :
    made.directory? path = some directory := by
  obtain ⟨hNul, hNonempty, hWalk⟩ := directory?_eq_some_iff_walk.1 hPath
  refine directory?_eq_some_iff_walk.2 ⟨hNul, hNonempty, ?_⟩
  rw [h.workingDirectory]
  exact h.walk hWalk nofun

/-- What a path leads to, links followed, stands behind something that the path names. -/
theorem exists_walk_of_walk_follow {fs : FileSystem} {links : Nat} {current : Location}
    {steps : List String} {place : Place} (h : walk fs true links current steps = .ok place)
    (hNode : place.node? ≠ none) :
    ∃ named, walk fs false links current steps = .ok named ∧ named.node? ≠ none := by
  by_cases hLink : ∃ named target, walk fs false links current steps = .ok named ∧
      named.node? = some (.link target)
  · obtain ⟨named, target, hNamed, hTarget⟩ := hLink
    exact ⟨named, hNamed, by simp [hTarget]⟩
  · have hSame : walk fs true links current steps = walk fs false links current steps :=
      walk_follow fun named hNamed target hTarget => hLink ⟨named, target, hNamed, hTarget⟩
    exact ⟨place, hSame ▸ h, hNode⟩

/-- A path that names nothing leads to nothing. -/
theorem hasPath_of_named?_eq_none {fs : FileSystem} {path : String} (h : fs.named? path = none) :
    fs.hasPath path = false := by
  unfold hasPath
  split
  · next found hFind =>
    have hResolve := find_eq_ok_iff.1 hFind
    have hNonempty : path ≠ "" := by
      rintro rfl
      cases hResolve
    have hNul := noNul_of_resolve hResolve
    rw [resolve_eq_walk hNul hNonempty] at hResolve
    obtain ⟨named, hNamed, hSome⟩ := exists_walk_of_walk_follow hResolve (by simp)
    rw [← resolve_eq_walk hNul hNonempty] at hNamed
    exact absurd ((named?_eq hNamed).symm.trans h) hSome
  · rfl

/-- A directory that is there already is left alone, and so is everything else. -/
theorem createDirectories_of_directory? {fs : FileSystem} {path : String} {directory : Location}
    (h : fs.directory? path = some directory) : fs.createDirectories path = (fs, .ok ()) := by
  obtain ⟨hNul, hNonempty, hWalk⟩ := directory?_eq_some_iff_walk.1 h
  obtain ⟨named, hNamed, hSome⟩ :=
    exists_walk_of_walk_follow (walk_append_dot.1 hWalk).1 (by simp)
  obtain ⟨node, hNode⟩ := Option.ne_none_iff_exists'.1 hSome
  have hThere : fs.createDirectory path = .error .alreadyExists := by
    simp [createDirectory, resolveSteps, hNul, hNonempty, hNamed, hNode, bind, Except.bind]
  rw [createDirectories, pathsUpwards, createNested, if_neg (by simpa using hNonempty), hThere]
  simp [ensureDirectory, hThere, h]

end JavaImports.FileSystem
