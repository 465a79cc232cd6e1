-- SUMMARY: What is left behind by a configuration that could not be saved.
import JavaImports.Proofs.Config.Store
import JavaImports.Proofs.FileSystem.Descending

/-! # Configurations that cannot be saved

A configuration is saved in three steps: the directory of settings is made, the text is written to a
temporary file, and that is moved to its place. None of these is undone if a later one fails. What
is stored already stays as it is. But once the temporary file is open it stays too, if there is no
room for the text or if the file cannot take its place, as where a directory stands there. -/

namespace JavaImports.Config

open FileSystem (IsFileName)

/-- The file system with the directory of settings, or with as much of the way there as could be
    made. -/
def prepared (fs : FileSystem) (root : String) : FileSystem :=
  (fs.createDirectories (directory root)).1

theorem prepared_of_directory? {fs : FileSystem} {root : String} {here : Location}
    (h : fs.directory? (directory root) = some here) : prepared fs root = fs :=
  congrArg Prod.fst (FileSystem.createDirectories_of_directory? h)

/-! ## Traces -/

/-- What is stored is the same in both: nothing, a file with its bytes, or a directory with
    everything below it. -/
structure KeepsStored (fs after : FileSystem) (root : String) : Prop where
  named : after.named? (path root) = fs.named? (path root)
  below {place : FileSystem.Place} {location : Location} :
    fs.resolve false (path root) = .ok place → place.location <+: location →
    after.nodeAt? location = fs.nodeAt? location

/-- What is stored is the same, and there is no temporary file that was not there before. -/
structure LeavesNoTrace (fs after : FileSystem) (root : String) : Prop where
  stored : KeepsStored fs after root
  temporary : fs.named? (temporaryPath root) = none → after.named? (temporaryPath root) = none

/-- Why a text that is being written to the temporary file cannot take its place in the directory of
    settings: a directory stands there, the entry cannot be changed, the temporary file cannot be
    taken away, or there is no room for the text. -/
inductive IsStuck (fs : FileSystem) (here : Location) (text : ByteArray) : Prop
  | directory (hStored : fs.nodeAt? (here ++ ["config.json"]) = some .directory)
  | fixed {error : FileError} (hFixed : fs.troubles.fixed? (here ++ ["config.json"]) = some error)
  | held {error : FileError} (hHeld : fs.troubles.held? (here ++ ["config.tmp"]) = some error)
  | noRoom (hRoom : ¬ fs.HasRoom (here ++ ["config.tmp"]) text)

/-- There is no temporary file yet, but one can be opened in the directory of settings, once that is
    made, and then the text cannot take its place. -/
structure IsBlocked (fs : FileSystem) (root : String) (config : Config) : Prop where
  temporary : fs.named? (temporaryPath root) = none
  made : (fs.createDirectories (directory root)).2 = .ok ()
  stuck : ∃ here, (prepared fs root).directory? (directory root) = some here ∧
    (prepared fs root).IsOpenable (here ++ ["config.tmp"]) ∧
    IsStuck (prepared fs root) here config.render.toUTF8

/-! ## The steps of saving -/

theorem hasPlainFiles_of_hasNoLinks {fs : FileSystem} (hLinks : fs.HasNoLinks) (root : String) :
    HasPlainFiles fs root :=
  ⟨fun _ => hLinks _ _, fun _ => hLinks _ _⟩

/-- Where a directory stands in the place of the configuration, the project has a directory of
    settings. -/
theorem exists_here_of_named? {fs : FileSystem} {root : String}
    (hStored : fs.named? (path root) = some .directory) :
    ∃ here, fs.directory? (directory root) = some here ∧
      fs.nodeAt? (here ++ ["config.json"]) = some .directory := by
  cases hHere : fs.directory? (directory root) with
  | none =>
    rw [path, FileSystem.named?_join isFileName_path (directory_ne_empty root), hHere] at hStored
    cases hStored
  | some here => exact ⟨here, rfl, (named?_path hHere).1 ▸ hStored⟩

/-- How saving fails: without a directory of settings, without a temporary file, or with one that
    cannot take its place. -/
inductive Unsaved (fs : FileSystem) (root : String) (config : Config) : FileSystem → Prop
  | noDirectory {error : FileError}
    (hMade : (fs.createDirectories (directory root)).2 = .error error) :
    Unsaved fs root config (prepared fs root)
  | notOpened {error : FileError}
    (hOpen : (prepared fs root).openToWrite (temporaryPath root) = .error error) :
    Unsaved fs root config (prepared fs root)
  | kept (here : Location) {content : ByteArray}
    (hMade : (fs.createDirectories (directory root)).2 = .ok ())
    (hHere : (prepared fs root).directory? (directory root) = some here)
    (hOpenable : (prepared fs root).IsOpenable (here ++ ["config.tmp"]))
    (hStuck : IsStuck (prepared fs root) here config.render.toUTF8) :
    Unsaved fs root config ((prepared fs root).put (here ++ ["config.tmp"]) (.file content))

theorem unsaved_of_save {fs after : FileSystem} {root : String} {config : Config}
    {failure : Failure} (hPlain : HasPlainFiles fs root)
    (h : save fs root config = (after, .error failure)) : Unsaved fs root config after := by
  unfold save at h
  split at h
  · next made error hMade =>
    cases h
    have hPrepared : prepared fs root = after := congrArg Prod.fst hMade
    exact hPrepared ▸ .noDirectory (congrArg Prod.snd hMade)
  · next made hCreated =>
    obtain rfl : prepared fs root = made := congrArg Prod.fst hCreated
    have hMade : (fs.createDirectories (directory root)).2 = .ok () := congrArg Prod.snd hCreated
    have hWritten := FileSystem.written_writeBytes (prepared fs root) (temporaryPath root)
      config.render.toUTF8
    rw [FileSystem.writeText] at h
    generalize (prepared fs root).writeBytes (temporaryPath root) config.render.toUTF8 = result
      at h hWritten
    cases hWritten with
    | notOpened hOpen =>
      cases h
      exact .notOpened hOpen
    | part hOpen hCut hRoom =>
      obtain ⟨here, hHere, rfl, hOpenable⟩ := exists_here_of_openToWrite hPlain hOpen
      cases h
      exact .kept here hMade hHere hOpenable
        (.noRoom fun hWhole => absurd (hWhole _ _ hCut) (Nat.not_le.2 hRoom))
    | whole hOpen hRoom =>
      obtain ⟨here, hHere, rfl, hOpenable⟩ := exists_here_of_openToWrite hPlain hOpen
      rw [← prepared] at hHere hOpenable
      simp only [moveFile_temporaryPath hHere hOpenable.isFree] at h
      split at h
      · next hMove =>
        cases h
        refine .kept here hMade hHere hOpenable ?_
        split at hMove
        · next hHeld => exact .held hHeld
        · next hFixed => exact .fixed hFixed
        · next hDirectory => exact .directory hDirectory
        · cases hMove
      · cases h

/-- Without troubles, saving fails where a directory stands in the place of the configuration, and
    leaves the temporary file. -/
theorem save_of_directory {fs : FileSystem} {root : String} {here : Location}
    (hTroubles : fs.troubles = {}) (hHere : fs.directory? (directory root) = some here)
    (hTemporary : fs.nodeAt? (here ++ ["config.tmp"]) = none ∨
      ∃ content, fs.nodeAt? (here ++ ["config.tmp"]) = some (.file content))
    (hStored : fs.nodeAt? (here ++ ["config.json"]) = some .directory) (config : Config) :
    save fs root config = (fs.put (here ++ ["config.tmp"]) (.file config.render.toUTF8),
      .error (.config (.unmovable (temporaryPath root) (path root) .isADirectory))) := by
  have hMade := FileSystem.createDirectories_of_directory? hHere
  have hOpenable := FileSystem.isOpenable_of_troubles hTroubles (by simp) hTemporary
  have hWrite := FileSystem.writeText_of_troubles hTroubles
    (FileSystem.openToWrite_join isFileName_temporaryPath hHere hOpenable) config.render
  have hMove := moveFile_temporaryPath hHere hOpenable.isFree config.render.toUTF8
  rw [hStored, hTroubles, Troubles.held?_none] at hMove
  rw [← temporaryPath] at hWrite
  simp only [save, hMade, hWrite, hMove]

/-! ## What is left -/

section Unsaved

variable {fs after : FileSystem} {root : String} {config : Config}

/-- A path to an entry of the directory of settings leads there before it is made only if it was
    there. -/
theorem prepared_of_resolve {name : String} (hName : IsFileName name) {place : FileSystem.Place}
    (h : fs.resolve false (Path.join (directory root) name) = .ok place) :
    prepared fs root = fs ∧ ∃ here, fs.directory? (directory root) = some here ∧
      place.location = here ++ [name] := by
  obtain ⟨here, hHere⟩ :=
    FileSystem.exists_directory?_of_resolve_join hName (directory_ne_empty root) h
  have hEntry := FileSystem.resolve_join_of_directory? hName hHere
  exact ⟨prepared_of_directory? hHere, here, hHere,
    congrArg FileSystem.Place.location (Except.ok.inj (h.symm.trans hEntry))⟩

/-- A failure changes what is stored only if making directories does. -/
theorem Unsaved.keepsStored_iff (h : Unsaved fs root config after) :
    KeepsStored fs after root ↔ KeepsStored fs (prepared fs root) root := by
  cases h with
  | noDirectory | notOpened => rfl
  | @kept here content hMade hHere hOpenable =>
    have hAgree := FileSystem.AgreeBut.put hOpenable.isFree (.file content) rfl
    have hNamed : ((prepared fs root).put (here ++ ["config.tmp"]) (.file content)).named?
        (path root) = (prepared fs root).named? (path root) := by
      rw [(named?_path ((hAgree.directory?_eq _).trans hHere)).1, (named?_path hHere).1,
        FileSystem.nodeAt?_put hOpenable.notTop, if_neg (by simp)]
    -- what lies below the stored entry does not lie below the temporary file
    have hBelow {place : FileSystem.Place} {location : Location}
        (hPlace : fs.resolve false (path root) = .ok place)
        (hPrefix : place.location <+: location) :
        ((prepared fs root).put (here ++ ["config.tmp"]) (.file content)).nodeAt? location =
          (prepared fs root).nodeAt? location := by
      obtain ⟨hSame, there, hThere, hLocation⟩ := prepared_of_resolve isFileName_path hPlace
      rw [hSame, hThere] at hHere
      obtain rfl := Option.some.inj hHere
      rw [FileSystem.nodeAt?_put hOpenable.notTop, if_neg]
      rintro rfl
      rw [hLocation, List.prefix_append_right_inj] at hPrefix
      exact absurd hPrefix (by decide)
    constructor
    · exact fun h => ⟨hNamed ▸ h.named, fun hPlace hPrefix =>
        (hBelow hPlace hPrefix).symm.trans (h.below hPlace hPrefix)⟩
    · exact fun h => ⟨hNamed.trans h.named, fun hPlace hPrefix =>
        (hBelow hPlace hPrefix).trans (h.below hPlace hPrefix)⟩

/-- What was written and not moved is a temporary file. -/
theorem named?_temporaryPath_put {here : Location}
    (hHere : fs.directory? (directory root) = some here)
    (hFree : fs.IsFree (here ++ ["config.tmp"])) (content : ByteArray) :
    (fs.put (here ++ ["config.tmp"]) (.file content)).named? (temporaryPath root) =
      some (.file content) := by
  have hAgree := FileSystem.AgreeBut.put hFree (.file content) rfl
  rw [(named?_path ((hAgree.directory?_eq _).trans hHere)).2, FileSystem.nodeAt?_put hFree.notTop,
    if_pos rfl]

/-- A failure leaves no trace exactly if making directories leaves none and the temporary file is
    not blocked. -/
theorem leavesNoTrace_iff {failure : Failure} (hPlain : HasPlainFiles fs root)
    (hSave : save fs root config = (after, .error failure)) : LeavesNoTrace fs after root ↔
      LeavesNoTrace fs (prepared fs root) root ∧ ¬ IsBlocked fs root config := by
  have hUnsaved := unsaved_of_save hPlain hSave
  constructor
  · intro hTrace
    refine ⟨⟨hUnsaved.keepsStored_iff.1 hTrace.stored, fun hNothing => ?_⟩, fun hBlocked => ?_⟩
    · have hGone := hTrace.temporary hNothing
      cases hUnsaved with
      | noDirectory | notOpened => exact hGone
      | kept here hMade hHere hOpenable =>
        rw [named?_temporaryPath_put hHere hOpenable.isFree] at hGone
        cases hGone
    · obtain ⟨there, hThere, hOpen, -⟩ := hBlocked.stuck
      have hGone := hTrace.temporary hBlocked.temporary
      cases hUnsaved with
      | noDirectory hMade => cases hMade.symm.trans hBlocked.made
      | notOpened hError =>
        cases hError.symm.trans
          (FileSystem.openToWrite_join isFileName_temporaryPath hThere hOpen)
      | kept here hMade hHere hOpenable =>
        rw [named?_temporaryPath_put hHere hOpenable.isFree] at hGone
        cases hGone
  · rintro ⟨hTrace, hNotBlocked⟩
    refine ⟨hUnsaved.keepsStored_iff.2 hTrace.stored, fun hNothing => ?_⟩
    cases hUnsaved with
    | noDirectory | notOpened => exact hTrace.temporary hNothing
    | kept here hMade hHere hOpenable hStuck =>
      exact absurd ⟨hNothing, hMade, here, hHere, hOpenable, hStuck⟩ hNotBlocked

end Unsaved

/-! ## Making the directory of settings -/

/-- Projects in whose place nothing but directories above the settings can have to be made: the root
    is a directory already, or its path only leads down and there are no links. -/
def IsPlainRoot (fs : FileSystem) (root : String) : Prop :=
  (∃ project, fs.directory? root = some project) ∨ fs.HasNoLinks ∧ Path.IsDescending root

/-- In a tree, nothing stands in a directory of settings that had to be made. -/
theorem named?_prepared {fs : FileSystem} {root name : String} (hTree : fs.IsTree)
    (hRoot : IsPlainRoot fs root) (hName : IsFileName name) :
    (prepared fs root).named? (Path.join (directory root) name) =
      fs.named? (Path.join (directory root) name) := by
  cases hHere : fs.directory? (directory root) with
  | some here => rw [prepared_of_directory? hHere]
  | none =>
    have hNothing : fs.named? (Path.join (directory root) name) = none := by
      rw [FileSystem.named?_join hName (directory_ne_empty root), hHere]
      rfl
    rcases hRoot with ⟨project, hProject⟩ | ⟨hLinks, hDown⟩
    · cases hNode : fs.nodeAt? (project ++ [".importgraph"]) with
      | some node =>
        have hSame := FileSystem.createDirectories_join_of_isSome isFileName_directory hProject
          (by simp [hNode])
        rw [prepared, directory, hSame]
      | none =>
        rw [hNothing, FileSystem.named?_join hName (directory_ne_empty root), prepared]
        cases hFixed : fs.troubles.fixed? (project ++ [".importgraph"]) with
        | some error => rw [directory?_of_fixed hProject hNode hFixed, Option.bind_none]
        | none =>
          obtain ⟨hMade, hNew⟩ := createDirectories_of_new hProject hNode hFixed
          rw [hNew, Option.bind_some, hMade, FileSystem.nodeAt?_put (by simp),
            if_neg (by simp), Option.eq_none_iff_forall_ne_some]
          intro node hThere
          rw [hTree.parent hThere] at hNode
          cases hNode
    · have hBase : Path.IsDescending (directory root) := by
        rw [Path.IsDescending, directory, FileSystem.steps_join_name isFileName_directory,
          List.mem_append]
        exact not_or.2 ⟨hDown, by decide⟩
      rw [hNothing]
      exact FileSystem.named?_join_of_createDirectories hTree hLinks hBase hName
        (directory_ne_empty root) hHere

theorem leavesNoTrace_prepared {fs : FileSystem} {root : String} (hTree : fs.IsTree)
    (hRoot : IsPlainRoot fs root) : LeavesNoTrace fs (prepared fs root) root := by
  refine ⟨⟨named?_prepared hTree hRoot isFileName_path, fun hPlace _ => ?_⟩, fun hNothing => ?_⟩
  · rw [(prepared_of_resolve isFileName_path hPlace).1]
  · exact (named?_prepared hTree hRoot isFileName_temporaryPath).trans hNothing

/-- Without troubles, the temporary file is blocked exactly by a directory in the place of the
    configuration. -/
theorem isBlocked_iff {fs : FileSystem} {root : String} (hTroubles : fs.troubles = {})
    (hPrepared : LeavesNoTrace fs (prepared fs root) root) (config : Config) :
    IsBlocked fs root config ↔ fs.named? (path root) = some .directory ∧
      fs.named? (temporaryPath root) = none := by
  have hStill : (prepared fs root).troubles = {} :=
    (FileSystem.growsTo_createDirectories fs (directory root)).troubles.trans hTroubles
  constructor
  · rintro ⟨hNothing, -, here, hHere, -, hStuck⟩
    cases hStuck with
    | directory hStored =>
      exact ⟨hPrepared.stored.named.symm.trans ((named?_path hHere).1.trans hStored), hNothing⟩
    | fixed hFixed => simp [hStill] at hFixed
    | held hHeld => simp [hStill] at hHeld
    | noRoom hRoom => exact absurd (fun room error hCut => by simp [hStill] at hCut) hRoom
  · rintro ⟨hStored, hNothing⟩
    obtain ⟨here, hHere, hDirectory⟩ := exists_here_of_named? hStored
    have hSame := prepared_of_directory? hHere
    have hNone := (named?_path hHere).2.symm.trans hNothing
    have hMade := congrArg Prod.snd (FileSystem.createDirectories_of_directory? hHere)
    refine ⟨hNothing, hMade, here, ?_⟩
    rw [hSame]
    exact ⟨hHere, FileSystem.isOpenable_of_troubles hTroubles (by simp) (.inl hNone),
      .directory hDirectory⟩

/-- A save that fails leaves the stored configuration as it was, and no temporary file unless that
    is blocked, if only directories of the project had to be made. Without troubles, a directory in
    the place of the configuration is all that can block it. -/
theorem save_leavesNoTrace_iff {fs after : FileSystem} {root : String} {config : Config}
    {failure : Failure} (hPlain : HasPlainFiles fs root)
    (hSave : save fs root config = (after, .error failure)) :
    (LeavesNoTrace fs after root ↔
      LeavesNoTrace fs (prepared fs root) root ∧ ¬ IsBlocked fs root config) ∧
    (fs.troubles = {} → (LeavesNoTrace fs after root ↔ LeavesNoTrace fs (prepared fs root) root ∧
      ¬ (fs.named? (path root) = some .directory ∧ fs.named? (temporaryPath root) = none))) ∧
    (fs.IsTree → IsPlainRoot fs root →
      KeepsStored fs after root ∧ (LeavesNoTrace fs after root ↔ ¬ IsBlocked fs root config) ∧
      (fs.troubles = {} → (IsBlocked fs root config ↔
        fs.named? (path root) = some .directory ∧ fs.named? (temporaryPath root) = none))) := by
  have hTrace := leavesNoTrace_iff hPlain hSave
  refine ⟨hTrace, fun hTroubles => ?_, fun hTree hRoot => ?_⟩
  · rw [hTrace]
    exact and_congr_right fun hPrepared => not_congr (isBlocked_iff hTroubles hPrepared config)
  · have hPrepared := leavesNoTrace_prepared hTree hRoot
    refine ⟨(unsaved_of_save hPlain hSave).keepsStored_iff.2 hPrepared.stored, ?_,
      fun hTroubles => isBlocked_iff hTroubles hPrepared config⟩
    rw [hTrace, and_iff_right hPrepared]

section Sample

/-- A project with a directory in the place of its configuration. -/
private def blockedProject : FileSystem :=
  (FileSystem.bare.put [".importgraph"] .directory).put [".importgraph", "config.json"] .directory

/-- The same project with a file at the temporary path. -/
private def interruptedProject : FileSystem :=
  blockedProject.put [".importgraph", "config.tmp"] (.file "".toUTF8)

private theorem nodeAt?_blockedProject (location : Location) :
    blockedProject.nodeAt? location =
      if location = [".importgraph", "config.json"] then some .directory
      else if location = [".importgraph"] then some .directory
      else FileSystem.bare.nodeAt? location := by
  rw [blockedProject, FileSystem.nodeAt?_put (by simp), FileSystem.nodeAt?_put (by simp)]

private theorem nodeAt?_interruptedProject (location : Location) :
    interruptedProject.nodeAt? location =
      if location = [".importgraph", "config.tmp"] then some (.file "".toUTF8)
      else blockedProject.nodeAt? location :=
  FileSystem.nodeAt?_put (by simp) _ location

private theorem hasNoLinks_blockedProject : blockedProject.HasNoLinks :=
  (FileSystem.hasNoLinks_bare.put (by simp) (by simp)).put (by simp) (by simp)

private theorem directory?_blockedProject :
    blockedProject.directory? (directory "/") = some [".importgraph"] :=
  directory?_directory (by simp [nodeAt?_blockedProject])

private theorem directory?_interruptedProject :
    interruptedProject.directory? (directory "/") = some [".importgraph"] :=
  directory?_directory (by simp [nodeAt?_interruptedProject, nodeAt?_blockedProject])

private theorem nodeAt?_blockedProject_temporary :
    blockedProject.nodeAt? [".importgraph", "config.tmp"] = none := by
  rw [nodeAt?_blockedProject, if_neg (by simp), if_neg (by simp)]
  rfl

private theorem isTree_blockedProject : blockedProject.IsTree := by
  have hSettings : (FileSystem.bare.put [".importgraph"] .directory).IsTree :=
    FileSystem.isTree_bare.put [] (by decide) rfl (by decide) .directory
  exact hSettings.put [".importgraph"] (by decide) (by decide) (by decide) .directory

private theorem save_blockedProject (config : Config) : save blockedProject "/" config =
    (blockedProject.put [".importgraph", "config.tmp"] (.file config.render.toUTF8),
      .error (.config (.unmovable (temporaryPath "/") (path "/") .isADirectory))) :=
  save_of_directory rfl directory?_blockedProject (.inl nodeAt?_blockedProject_temporary)
    (by simp [nodeAt?_blockedProject]) config

/-- In a project with a directory in the place of its configuration, saving leaves a temporary file
    exactly if there was none. -/
theorem save_leavesNoTrace_iff_blocked :
    (∃ after failure, save blockedProject "/" (ofRoot "/") = (after, .error failure) ∧
      KeepsStored blockedProject after "/" ∧ ¬ LeavesNoTrace blockedProject after "/") ∧
    (∃ after failure, save interruptedProject "/" (ofRoot "/") = (after, .error failure) ∧
      LeavesNoTrace interruptedProject after "/") := by
  have hBlocked : blockedProject.nodeAt? [".importgraph", "config.json"] = some .directory := by
    simp [nodeAt?_blockedProject]
  constructor
  · have hSave := save_blockedProject (ofRoot "/")
    have hLinks := hasNoLinks_blockedProject
    obtain ⟨hKeeps, hTrace, hDirectory⟩ :=
      (save_leavesNoTrace_iff (hasPlainFiles_of_hasNoLinks hLinks "/") hSave).2.2
        isTree_blockedProject (.inl ⟨[], FileSystem.directory?_top blockedProject⟩)
    refine ⟨_, _, hSave, hKeeps, fun hNone => hTrace.1 hNone ((hDirectory rfl).2 ?_)⟩
    exact ⟨(named?_path directory?_blockedProject).1.trans hBlocked,
      (named?_path directory?_blockedProject).2.trans nodeAt?_blockedProject_temporary⟩
  · have hFile : interruptedProject.nodeAt? [".importgraph", "config.tmp"] =
        some (.file "".toUTF8) := by
      simp [nodeAt?_interruptedProject]
    have hSave := save_of_directory rfl directory?_interruptedProject (.inr ⟨_, hFile⟩)
      (by simp [nodeAt?_interruptedProject, hBlocked]) (ofRoot "/")
    have hLinks : interruptedProject.HasNoLinks :=
      hasNoLinks_blockedProject.put (by simp) (by simp)
    have hTree : interruptedProject.IsTree :=
      isTree_blockedProject.put [".importgraph"] (by decide) (by simp [nodeAt?_blockedProject])
        (by simp [nodeAt?_blockedProject_temporary]) _
    obtain ⟨-, hTrace, -⟩ := (save_leavesNoTrace_iff (hasPlainFiles_of_hasNoLinks hLinks "/")
      hSave).2.2 hTree (.inl ⟨[], FileSystem.directory?_top interruptedProject⟩)
    refine ⟨_, _, hSave, hTrace.2 fun hIsBlocked => ?_⟩
    have hNamed := (named?_path directory?_interruptedProject).2
    cases (hNamed.trans hFile).symm.trans hIsBlocked.temporary

/-- Without any link, a save that fails leaves a temporary file where there was none. -/
theorem save_leaves_temporaryFile :
    blockedProject.HasNoLinks ∧ blockedProject.IsTree ∧
    ∃ after failure, save blockedProject "/" (ofRoot "/") = (after, .error failure) ∧
      blockedProject.named? (temporaryPath "/") = none ∧
      after.named? (temporaryPath "/") = some (.file (ofRoot "/").render.toUTF8) := by
  refine ⟨hasNoLinks_blockedProject, isTree_blockedProject, _, _, save_blockedProject _, ?_, ?_⟩
  · rw [(named?_path directory?_blockedProject).2]
    exact nodeAt?_blockedProject_temporary
  · exact named?_temporaryPath_put directory?_blockedProject
      ⟨by simp, by simp [nodeAt?_blockedProject_temporary]⟩ _

end Sample

end JavaImports.Config
