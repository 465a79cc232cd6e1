-- SUMMARY: A configuration that was saved is the one that is loaded.
import JavaImports.CommandLine.Session
import JavaImports.Proofs.Config.Format
import JavaImports.Proofs.FileSystem.Directories

/-! # Saving and loading configurations

A configuration is written to one entry of the directory of settings and moved to another one. If
neither is a symbolic link, the file that was moved is the file that is loaded, and nothing is left
where it was written. A project that stores no configuration has the same one as before once its
defaults are stored. -/

namespace JavaImports.Config

open FileSystem (IsFileName IsTree)

theorem isFileName_directory : IsFileName ".importgraph" := by
  decide

theorem isFileName_path : IsFileName "config.json" := by
  decide

theorem isFileName_temporaryPath : IsFileName "config.tmp" := by
  decide

theorem directory_ne_empty (root : String) : directory root ≠ "" :=
  FileSystem.join_ne_empty isFileName_directory root

/-- Entries of the directory of settings are named by their paths. -/
theorem named?_path {fs : FileSystem} {root : String} {here : Location}
    (h : fs.directory? (directory root) = some here) :
    fs.named? (path root) = fs.nodeAt? (here ++ ["config.json"]) ∧
      fs.named? (temporaryPath root) = fs.nodeAt? (here ++ ["config.tmp"]) := by
  rw [path, temporaryPath, FileSystem.named?_join isFileName_path (directory_ne_empty root),
    FileSystem.named?_join isFileName_temporaryPath (directory_ne_empty root), h]
  exact ⟨rfl, rfl⟩

/-- The directory of settings of a project at the top of the file system. -/
theorem directory?_directory {fs : FileSystem}
    (h : fs.nodeAt? [".importgraph"] = some .directory) :
    fs.directory? (directory "/") = some [".importgraph"] :=
  FileSystem.directory?_join isFileName_directory (FileSystem.directory?_top fs) h

/-! ## Files that are no links -/

/-- Neither the file of a configuration nor the one it is written to first is a symbolic link. A
    project may have no directory of settings yet, or not be there itself; what stands at the two
    files is asked for where that directory is going to be. -/
structure HasPlainFiles (fs : FileSystem) (root : String) : Prop where
  path {here : Location} {target : String} :
    (fs.createDirectories (directory root)).1.directory? (directory root) = some here →
    fs.nodeAt? (here ++ ["config.json"]) ≠ some (.link target)
  temporaryPath {here : Location} {target : String} :
    (fs.createDirectories (directory root)).1.directory? (directory root) = some here →
    fs.nodeAt? (here ++ ["config.tmp"]) ≠ some (.link target)

/-- In a directory of settings that still has to be made there are no links. -/
theorem hasPlainFiles_of_new {fs : FileSystem} {root : String} (hTree : fs.IsTree)
    (hNew : ∀ here, (fs.createDirectories (directory root)).1.directory? (directory root) =
      some here → fs.nodeAt? here = none) : HasPlainFiles fs root := by
  have hNothing {here : Location} (hHere : fs.nodeAt? here = none) (name : String) (node : Node) :
      fs.nodeAt? (here ++ [name]) ≠ some node := by
    intro hThere
    rw [hTree.parent hThere] at hHere
    cases hHere
  exact ⟨fun hHere => hNothing (hNew _ hHere) _ _, fun hHere => hNothing (hNew _ hHere) _ _⟩

section NewProject

variable {fs : FileSystem} {root : String} {project : Location}
  (hRoot : fs.directory? root = some project)
  (hNode : fs.nodeAt? (project ++ [".importgraph"]) = none)

include hRoot hNode

/-- In a project without a directory of settings nothing else has to be made. -/
theorem createDirectories_of_new
    (hNotFixed : fs.troubles.fixed? (project ++ [".importgraph"]) = none) :
    (fs.createDirectories (directory root)).1 = fs.put (project ++ [".importgraph"]) .directory ∧
      (fs.createDirectories (directory root)).1.directory? (directory root) =
        some (project ++ [".importgraph"]) := by
  have hMade := congrArg Prod.fst
    (FileSystem.createDirectories_join isFileName_directory hRoot hNode hNotFixed)
  have hGrows := FileSystem.growsTo_createDirectories fs (directory root)
  refine ⟨hMade, FileSystem.directory?_join isFileName_directory (hGrows.directory? hRoot) ?_⟩
  rw [directory, hMade, FileSystem.nodeAt?_put (by simp), if_pos rfl]

/-- There is still no directory of settings if it cannot be made. -/
theorem directory?_of_fixed {error : FileError}
    (hFixed : fs.troubles.fixed? (project ++ [".importgraph"]) = some error) :
    (fs.createDirectories (directory root)).1.directory? (directory root) = none := by
  have hGrows := FileSystem.growsTo_createDirectories fs (directory root)
  have hNothing : (fs.createDirectories (directory root)).1.nodeAt?
      (project ++ [".importgraph"]) = none := by
    rcases hGrows.node (project ++ [".importgraph"]) with hSame | ⟨⟨-, hNotFixed⟩, -⟩
    · rw [hSame, hNode]
    · cases hNotFixed.symm.trans hFixed
  have hResolve := FileSystem.resolve_join_follow isFileName_directory
    (hGrows.directory? hRoot) true (by simp [hNothing])
  rw [Option.eq_none_iff_forall_ne_some]
  intro here hHere
  cases (FileSystem.directory?_eq_some_iff.1 hHere).symm.trans (hResolve.trans (by rw [hNothing]))

end NewProject

section Links

variable {fs : FileSystem} {root : String}
  (hPath : ∀ target, fs.named? (Config.path root) ≠ some (.link target))
  (hTemporary : ∀ target, fs.named? (Config.temporaryPath root) ≠ some (.link target))

include hPath hTemporary

/-- No directory has to be made where the directory of settings is there already. -/
theorem hasPlainFiles_of_eq (hMade : (fs.createDirectories (directory root)).1 = fs) :
    HasPlainFiles fs root := by
  constructor <;> intro here target hHere hLink <;> rw [hMade] at hHere
  · exact hPath target ((named?_path hHere).1.trans hLink)
  · exact hTemporary target ((named?_path hHere).2.trans hLink)

/-- In a project that is there, with or without a directory of settings, the files are plain if
    their paths name no links. -/
theorem hasPlainFiles_of_directory? (hTree : fs.IsTree) {project : Location}
    (hRoot : fs.directory? root = some project) : HasPlainFiles fs root := by
  cases hNode : fs.nodeAt? (project ++ [".importgraph"]) with
  | some node =>
    refine hasPlainFiles_of_eq hPath hTemporary ?_
    exact FileSystem.createDirectories_join_of_isSome isFileName_directory hRoot (by simp [hNode])
  | none =>
    refine hasPlainFiles_of_new hTree fun here hThere => ?_
    cases hFixed : fs.troubles.fixed? (project ++ [".importgraph"]) with
    | some error => cases (directory?_of_fixed hRoot hNode hFixed).symm.trans hThere
    | none =>
      obtain ⟨-, hHere⟩ := createDirectories_of_new hRoot hNode hFixed
      obtain rfl := Option.some.inj (hHere.symm.trans hThere)
      exact hNode

end Links

/-- Where the directory of settings is there already, the files are plain exactly if their paths
    name no links. -/
theorem hasPlainFiles_iff {fs : FileSystem} {root : String} {here : Location}
    (hHere : fs.directory? (directory root) = some here) : HasPlainFiles fs root ↔
      (∀ target, fs.named? (path root) ≠ some (.link target)) ∧
        ∀ target, fs.named? (temporaryPath root) ≠ some (.link target) := by
  have hMade : (fs.createDirectories (directory root)).1 = fs :=
    congrArg Prod.fst (FileSystem.createDirectories_of_directory? hHere)
  refine ⟨fun h => ?_, fun ⟨hPath, hTemporary⟩ => hasPlainFiles_of_eq hPath hTemporary hMade⟩
  have hThere := hMade.symm ▸ hHere
  constructor <;> intro target hNamed
  · exact h.path hThere ((named?_path hHere).1.symm.trans hNamed)
  · exact h.temporaryPath hThere ((named?_path hHere).2.symm.trans hNamed)

/-! ## Saving -/

/-- A configuration that could be saved was written to its temporary file and moved from there. -/
theorem exists_written_of_save {fs after : FileSystem} {root : String} {config : Config}
    (h : save fs root config = (after, .ok ())) :
    ∃ written, (fs.createDirectories (directory root)).1.writeText (temporaryPath root)
        config.render = (written, .ok ()) ∧
      written.moveFile (temporaryPath root) (path root) = .ok after := by
  unfold save at h
  split at h
  · cases h
  · next made hMade =>
    rw [hMade]
    split at h
    · cases h
    · next written hWritten =>
      split at h
      · cases h
      · next moved hMoved =>
        cases h
        exact ⟨written, hWritten, hMoved⟩

/-- The temporary file is an entry of the directory of settings. -/
theorem exists_here_of_openToWrite {fs : FileSystem} {root : String} {location : Location}
    (hPlain : HasPlainFiles fs root)
    (h : (fs.createDirectories (directory root)).1.openToWrite (temporaryPath root) =
      .ok location) :
    ∃ here, (fs.createDirectories (directory root)).1.directory? (directory root) = some here ∧
      location = here ++ ["config.tmp"] ∧
      (fs.createDirectories (directory root)).1.IsOpenable (here ++ ["config.tmp"]) := by
  have hGrows := FileSystem.growsTo_createDirectories fs (directory root)
  have hNoLink (target : String) :
      (fs.createDirectories (directory root)).1.named? (temporaryPath root) ≠
        some (.link target) := by
    intro hNamed
    rw [temporaryPath, FileSystem.named?_join isFileName_temporaryPath (directory_ne_empty root)]
      at hNamed
    obtain ⟨here, hHere, hLink⟩ := Option.bind_eq_some_iff.1 hNamed
    exact hPlain.temporaryPath hHere (hGrows.nodeAt?_eq_link hLink)
  obtain ⟨hOpenable, hPlace⟩ := FileSystem.resolve_of_openToWrite hNoLink h
  obtain ⟨here, hHere⟩ := FileSystem.exists_directory?_of_resolve_join isFileName_temporaryPath
    (directory_ne_empty root) hPlace
  obtain rfl : location = here ++ ["config.tmp"] := by
    have hEntry := FileSystem.resolve_join_of_directory? isFileName_temporaryPath hHere
    exact congrArg FileSystem.Place.location (Except.ok.inj (hPlace.symm.trans hEntry))
  exact ⟨here, hHere, rfl, hOpenable⟩

/-- Once a configuration is saved, its file holds its text and the temporary file is gone. -/
theorem resolve_of_save {fs after : FileSystem} {root : String} {config : Config}
    (hPlain : HasPlainFiles fs root) (h : save fs root config = (after, .ok ())) :
    (∃ location,
      after.resolve true (path root) = .ok ⟨location, some (.file config.render.toUTF8)⟩) ∧
      after.named? (temporaryPath root) = none := by
  obtain ⟨written, hWrite, hMove⟩ := exists_written_of_save h
  obtain ⟨location, hOpen, -, rfl⟩ := FileSystem.openToWrite_of_writeBytes hWrite
  obtain ⟨here, hHere, rfl, hOpenable⟩ := exists_here_of_openToWrite hPlain hOpen
  -- both files are entries of the same directory
  have hGrows := FileSystem.growsTo_createDirectories fs (directory root)
  have hSource := FileSystem.resolve_join_of_directory? isFileName_temporaryPath hHere
  have hTarget := FileSystem.resolve_join_of_directory? isFileName_path hHere
  have hNoLink (target : String) : (fs.createDirectories (directory root)).1.nodeAt?
      (here ++ ["config.json"]) ≠ some (.link target) :=
    fun hLink => hPlain.path hHere (hGrows.nodeAt?_eq_link hLink)
  obtain ⟨hThere, hGone⟩ := FileSystem.resolve_of_moveFile hOpenable.isFree hSource hTarget
    hNoLink (by simp) hMove
  exact ⟨⟨_, hThere true⟩, FileSystem.named?_eq hGone⟩

/-- Moving the temporary file fails exactly if it cannot be taken away, the entry of the
    configuration cannot be changed, or a directory stands there. -/
theorem moveFile_temporaryPath {fs : FileSystem} {root : String} {here : Location}
    (hHere : fs.directory? (directory root) = some here)
    (hFree : fs.IsFree (here ++ ["config.tmp"])) (content : ByteArray) :
    (fs.put (here ++ ["config.tmp"]) (.file content)).moveFile (temporaryPath root) (path root) =
      match fs.troubles.held? (here ++ ["config.tmp"]),
        fs.troubles.fixed? (here ++ ["config.json"]), fs.nodeAt? (here ++ ["config.json"]) with
      | some error, _, _ => .error error
      | none, some error, _ => .error error
      | none, none, some .directory => .error .isADirectory
      | none, none, _ =>
        .ok ((fs.drop (here ++ ["config.tmp"])).put (here ++ ["config.json"]) (.file content)) := by
  have hFile : (fs.put (here ++ ["config.tmp"]) (.file content)).nodeAt?
      (here ++ ["config.tmp"]) = some (.file content) := by
    rw [FileSystem.nodeAt?_put hFree.notTop, if_pos rfl]
  have hStill : (fs.put (here ++ ["config.tmp"]) (.file content)).nodeAt?
      (here ++ ["config.json"]) = fs.nodeAt? (here ++ ["config.json"]) := by
    rw [FileSystem.nodeAt?_put hFree.notTop, if_neg (by simp)]
  have hAgree := FileSystem.AgreeBut.put hFree (.file content) rfl
  have hMove := FileSystem.moveFile_join isFileName_path
    ((hAgree.directory?_eq _).trans hHere) isFileName_temporaryPath hFile
  rw [hStill, FileSystem.drop_put, hAgree.troubles] at hMove
  exact hMove

/-- Without troubles, a configuration is saved if nothing stands at its temporary path and no
    directory at its own. -/
theorem exists_save_eq_ok {fs made : FileSystem} {root : String} {here : Location}
    (hTroubles : made.troubles = {})
    (hMade : fs.createDirectories (directory root) = (made, .ok ()))
    (hHere : made.directory? (directory root) = some here)
    (hNothing : made.nodeAt? (here ++ ["config.tmp"]) = none)
    (hNode : made.nodeAt? (here ++ ["config.json"]) ≠ some .directory) (config : Config) :
    ∃ after, save fs root config = (after, .ok ()) := by
  have hOpenable := FileSystem.isOpenable_of_troubles hTroubles (by simp) (.inl hNothing)
  have hWrite := FileSystem.writeText_of_troubles hTroubles
    (FileSystem.openToWrite_join isFileName_temporaryPath hHere hOpenable) config.render
  have hMove := moveFile_temporaryPath hHere hOpenable.isFree config.render.toUTF8
  simp only [hTroubles, Troubles.held?_none] at hMove
  rw [← temporaryPath] at hWrite
  simp only [save, hMade, hWrite, hMove]
  exact ⟨_, rfl⟩

/-- A text that is stored is loaded as what it describes. -/
theorem load_of_readText {fs : FileSystem} {root text : String}
    (h : fs.readText (path root) = .ok text) :
    load fs root = (ofString text).mapError fun error => .config (.invalid (path root) error) := by
  obtain ⟨location, content, hFile, -⟩ := FileSystem.readText_eq_ok_iff.1 h
  have hStored : fs.hasPath (path root) = true := by
    rw [FileSystem.hasPath, FileSystem.find_eq_ok_iff.2 hFile]
  simp only [load, hStored, h, Bool.not_true, Bool.false_eq_true, if_false]
  cases ofString text <;> rfl

/-- A project whose stored file holds the text of a configuration has that configuration. -/
theorem load_of_resolve {fs : FileSystem} {root : String} {config : Config} {location : Location}
    (h : fs.resolve true (path root) = .ok ⟨location, some (.file config.render.toUTF8)⟩) :
    load fs root = .ok config := by
  have hText : fs.readText (path root) = .ok config.render :=
    FileSystem.readText_eq_ok_iff.2 ⟨_, _, h, FileSystem.fromUTF8?_toUTF8 _⟩
  rw [load_of_readText hText, ofString_render]
  rfl

theorem load_of_save {fs after : FileSystem} {root : String} {config : Config}
    (hPlain : HasPlainFiles fs root) (h : save fs root config = (after, .ok ())) :
    load after root = .ok config := by
  obtain ⟨⟨location, hFile⟩, -⟩ := resolve_of_save hPlain h
  exact load_of_resolve hFile

/-! ## Defaults -/

theorem load_of_not_hasPath {fs : FileSystem} {root : String}
    (h : fs.hasPath (path root) = false) : load fs root = .ok (ofRoot root) := by
  rw [load, h]
  rfl

/-- A project is made ready by saving the configuration that it has without one. -/
theorem save_of_init {fs : FileSystem} {path? : Option String}
    (h : ((CommandLine.Command.init path?).execute fs).failure? = none) :
    save fs (CommandLine.projectPath fs path?) (ofRoot (CommandLine.projectPath fs path?)) =
      (((CommandLine.Command.init path?).execute fs).files, .ok ()) := by
  have hExecute : (CommandLine.Command.init path?).execute fs =
      CommandLine.storeDefaults fs (CommandLine.projectPath fs path?) := rfl
  rw [hExecute, CommandLine.storeDefaults] at h ⊢
  split at h
  · cases h
  · next files hSave =>
    rw [hSave]

section Sample

open CommandLine (Command)

/-- A configuration with the greatest numbers and with characters that have to be escaped. -/
private def extreme : Config :=
  { version := 4294967295
    included := ["\"", "\\", "\t\x07", "\x00😀"]
    excluded := []
    sizeLimit := 18446744073709551615
    recordSeparator := ""
    template? := some "/\x1f\x7f" }

private theorem named?_bare {name : String} (hName : IsFileName name) :
    FileSystem.bare.named? (Path.join (directory "/") name) = none := by
  rw [FileSystem.named?_join hName (directory_ne_empty "/")]
  simp [FileSystem.nodeAt?, FileSystem.bare]

private theorem hasPlainFiles_bare : HasPlainFiles FileSystem.bare "/" :=
  hasPlainFiles_of_directory? (by simp [path, named?_bare isFileName_path])
    (by simp [temporaryPath, named?_bare isFileName_temporaryPath]) FileSystem.isTree_bare
    (FileSystem.directory?_top FileSystem.bare)

private theorem exists_save_bare (config : Config) :
    ∃ after, save FileSystem.bare "/" config = (after, .ok ()) := by
  have hRoot := FileSystem.directory?_top FileSystem.bare
  have hMade := FileSystem.createDirectories_join isFileName_directory hRoot rfl rfl
  have hNode (location : Location) :
      (FileSystem.bare.put [".importgraph"] .directory).nodeAt? location =
        if location = [".importgraph"] then some .directory
        else FileSystem.bare.nodeAt? location :=
    FileSystem.nodeAt?_put (by decide) _ location
  have hHere : (FileSystem.bare.put [".importgraph"] .directory).directory? (directory "/") =
      some [".importgraph"] :=
    directory?_directory (hNode _)
  have hNothing (name : String) :
      (FileSystem.bare.put [".importgraph"] .directory).nodeAt? [".importgraph", name] = none := by
    rw [hNode, if_neg (by simp)]
    rfl
  exact exists_save_eq_ok rfl hMade hHere (hNothing _) (by simp [hNothing]) config

end Sample

end JavaImports.Config
