-- SUMMARY: Making the directories of a path that never leads upwards.
import JavaImports.Proofs.FileSystem.Directories

/-! # Paths that only lead down

Without links, a path without steps upwards can only lead to one location, which its text alone
tells, and the directories above it lie on the way there. So making the directory of such a path
makes directories on that way and nowhere else: in a tree, nothing stands in a directory that had to
be made. -/

namespace JavaImports

namespace Path

/-- A path that never leads upwards. -/
def IsDescending (path : String) : Prop :=
  ".." ∉ steps path

instance (path : String) : Decidable (IsDescending path) :=
  inferInstanceAs (Decidable (_ ∉ _))

end Path

namespace FileSystem

/-- Making directories makes no links. -/
theorem GrowsTo.hasNoLinks {fs made : FileSystem} (h : GrowsTo fs made) (hLinks : fs.HasNoLinks) :
    made.HasNoLinks :=
  fun location target hLink => hLinks location target (h.nodeAt?_eq_link hLink)

/-- The location that a path leads to if it leads anywhere, without links and steps upwards. -/
def goal (fs : FileSystem) (path : String) : Location :=
  start path fs.workingDirectory ++ Path.segments path

section NoLinks

variable {fs : FileSystem} (hLinks : fs.HasNoLinks)

include hLinks

theorem location_of_walk {followLast : Bool} {links : Nat} {current : Location}
    {steps : List String} {place : Place} (hDown : ".." ∉ steps)
    (h : walk fs followLast links current steps = .ok place) :
    place.location = current ++ steps.filter fun step => step != "." := by
  fun_induction walk fs followLast links current steps with
  | case1 links current => cases h; simp
  | case2 links current rest ih => simpa using ih (by simpa using hDown) h
  | case3 links current rest hDot ih => simp at hDown
  | case5 links current step rest hDot hUp hLength here hHere hLast
  | case12 links current step rest hDot hUp hLength here file hDirectory hLink hHere hLast =>
    obtain rfl : rest = [] := List.isEmpty_iff.1 hLast
    cases h
    simp [here, hDot]
  | case7 links current step rest hDot hUp hLength here hHere ih =>
    rw [ih (fun hMem => hDown (List.mem_cons_of_mem _ hMem)) h]
    simp [here, hDot]
  | case8 links current step rest hDot hUp hLength here target hHere hLast
  | case11 current step rest hDot hUp hLength here target hHere hLast hTarget links ih =>
    exact absurd hHere (hLinks here target)
  | case4 | case6 | case9 | case10 | case13 => cases h

/-- A directory can only be made at the goal of its path. -/
theorem eq_put_goal_of_createDirectory {made : FileSystem} {path : String}
    (hDown : Path.IsDescending path) (h : fs.createDirectory path = .ok made) :
    fs.goal path ≠ [] ∧ made = fs.put (fs.goal path) .directory := by
  obtain ⟨place, hPlace, ⟨hNode, -⟩, rfl⟩ := eq_put_of_createDirectory h
  have hGoal : place.location = fs.goal path := by
    unfold resolveSteps at hPlace
    split at hPlace
    · cases hPlace
    · split at hPlace
      · cases hPlace
      · exact location_of_walk hLinks hDown hPlace
  rcases resolveSteps_node? hPlace with hDirectory | ⟨hTop, -, -⟩
  · rw [hNode] at hDirectory
    cases hDirectory
  · exact ⟨hGoal ▸ hTop, by rw [hGoal]⟩

end NoLinks

/-! ## Directories on a way -/

/-- Locations that are not on the way to another one are as they were. -/
def KeepsAside (target : Location) (fs made : FileSystem) : Prop :=
  ∀ location, ¬ location <+: target → made.nodeAt? location = fs.nodeAt? location

theorem keepsAside_ensureDirectory {fs : FileSystem} {target : Location} {path : String}
    (hLinks : fs.HasNoLinks) (hDown : Path.IsDescending path) (hGoal : fs.goal path <+: target) :
    KeepsAside target fs (fs.ensureDirectory path).1 := by
  intro location hAside
  unfold ensureDirectory
  split
  · next made hMade =>
    obtain ⟨hTop, rfl⟩ := eq_put_goal_of_createDirectory hLinks hDown hMade
    rw [nodeAt?_put hTop, if_neg]
    rintro rfl
    exact hAside hGoal
  · rfl

theorem keepsAside_createNested {fs : FileSystem} {target : Location} {paths : List String}
    (hLinks : fs.HasNoLinks)
    (hPaths : ∀ path ∈ paths, Path.IsDescending path ∧ fs.goal path <+: target) :
    KeepsAside target fs (fs.createNested paths).1 := by
  fun_induction createNested fs paths with
  | case1 => exact fun _ _ => rfl
  | case2 => exact fun _ _ => rfl
  | case3 path above hEmpty hMissing under hUnder ih =>
    obtain ⟨⟨hDown, hGoal⟩, hAbove⟩ := List.forall_mem_cons.1 hPaths
    have hGrows := growsTo_createNested fs above
    rw [hUnder] at ih hGrows
    intro location hAside
    have hSame : under.goal path = fs.goal path := by rw [goal, goal, hGrows.workingDirectory]
    rw [keepsAside_ensureDirectory (hGrows.hasNoLinks hLinks) hDown (hSame ▸ hGoal) location hAside]
    exact ih hAbove location hAside
  | case4 path above hEmpty hMissing hFailed ih => exact ih (List.forall_mem_cons.1 hPaths).2
  | case5 path above hEmpty hElse =>
    obtain ⟨hDown, hGoal⟩ := hPaths path List.mem_cons_self
    exact keepsAside_ensureDirectory hLinks hDown hGoal

/-- The paths above a path only lead down if it does, and then their goals are on the way to its
    goal. -/
theorem goal_of_mem_pathsUpwards {fs : FileSystem} {path other : String}
    (hDown : Path.IsDescending path) (h : other ∈ pathsUpwards path) :
    Path.IsDescending other ∧ fs.goal other <+: fs.goal path := by
  rcases List.mem_cons.1 h with rfl | hAbove
  · exact ⟨hDown, List.prefix_refl _⟩
  · obtain ⟨n, -, rfl⟩ := List.mem_map.1 hAbove
    have hSegment {name : String} (hName : name ∈ (Path.segments path).take n) :
        name ∈ Path.steps path ∧ (name != ".") = true :=
      List.mem_filter.1 (List.mem_of_mem_take hName)
    obtain ⟨hSteps, hAbsolute⟩ := Path.steps_ofNames
      (fun name hName => Path.name_of_mem_steps (hSegment hName).1) (Path.isAbsolute path)
    constructor
    · rw [Path.IsDescending, hSteps]
      exact fun hUp => hDown (hSegment hUp).1
    · rw [goal, goal, start, start, hAbsolute, Path.segments, hSteps,
        List.filter_eq_self.2 fun name hName => (hSegment hName).2, List.prefix_append_right_inj]
      exact List.take_prefix ..

/-! ## Entries of directories that were made -/

/-- A path that leads to a directory now led there before if one stood there before. -/
theorem GrowsTo.walk_of_directory {fs made : FileSystem} (h : GrowsTo fs made) (hTree : fs.IsTree)
    (hLinks : made.HasNoLinks) {followLast : Bool} {links : Nat} {current : Location}
    {steps : List String} {place : Place} (hDown : ".." ∉ steps)
    (hPlace : FileSystem.walk made followLast links current steps = .ok place)
    (hThere : fs.nodeAt? place.location = some .directory) :
    FileSystem.walk fs followLast links current steps = .ok place := by
  fun_induction FileSystem.walk made followLast links current steps with
  | case1 links current => simpa [FileSystem.walk] using hPlace
  | case2 links current rest ih =>
    simpa [FileSystem.walk] using ih (by simpa using hDown) hPlace
  | case3 links current rest hDot ih => simp at hDown
  | case5 links current step rest hDot hUp hLength here hHere hLast =>
    cases hPlace
    cases hHere.symm.trans (h.nodeAt?_eq_some hThere)
  | case12 links current step rest hDot hUp hLength here file hDirectory hLink hHere hLast =>
    cases hPlace
    cases hHere.symm.trans (h.nodeAt?_eq_some hThere)
    exact absurd rfl hDirectory
  | case7 links current step rest hDot hUp hLength here hHere ih =>
    -- in a tree, what stands on the way to a directory is one
    have hRest : ".." ∉ rest := fun hMem => hDown (List.mem_cons_of_mem _ hMem)
    have hLocation := location_of_walk hLinks hRest hPlace
    have hBefore : fs.nodeAt? here = some .directory := by
      rw [hLocation] at hThere
      cases hNames : rest.filter fun step => step != "." with
      | nil => simpa [hNames] using hThere
      | cons name names =>
        rw [hNames] at hThere
        exact hTree.directory_of_append (List.cons_ne_nil _ _) hThere
    simpa [FileSystem.walk, hDot, hUp, hLength, hBefore, here] using ih hRest hPlace
  | case8 links current step rest hDot hUp hLength here target hHere hLast
  | case11 current step rest hDot hUp hLength here target hHere hLast hTarget links ih =>
    exact absurd hHere (hLinks here target)
  | case4 | case6 | case9 | case10 | case13 => cases hPlace

/-- Nothing stands in a directory that had to be made. -/
theorem named?_join_of_createDirectories {fs : FileSystem} {base name : String}
    (hTree : fs.IsTree) (hLinks : fs.HasNoLinks) (hDown : Path.IsDescending base)
    (hName : IsFileName name) (hNonempty : base ≠ "") (hBase : fs.directory? base = none) :
    (fs.createDirectories base).1.named? (Path.join base name) = none := by
  have hGrows := growsTo_createDirectories fs base
  have hMadeLinks := hGrows.hasNoLinks hLinks
  rw [named?_join hName hNonempty, Option.bind_eq_none_iff]
  intro directory hDirectory
  obtain ⟨hNul, -, hWalk⟩ := directory?_eq_some_iff_walk.1 hDirectory
  have hSteps : ".." ∉ Path.steps base ++ ["."] := by
    rw [List.mem_append]
    exact not_or.2 ⟨hDown, by decide⟩
  rw [hGrows.workingDirectory] at hWalk
  have hGoal : directory = fs.goal base := by
    simpa [Path.segments, goal] using location_of_walk hMadeLinks hSteps hWalk
  have hAside : KeepsAside (fs.goal base) fs (fs.createDirectories base).1 :=
    keepsAside_createNested hLinks fun other hOther => goal_of_mem_pathsUpwards hDown hOther
  have hBehind : ¬ directory ++ [name] <+: fs.goal base := by
    rw [hGoal]
    intro hPrefix
    have hLength := hPrefix.length_le
    rw [List.length_append, List.length_singleton] at hLength
    omega
  rw [hAside _ hBehind, Option.eq_none_iff_forall_ne_some]
  intro node hNode
  have hBefore := hGrows.walk_of_directory hTree hMadeLinks hSteps hWalk (hTree.parent hNode)
  rw [directory?_eq_some_iff_walk.2 ⟨hNul, hNonempty, hBefore⟩] at hBase
  cases hBase

end FileSystem

end JavaImports
