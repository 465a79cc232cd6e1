-- SUMMARY: Where paths lead after a file was removed or moved.
import JavaImports.Proofs.FileSystem.Writing
import JavaImports.Proofs.Path

/-! # Moving and removing files

Where a file was removed nothing stands, and all other paths lead where they led before. Two paths
that differ only in their last step lead into the same directory; a path that does not name a link
leads to the same place whether links are followed or not. -/

namespace JavaImports.FileSystem

/-- The node that a path names; a link itself if it names one. -/
def named? (fs : FileSystem) (path : String) : Option Node :=
  match fs.resolve false path with
  | .ok place => place.node?
  | .error _ => none

theorem named?_eq {fs : FileSystem} {path : String} {place : Place}
    (h : fs.resolve false path = .ok place) : fs.named? path = place.node? := by
  rw [named?, h]

/-- A path names the same link in both, or in neither any. -/
theorem AgreeBut.named?_eq_link_iff {fs after : FileSystem} {touched : Location → Prop}
    (h : AgreeBut fs after touched) {path target : String} :
    after.named? path = some (.link target) ↔ fs.named? path = some (.link target) := by
  have hOnly {fs after : FileSystem} (h : AgreeBut fs after touched)
      (hNamed : fs.named? path = some (.link target)) :
      after.named? path = some (.link target) := by
    unfold named? at hNamed
    split at hNamed
    · next place hPlace =>
      rcases resolveSteps_node? hPlace with hDirectory | ⟨-, hThere, -⟩
      · rw [hNamed] at hDirectory
        cases hDirectory
      · have hOther : ¬ touched place.location := fun hTouched =>
          (h.isFree hTouched).not_link target (hThere.trans hNamed)
        rw [named?_eq (h.resolveSteps_of_not_touched hPlace hOther), hNamed]
    · cases hNamed
  exact ⟨hOnly h.symm, hOnly h⟩

/-- A path names the same in both if it leads to no location that is touched. -/
theorem AgreeBut.named?_eq {fs after : FileSystem} {touched : Location → Prop}
    (h : AgreeBut fs after touched) {path : String}
    (hOther : ∀ place, fs.resolve false path = .ok place → ¬ touched place.location) :
    after.named? path = fs.named? path := by
  cases hPlace : fs.resolve false path with
  | ok place =>
    have hAfter := h.resolveSteps_of_not_touched hPlace (hOther place hPlace)
    rw [FileSystem.named?_eq hPlace, FileSystem.named?_eq hAfter]
  | error error =>
    -- a path that leads nowhere in one leads nowhere in the other
    cases hAfter : after.resolve false path with
    | ok place => exact nomatch hPlace.symm.trans (h.symm.resolveSteps hAfter)
    | error _ => rw [named?, named?, hPlace, hAfter]

/-- Two paths do not lead to the same entry. -/
def Apart (fs : FileSystem) (path other : String) : Prop :=
  ∀ place, fs.resolve false path = .ok place → ∀ there, fs.resolve false other = .ok there →
    place.location ≠ there.location

/-- A path stands for the same in two file systems but for some locations: for nothing, a file with
    its bytes, a link, or a directory with everything below it. -/
structure AgreeAtBut (fs after : FileSystem) (path : String) (touched : Location → Prop) :
    Prop where
  resolve (place : Place) :
    after.resolve false path = .ok place ↔ fs.resolve false path = .ok place
  below (place : Place) : fs.resolve false path = .ok place → ∀ location,
    place.location <+: location → ¬ touched location →
      after.nodeAt? location = fs.nodeAt? location

/-- A path stands for the same in two file systems. -/
def AgreeAt (fs after : FileSystem) (path : String) : Prop :=
  AgreeAtBut fs after path fun _ => False

/-- A path that leads to a directory, or to a location that is not touched, stands for the same but
    for what is touched below it. -/
theorem AgreeBut.agreeAtBut {fs after : FileSystem} {touched : Location → Prop}
    (h : AgreeBut fs after touched) {path : String}
    (hPath : ∀ place, fs.resolve false path = .ok place →
      place.node? = some .directory ∨ ¬ touched place.location) :
    AgreeAtBut fs after path touched := by
  have hStill {place : Place} (hPlace : fs.resolve false path = .ok place) :
      after.resolve false path = .ok place := by
    rcases hPath place hPlace with hDirectory | hOther
    · rw [FileSystem.resolve, h.resolveSteps hPlace, Place.seenIn, if_pos hDirectory]
    · exact h.resolveSteps_of_not_touched hPlace hOther
  refine ⟨fun place => ⟨fun hAfter => ?_, hStill⟩, fun place _ location _ hOther => h.node hOther⟩
  have hBefore : fs.resolve false path = .ok (place.seenIn fs) := h.symm.resolveSteps hAfter
  rw [Except.ok.inj (hAfter.symm.trans (hStill hBefore)), hBefore]

/-- A path stands for the same if nothing is touched of what it stands for. -/
theorem AgreeAtBut.agreeAt {fs after : FileSystem} {path : String} {touched : Location → Prop}
    (h : AgreeAtBut fs after path touched) (hApart : ∀ place, fs.resolve false path = .ok place →
      ∀ location, place.location <+: location → ¬ touched location) : AgreeAt fs after path :=
  ⟨h.resolve, fun place hPlace location hBelow _ =>
    h.below place hPlace location hBelow (hApart place hPlace location hBelow)⟩

theorem AgreeAtBut.mono {fs after : FileSystem} {path : String} {touched more : Location → Prop}
    (h : AgreeAtBut fs after path touched)
    (hMore : ∀ location, touched location → more location) : AgreeAtBut fs after path more :=
  ⟨h.resolve, fun place hPlace location hBelow hOther =>
    h.below place hPlace location hBelow (mt (hMore location) hOther)⟩

/-! ## One node less -/

/-- What was put at a location is gone when the location is emptied. -/
theorem drop_put (fs : FileSystem) (location : Location) (node : Node) :
    (fs.put location node).drop location = fs.drop location := by
  unfold drop put
  congr 1
  refine SortedMap.ext_get? fun other => ?_
  by_cases h : other = location <;> simp [h]

/-- Nothing changes when a node is put where it stands already. -/
theorem put_eq_self {fs : FileSystem} {location : Location} {node : Node} (hTop : location ≠ [])
    (h : fs.nodeAt? location = some node) : fs.put location node = fs := by
  have hGet : fs.nodes.get? location = some node := by simpa [nodeAt?, hTop] using h
  have hNodes : fs.nodes.insert location node = fs.nodes := by
    refine SortedMap.ext_get? fun other => ?_
    by_cases hSame : other = location <;> simp [hSame, hGet]
  simp only [put, hNodes]

/-- Nothing changes where nothing stands. -/
theorem drop_eq_self {fs : FileSystem} {location : Location} (hTop : location ≠ [])
    (h : fs.nodeAt? location = none) : fs.drop location = fs := by
  have hGet : fs.nodes.get? location = none := by simpa [nodeAt?, hTop] using h
  have hNodes : fs.nodes.erase location = fs.nodes := by
    refine SortedMap.ext_get? fun other => ?_
    by_cases hSame : other = location <;> simp [hSame, hGet]
  simp only [drop, hNodes]

/-- A path that leads elsewhere leads to the same place after a file was removed. -/
theorem resolve_drop_of_ne {fs : FileSystem} {location : Location} (hFree : fs.IsFree location)
    {followLast : Bool} {path : String} {place : Place}
    (h : fs.resolve followLast path = .ok place) (hElsewhere : place.location ≠ location) :
    (fs.drop location).resolve followLast path = .ok place :=
  (AgreeBut.drop hFree).resolveSteps_of_not_touched h hElsewhere

/-- The path of a file that was removed leads to its location, where nothing stands. -/
theorem resolve_drop_self {fs : FileSystem} {location : Location} (hFree : fs.IsFree location)
    {followLast : Bool} {path : String} {node? : Option Node}
    (h : fs.resolve followLast path = .ok ⟨location, node?⟩) (hNode : node? ≠ some .directory) :
    (fs.drop location).resolve followLast path = .ok ⟨location, none⟩ := by
  rw [resolve, (AgreeBut.drop hFree).resolveSteps h, Place.seenIn_mk _ hNode,
    nodeAt?_drop_self hFree.notTop]

/-! ## Paths into the same directory -/

/-- Steps lead to a directory before the last of them counts: all steps that follow go on from that
    directory, or none of them is reached. -/
theorem walk_append (fs : FileSystem) (links : Nat) (current : Location) (init : List String) :
    (∃ error, ∀ followLast more, more ≠ [] →
      walk fs followLast links current (init ++ more) = .error error) ∨
    (∃ directory left, ∀ followLast more, more ≠ [] →
      walk fs followLast links current (init ++ more) =
        walk fs followLast left directory more) := by
  fun_induction walk fs true links current init with
  | case1 links current => exact .inr ⟨current, links, fun _ _ _ => rfl⟩
  | case2 links current rest ih => simpa [walk] using ih
  | case3 links current rest hDot ih => simpa [walk] using ih
  | case4 links current step rest hDot hUp hLength =>
    exact .inl ⟨.nameTooLong, fun _ _ _ => by simp [walk, hDot, hUp, hLength]⟩
  | case5 links current step rest hDot hUp hLength here hHere hLast
  | case6 links current step rest hDot hUp hLength here hHere hLast =>
    refine .inl ⟨.notFound, fun _ more hMore => ?_⟩
    simp [walk, hDot, hUp, hLength, hHere, here, hMore]
  | case7 links current step rest hDot hUp hLength here hHere ih =>
    simpa [walk, hDot, hUp, hLength, hHere, here] using ih
  | case8 links current step rest hDot hUp hLength here target hHere hLast => simp at hLast
  | case9 links current step rest hDot hUp hLength here target hHere hLast hTarget =>
    refine .inl ⟨.notFound, fun _ more hMore => ?_⟩
    simp [walk, hDot, hUp, hLength, hHere, here, hMore, hTarget]
  | case10 current step rest hDot hUp hLength here target hHere hLast hTarget =>
    refine .inl ⟨.tooManyLinks, fun _ more hMore => ?_⟩
    simp [walk, hDot, hUp, hLength, hHere, here, hMore, hTarget]
  | case12 links current step rest hDot hUp hLength here file hDirectory hLink hHere hLast
  | case13 links current step rest hDot hUp hLength here file hDirectory hLink hHere hLast =>
    refine .inl ⟨.notADirectory, fun _ more hMore => ?_⟩
    have hRegular := Node.isRegular_iff.2 ⟨hDirectory, hLink⟩
    rw [List.cons_append, walk_file hDot hUp hLength hHere hRegular, if_neg (by simp [hMore])]
  | case11 current step rest hDot hUp hLength here target hHere hLast hTarget links ih =>
    have hStep (followLast : Bool) (more : List String) (hMore : more ≠ []) :
        walk fs followLast (links + 1) current (step :: rest ++ more) =
          walk fs followLast links (start target current) (pathSteps target ++ rest ++ more) := by
      rw [List.cons_append, walk]
      simp [hDot, hUp, hLength, hHere, here, hMore, hTarget]
    rcases ih with ⟨error, hError⟩ | ⟨directory, left, hOn⟩
    · exact .inl ⟨error, fun _ _ hMore => (hStep _ _ hMore).trans (hError _ _ hMore)⟩
    · exact .inr ⟨directory, left, fun _ _ hMore => (hStep _ _ hMore).trans (hOn _ _ hMore)⟩

/-- A path that does not name a link leads to the same place whether links are followed or not. -/
theorem walk_follow {fs : FileSystem} {links : Nat} {current : Location} {steps : List String}
    (h : ∀ place, walk fs false links current steps = .ok place →
      ∀ target, place.node? ≠ some (.link target)) :
    walk fs true links current steps = walk fs false links current steps := by
  fun_induction walk fs false links current steps with
  | case1 => simp [walk]
  | case2 links current rest ih => simpa [walk] using ih h
  | case3 links current rest hDot ih => simpa [walk] using ih h
  | case7 links current step rest hDot hUp hLength here hHere ih =>
    simpa [walk, hDot, hUp, hLength, hHere, here] using ih h
  | case8 links current step rest hDot hUp hLength here target hHere hLast =>
    exact absurd rfl (h _ rfl target)
  | case11 current step rest hDot hUp hLength here target hHere hLast hTarget links ih =>
    rw [walk]
    simpa [hDot, hUp, hLength, hHere, here, hTarget] using ih h
  | case4 links current step rest hDot hUp hLength => simp [walk, hDot, hUp, hLength]
  | case5 links current step rest hDot hUp hLength here hHere hLast
  | case6 links current step rest hDot hUp hLength here hHere hLast =>
    simp [walk, hDot, hUp, hLength, hHere, here, hLast]
  | case9 links current step rest hDot hUp hLength here target hHere hLast hTarget
  | case10 current step rest hDot hUp hLength here target hHere hLast hTarget =>
    simp [walk, hDot, hUp, hLength, hHere, here, hTarget]
  | case12 links current step rest hDot hUp hLength here file hDirectory hLink hHere hLast
  | case13 links current step rest hDot hUp hLength here file hDirectory hLink hHere hLast =>
    rw [walk_file hDot hUp hLength hHere (Node.isRegular_iff.2 ⟨hDirectory, hLink⟩)]
    simp [hLast, here]

theorem resolve_follow {fs : FileSystem} {path : String}
    (h : ∀ target, fs.named? path ≠ some (.link target)) :
    fs.resolve true path = fs.resolve false path := by
  unfold resolve resolveSteps
  split
  · rfl
  · split
    · rfl
    · next hNul hEmpty =>
      refine walk_follow fun place hPlace target => ?_
      have hResolve : fs.resolve false path = .ok place := by
        rw [resolve, resolveSteps, if_neg hNul, if_neg hEmpty, hPlace]
      exact named?_eq hResolve ▸ h target

theorem resolve_eq_walk {fs : FileSystem} {followLast : Bool} {path : String}
    (hNul : '\x00' ∉ path.toList) (hNonempty : path ≠ "") :
    fs.resolve followLast path =
      walk fs followLast linkLimit (start path fs.workingDirectory) (pathSteps path) := by
  rw [resolve, resolveSteps, if_neg (by simp [hNul]), if_neg (by simpa using hNonempty)]

theorem noNul_of_resolve {fs : FileSystem} {followLast : Bool} {path : String} {place : Place}
    (h : fs.resolve followLast path = .ok place) : '\x00' ∉ path.toList := by
  intro hMem
  rw [resolve, resolveSteps, if_pos (List.contains_iff_mem.2 hMem)] at h
  cases h

/-- A path, and the path with a longer last step: if the longer one leads somewhere, then so does
    the other, into the same directory, unless its last step is dots. -/
theorem exists_directory_of_resolve_append {fs : FileSystem} {path ending : String} {place : Place}
    (hEnding : '/' ∉ ending.toList) (hLong : 2 < ending.length) (hNonempty : path ≠ "")
    (hSlash : path.toList.getLast? ≠ some '/')
    (h : fs.resolve false (path ++ ending) = .ok place) :
    ∃ directory name, (Path.steps path).getLast? = some name ∧
      place.location = directory ++ [name ++ ending] ∧
      (name ≠ "." → name ≠ ".." → fs.resolve false path =
        .ok ⟨directory ++ [name], fs.nodeAt? (directory ++ [name])⟩) := by
  obtain ⟨init, name, hSteps, hLonger⟩ := Path.exists_steps_append hEnding hNonempty hSlash
  have hEndingNonempty : ending ≠ "" := by
    rintro rfl
    cases hLong
  have hLongerSlash := Path.getLast?_append_ne hEnding hEndingNonempty path
  have hLongerNonempty : path ++ ending ≠ "" := by
    intro hEmpty
    exact hNonempty (String.append_eq_empty_iff.1 hEmpty).1
  have hNul := noNul_of_resolve h
  have hPathNul : '\x00' ∉ path.toList := by
    intro hMem
    exact hNul (by simp [hMem])
  have hStart : start (path ++ ending) fs.workingDirectory = start path fs.workingDirectory := by
    rw [start, start, Path.isAbsolute_append hNonempty]
  rw [resolve_eq_walk hNul hLongerNonempty, pathSteps_eq hLongerSlash, hLonger, hStart] at h
  rcases walk_append fs linkLimit (start path fs.workingDirectory) init with
    ⟨error, hError⟩ | ⟨directory, left, hOn⟩
  · rw [hError _ _ (by simp)] at h
    cases h
  · rw [hOn _ _ (by simp)] at h
    have hDots (dots : String) (hShort : dots.length ≤ 2) : name ++ ending ≠ dots := by
      intro heq
      have hLength := congrArg String.length heq
      rw [String.length_append] at hLength
      omega
    have hLength : (name ++ ending).utf8ByteSize ≤ nameLimit := by
      refine Nat.not_lt.1 fun hOver => ?_
      rw [walk, if_neg (hDots "." (by decide)), if_neg (hDots ".." (by decide)), if_pos hOver] at h
      cases h
    rw [walk_step_false (hDots "." (by decide)) (hDots ".." (by decide)) hLength] at h
    refine ⟨directory, name, by simp [hSteps], ?_, fun hDot hUp => ?_⟩
    · rw [← Except.ok.inj h]
    · have hNameLength : name.utf8ByteSize ≤ nameLimit := by
        rw [String.utf8ByteSize_append] at hLength
        omega
      rw [resolve_eq_walk hPathNul hNonempty, pathSteps_eq hSlash, hSteps, hOn _ _ (by simp),
        walk_step_false hDot hUp hNameLength]

/-- A path that asks for a directory leads to one, if anywhere. -/
theorem node?_of_namesDirectory {fs : FileSystem} {followLast : Bool} {path : String}
    {place : Place} (hNames : namesDirectory path = true)
    (hPlace : fs.resolve followLast path = .ok place) : place.node? = some .directory := by
  have hNonempty : path ≠ "" := by
    rintro rfl
    cases hPlace
  rw [resolve_eq_walk (noNul_of_resolve hPlace) hNonempty] at hPlace
  unfold namesDirectory at hNames
  split at hNames
  · next hLast =>
    rw [List.getLast?_eq_none_iff.1 hLast, walk] at hPlace
    cases hPlace
    rfl
  · next step hLast =>
    -- dots lead from the directory before them to a directory
    obtain ⟨init, hSteps⟩ := List.getLast?_eq_some_iff.1 hLast
    rw [hSteps] at hPlace
    rcases walk_append fs linkLimit (start path fs.workingDirectory) init with
      ⟨error, hError⟩ | ⟨directory, left, hOn⟩
    · rw [hError _ _ (by simp)] at hPlace
      cases hPlace
    · have hDots : step = "." ∨ step = ".." := by simpa using hNames
      rw [hOn _ _ (by simp)] at hPlace
      rcases hDots with rfl | rfl <;> simp only [walk] at hPlace <;> cases hPlace <;> rfl

/-- A location does not lead through another one with a shorter last name. -/
theorem not_prefix_append {directory : Location} {name ending : String} (h : 0 < ending.length) :
    ¬ directory ++ [name] <+: directory ++ [name ++ ending] := by
  intro hPrefix
  rw [List.prefix_append_right_inj, List.cons_prefix_cons] at hPrefix
  have hLength := congrArg String.length hPrefix.1
  rw [String.length_append] at hLength
  omega

/-! ## Moving and removing -/

/-- A file that a path leads to is removed, unless its entry cannot be taken away. -/
theorem removeFile_eq {fs : FileSystem} {path : String} {location : Location} {content : ByteArray}
    (h : fs.resolve false path = .ok ⟨location, some (.file content)⟩) :
    fs.removeFile path = match fs.troubles.held? location with
      | some error => .error error
      | none => .ok (fs.drop location) := by
  simp only [removeFile, h, bind, Except.bind]
  cases fs.troubles.held? location <;> rfl

/-- Whether a file can be moved to a path. The path ends in a name of an entry that is no directory
    and can be replaced, and the directory of this entry is there. -/
structure IsReplaceable (fs : FileSystem) (target : String) (place : Place) : Prop where
  above : ∃ directory,
    fs.resolveSteps true target ((Path.steps target).dropLast ++ ["."]) = .ok directory
  name : ∃ name, (Path.steps target).getLast? = some name ∧ name ≠ "." ∧ name ≠ ".."
  noSlash : target.toList.getLast? ≠ some '/'
  resolve : fs.resolve false target = .ok place
  noDirectory : place.node? ≠ some .directory
  notFixed : fs.troubles.fixed? place.location = none

/-- A file that is moved stands where its new path leads and no more where it stood before. -/
theorem moveFile_eq_ok_iff {fs moved : FileSystem} {source target : String} {origin : Location}
    {content : ByteArray}
    (hSource : fs.resolve false source = .ok ⟨origin, some (.file content)⟩) :
    fs.moveFile source target = .ok moved ↔ fs.troubles.held? origin = none ∧
      ∃ place, fs.IsReplaceable target place ∧
        moved = (fs.drop origin).put place.location (.file content) := by
  unfold moveFile
  simp only [hSource, bind, Except.bind]
  constructor
  · intro h
    split at h
    · cases h
    · next directory hDirectory =>
      split at h
      · cases h
      · next name hName =>
        split at h
        · cases h
        · next hDots =>
          split at h
          · cases h
          · next hSlash =>
            split at h
            · cases h
            · next place hPlace =>
              split at h
              · cases h
              · cases h
              · cases h
              · next hOrigin hFixed hNode =>
                have hDots : name ≠ "." ∧ name ≠ ".." := by simpa using hDots
                refine ⟨hOrigin, place, ?_, (Except.ok.inj h).symm⟩
                exact ⟨⟨directory, hDirectory⟩, ⟨name, hName, hDots⟩, hSlash, hPlace, hNode, hFixed⟩
  · rintro ⟨hOrigin, place, ⟨⟨directory, hDirectory⟩, ⟨name, hName, hDots⟩, hSlash, hPlace, hNode,
      hFixed⟩, rfl⟩
    simp only [hDirectory, hName, hDots.1, hDots.2, hSlash, hPlace, hOrigin, hFixed]
    simp

/-! ## Writing and then moving -/

/-- A file that can be opened stands or is made where its path leads, if the path names no link. -/
theorem resolve_of_openToWrite {fs : FileSystem} {path : String} {location : Location}
    (hNoLink : ∀ target, fs.named? path ≠ some (.link target))
    (h : fs.openToWrite path = .ok location) :
    fs.IsOpenable location ∧ fs.resolve false path = .ok ⟨location, fs.nodeAt? location⟩ := by
  obtain ⟨-, ⟨node?, hPlace, hNode⟩, hOpen⟩ := openToWrite_eq_ok_iff.1 h
  rcases resolveSteps_node? hPlace with hDirectory | ⟨-, hThere, -⟩
  · exact absurd hDirectory hNode
  · rw [resolve_follow hNoLink] at hPlace
    exact ⟨hOpen, by rw [hThere, hPlace]⟩

/-- A file that was written in one place and then moved to another is found there, and nothing is
    left where it was written. -/
theorem resolve_of_moveFile {fs moved : FileSystem} {source target : String}
    {origin destination : Location} {content : ByteArray} (hOrigin : fs.IsFree origin)
    (hSource : fs.resolve false source = .ok ⟨origin, fs.nodeAt? origin⟩)
    (hTarget : fs.resolve false target = .ok ⟨destination, fs.nodeAt? destination⟩)
    (hNoLink : ∀ link, fs.nodeAt? destination ≠ some (.link link))
    (hElsewhere : destination ≠ origin)
    (hMove : (fs.put origin (.file content)).moveFile source target = .ok moved) :
    (∀ followLast, moved.resolve followLast target = .ok ⟨destination, some (.file content)⟩) ∧
      moved.resolve false source = .ok ⟨origin, none⟩ := by
  have hWritten := resolve_put_self hOrigin (.file content) rfl hSource
    hOrigin.not_directory
  have hWrittenFree := (AgreeBut.put hOrigin (.file content) rfl).isFree_after rfl
  have hTargetAny (followLast : Bool) : (fs.put origin (.file content)).resolve followLast target =
      .ok ⟨destination, fs.nodeAt? destination⟩ := by
    have hBefore : fs.resolve followLast target = .ok ⟨destination, fs.nodeAt? destination⟩ := by
      cases followLast with
      | false => exact hTarget
      | true => rw [resolve_follow (by simpa [named?_eq hTarget] using hNoLink), hTarget]
    exact resolve_put_of_ne hOrigin rfl hBefore hElsewhere
  obtain ⟨-, place, ⟨-, -, -, hPlace, hNoDirectory, -⟩, rfl⟩ :=
    (moveFile_eq_ok_iff hWritten).1 hMove
  obtain rfl := Except.ok.inj ((hTargetAny false).symm.trans hPlace)
  have hTop : destination ≠ [] := by
    rintro rfl
    exact hNoDirectory rfl
  have hFree : ((fs.put origin (.file content)).drop origin).IsFree destination := by
    refine ⟨hTop, fun node hThere => ?_⟩
    rw [nodeAt?_drop hElsewhere, nodeAt?_put hOrigin.notTop, if_neg hElsewhere] at hThere
    refine Node.isRegular_iff.2 ⟨?_, ?_⟩
    · rintro rfl
      exact hNoDirectory hThere
    · rintro link rfl
      exact hNoLink link hThere
  constructor
  · intro followLast
    have hAway := resolve_drop_of_ne hWrittenFree (hTargetAny followLast) hElsewhere
    exact resolve_put_self hFree _ rfl hAway hNoDirectory
  · have hGone := resolve_drop_self hWrittenFree hWritten (by simp)
    exact resolve_put_of_ne hFree rfl hGone hElsewhere.symm

/-! ## Paths of one step -/

/-- A path of one step that is not followed leads to what stands there. -/
theorem IsTopPath.resolve_false {path step : String} (h : IsTopPath path step) (fs : FileSystem) :
    fs.resolve false path = .ok ⟨[step], fs.nodeAt? [step]⟩ := by
  rw [FileSystem.resolve, h.resolveSteps, h.steps]
  exact walk_step_false h.notDot h.notUp h.length

theorem IsTopPath.named? {path step : String} (h : IsTopPath path step) (fs : FileSystem) :
    fs.named? path = fs.nodeAt? [step] :=
  named?_eq (h.resolve_false fs)

theorem IsTopPath.steps_eq {path step : String} (h : IsTopPath path step) :
    Path.steps path = [step] ∧ path.toList.getLast? ≠ some '/' := by
  have hSteps := h.steps
  unfold pathSteps at hSteps
  split at hSteps
  · have hLast := congrArg List.getLast? hSteps
    rw [List.getLast?_concat] at hLast
    exact absurd (Option.some.inj hLast).symm h.notDot
  · next hSlash => exact ⟨hSteps, hSlash⟩

/-- At paths of one step, a file takes the place of anything but a directory, unless the file cannot
    be taken away or the entry cannot be changed. -/
theorem IsTopPath.moveFile_eq {source target origin step : String}
    (hSource : IsTopPath source origin) (hTarget : IsTopPath target step) {fs : FileSystem}
    {content : ByteArray} (hFile : fs.nodeAt? [origin] = some (.file content)) :
    fs.moveFile source target =
      match fs.troubles.held? [origin], fs.troubles.fixed? [step], fs.nodeAt? [step] with
      | some error, _, _ => .error error
      | none, some error, _ => .error error
      | none, none, some .directory => .error .isADirectory
      | none, none, _ => .ok ((fs.drop [origin]).put [step] (.file content)) := by
  have hDirectory : fs.resolveSteps true target ["."] = .ok ⟨[], some .directory⟩ := by
    rw [hTarget.resolveSteps]
    simp [walk]
  have hName : ¬ (step = "." || step = "..") := by simp [hTarget.notDot, hTarget.notUp]
  simp only [FileSystem.moveFile, hSource.resolve_false, hFile, hTarget.steps_eq.1,
    List.dropLast_singleton, List.nil_append, hDirectory, List.getLast?_singleton, bind,
    Except.bind, hTarget.resolve_false]
  exact (if_neg hName).trans (if_neg hTarget.steps_eq.2)

/-- Without troubles, at paths of one step, a file takes the place of anything but a directory. -/
theorem IsTopPath.moveFile {source target origin step : String} (hSource : IsTopPath source origin)
    (hTarget : IsTopPath target step) {fs : FileSystem} (hTroubles : fs.troubles = {})
    {content : ByteArray} (hFile : fs.nodeAt? [origin] = some (.file content)) :
    fs.moveFile source target =
      if fs.nodeAt? [step] = some .directory then .error .isADirectory
      else .ok ((fs.drop [origin]).put [step] (.file content)) := by
  rw [hSource.moveFile_eq hTarget hFile, hTroubles, Troubles.held?_none]
  by_cases hNode : fs.nodeAt? [step] = some .directory <;> simp [hNode]

end JavaImports.FileSystem
