-- SUMMARY: What stays the same between file systems that differ in some files.
import JavaImports.FileSystem.Operations

/-! # Agreement

Whatever a program does with files alone, it leaves a file system that agrees with the one before
but for some locations, and at these a regular file or nothing stands before and after. A path
cannot go through a file, so every path leads to the same location in both, and paths that lead to
other locations lead to the same nodes. The relation is symmetric, so what is known of paths that
lead somewhere tells about those that do not. -/

namespace JavaImports

/-- Regular files are all that is neither a directory nor a link. -/
theorem Node.isRegular_iff {node : Node} :
    node.isRegular ↔ node ≠ .directory ∧ ∀ target, node ≠ .link target := by
  cases node <;> simp [Node.isRegular, Node.size?]

namespace FileSystem

/-- Whether a file may be put at a location: nothing but a regular file stands there. -/
structure IsFree (fs : FileSystem) (location : Location) : Prop where
  notTop : location ≠ []
  node : ∀ node, fs.nodeAt? location = some node → node.isRegular

/-- What is no file stands somewhere else. -/
theorem IsFree.ne {fs : FileSystem} {location other : Location} {node : Node}
    (h : fs.IsFree location) (hNode : fs.nodeAt? other = some node)
    (hNoFile : ¬ node.isRegular) : other ≠ location := by
  rintro rfl
  exact hNoFile (h.node node hNode)

theorem IsFree.not_directory {fs : FileSystem} {location : Location} (h : fs.IsFree location) :
    fs.nodeAt? location ≠ some .directory :=
  fun hDirectory => nomatch h.node _ hDirectory

theorem IsFree.not_link {fs : FileSystem} {location : Location} (h : fs.IsFree location)
    (target : String) : fs.nodeAt? location ≠ some (.link target) :=
  fun hLink => nomatch h.node _ hLink

/-! ## One node more, one node less -/

theorem nodeAt?_put {fs : FileSystem} {location : Location} (h : location ≠ []) (node : Node)
    (other : Location) :
    (fs.put location node).nodeAt? other =
      if other = location then some node else fs.nodeAt? other := by
  unfold nodeAt? put
  by_cases hTop : other = []
  · subst hTop; simp [Ne.symm h]
  · simp [hTop]

theorem nodeAt?_drop {fs : FileSystem} {location other : Location} (h : other ≠ location) :
    (fs.drop location).nodeAt? other = fs.nodeAt? other := by
  unfold nodeAt? drop
  simp [h]

theorem nodeAt?_drop_self {fs : FileSystem} {location : Location} (h : location ≠ []) :
    (fs.drop location).nodeAt? location = none := by
  unfold nodeAt? drop
  simp [h]

theorem isFree_drop {fs : FileSystem} {location : Location} (hTop : location ≠ []) :
    (fs.drop location).IsFree location :=
  ⟨hTop, fun node hNode => by simp [nodeAt?_drop_self hTop] at hNode⟩

/-! ## No links -/

/-- No symbolic link stands anywhere. -/
def HasNoLinks (fs : FileSystem) : Prop :=
  ∀ location target, fs.nodeAt? location ≠ some (.link target)

theorem hasNoLinks_bare : HasNoLinks bare := by
  intro location target
  simp [nodeAt?, bare]

theorem HasNoLinks.put {fs : FileSystem} (h : fs.HasNoLinks) {location : Location}
    (hTop : location ≠ []) {node : Node} (hNode : ∀ target, node ≠ .link target) :
    (fs.put location node).HasNoLinks := by
  intro other target
  rw [nodeAt?_put hTop]
  split
  · simpa using hNode target
  · exact h other target

/-! ## What a path leads to -/

/-- A path leads to a directory, or to what stands at its location; if it is followed to the end,
    that is no link. -/
theorem walk_node? {fs : FileSystem} {followLast : Bool} {links : Nat} {current : Location}
    {steps : List String} {place : Place}
    (h : walk fs followLast links current steps = .ok place) :
    place.node? = some .directory ∨ (place.location ≠ [] ∧
      fs.nodeAt? place.location = place.node? ∧
      (followLast = true → ∀ node, place.node? = some node → node.isRegular)) := by
  fun_induction walk fs followLast links current steps with
  | case1 => cases h; exact .inl rfl
  | case2 links current rest ih => exact ih h
  | case3 links current rest hDot ih => exact ih h
  | case5 links current step rest hDot hUp hLength here hHere hLast =>
    cases h
    exact .inr ⟨by simp [here], hHere, nofun⟩
  | case7 links current step rest hDot hUp hLength here hHere ih => exact ih h
  | case8 links current step rest hDot hUp hLength here target hHere hLast =>
    cases h
    exact .inr ⟨by simp [here], hHere, fun hFollow => by simp [hFollow] at hLast⟩
  | case11 current step rest hDot hUp hLength here target hHere hLast hTarget links ih =>
    exact ih h
  | case12 links current step rest hDot hUp hLength here file hDirectory hLink hHere hLast =>
    cases h
    refine .inr ⟨by simp [here], hHere, fun _ node hNode => ?_⟩
    obtain rfl := Option.some.inj hNode
    exact Node.isRegular_iff.2 ⟨hDirectory, hLink⟩
  | case4 | case6 | case9 | case10 | case13 => cases h

theorem resolveSteps_node? {fs : FileSystem} {followLast : Bool} {path : String}
    {steps : List String} {place : Place} (h : fs.resolveSteps followLast path steps = .ok place) :
    place.node? = some .directory ∨ (place.location ≠ [] ∧
      fs.nodeAt? place.location = place.node? ∧
      (followLast = true → ∀ node, place.node? = some node → node.isRegular)) := by
  unfold resolveSteps at h
  split at h
  · cases h
  · split at h
    · cases h
    · exact walk_node? h

/-- Where a path leads to a file, a file may be put. -/
theorem isFree_of_resolve {fs : FileSystem} {followLast : Bool} {path : String}
    {location : Location} {node : Node} (hNode : node.isRegular)
    (h : fs.resolve followLast path = .ok ⟨location, some node⟩) : fs.IsFree location := by
  rcases resolveSteps_node? h with hDirectory | ⟨hTop, hThere, -⟩
  · cases hDirectory
    cases hNode
  · refine ⟨hTop, fun there hFound => ?_⟩
    obtain rfl : there = node := Option.some.inj (hFound.symm.trans hThere)
    exact hNode

/-- A last step leads to what stands there, unless that is a link to be followed. -/
theorem walk_step {fs : FileSystem} {followLast : Bool} {links : Nat} {current : Location}
    {step : String} (hDot : step ≠ ".") (hUp : step ≠ "..")
    (hLength : step.utf8ByteSize ≤ nameLimit)
    (hNode : followLast = true →
      ∀ target, fs.nodeAt? (current ++ [step]) ≠ some (.link target)) :
    walk fs followLast links current [step] =
      .ok ⟨current ++ [step], fs.nodeAt? (current ++ [step])⟩ := by
  rw [walk, if_neg hDot, if_neg hUp, if_neg (Nat.not_lt.2 hLength)]
  cases hHere : fs.nodeAt? (current ++ [step]) with
  | none => simp [hHere]
  | some node =>
    cases node with
    | file content => simp [hHere]
    | link target =>
      cases followLast with
      | false => simp [hHere]
      | true => exact absurd hHere (hNode rfl target)
    | directory => simp [hHere, walk]
    | sealed size error => simp [hHere]

/-- A regular file can only be the last step. -/
theorem walk_file {fs : FileSystem} {followLast : Bool} {links : Nat} {current : Location}
    {step : String} {rest : List String} {node : Node} (hDot : step ≠ ".") (hUp : step ≠ "..")
    (hLength : ¬ nameLimit < step.utf8ByteSize)
    (hNode : fs.nodeAt? (current ++ [step]) = some node) (hRegular : node.isRegular) :
    walk fs followLast links current (step :: rest) =
      if rest.isEmpty then .ok ⟨current ++ [step], some node⟩ else .error .notADirectory := by
  rw [walk, if_neg hDot, if_neg hUp, if_neg hLength]
  cases node with
  | file content => simp only [hNode]
  | sealed size error => simp only [hNode]
  | link target => cases hRegular
  | directory => cases hRegular

/-- A last step that is not followed leads to what stands there. -/
theorem walk_step_false {fs : FileSystem} {links : Nat} {current : Location} {step : String}
    (hDot : step ≠ ".") (hUp : step ≠ "..") (hLength : step.utf8ByteSize ≤ nameLimit) :
    walk fs false links current [step] =
      .ok ⟨current ++ [step], fs.nodeAt? (current ++ [step])⟩ :=
  walk_step hDot hUp hLength fun hFollow => absurd hFollow Bool.false_ne_true

/-- The location a path leads to, whether anything stands there or not. -/
def location? (fs : FileSystem) (path : String) : Option Location :=
  (fs.resolve true path).toOption.map fun place => place.location

/-! ## Agreement but for some files -/

/-- Two file systems agree but for some locations, where a file or nothing stands in both. The same
    goes wrong in both. -/
structure AgreeBut (fs after : FileSystem) (touched : Location → Prop) : Prop where
  workingDirectory : after.workingDirectory = fs.workingDirectory
  troubles : after.troubles = fs.troubles
  node {location : Location} :
    ¬ touched location → after.nodeAt? location = fs.nodeAt? location
  isFree {location : Location} : touched location → fs.IsFree location
  isFree_after {location : Location} : touched location → after.IsFree location

namespace AgreeBut

variable {fs mid after : FileSystem} {touched more : Location → Prop}

theorem refl (fs : FileSystem) : AgreeBut fs fs fun _ => False :=
  ⟨rfl, rfl, fun _ => rfl, False.elim, False.elim⟩

theorem symm (h : AgreeBut fs after touched) : AgreeBut after fs touched :=
  ⟨h.workingDirectory.symm, h.troubles.symm, fun hOther => (h.node hOther).symm, h.isFree_after,
    h.isFree⟩

theorem congr (h : AgreeBut fs after touched)
    (hSame : ∀ location, touched location ↔ more location) : AgreeBut fs after more := by
  obtain rfl : touched = more := funext fun location => propext (hSame location)
  exact h

/-- Where a file may be put in one, it may be put in the other. -/
theorem isFree_iff (h : AgreeBut fs after touched) {location : Location} :
    after.IsFree location ↔ fs.IsFree location := by
  by_cases hTouched : touched location
  · exact iff_of_true (h.isFree_after hTouched) (h.isFree hTouched)
  · have hNode := h.node hTouched
    exact ⟨fun ⟨hTop, hFile⟩ => ⟨hTop, hNode ▸ hFile⟩, fun ⟨hTop, hFile⟩ => ⟨hTop, hNode ▸ hFile⟩⟩

theorem trans (h : AgreeBut fs mid touched) (hMore : AgreeBut mid after more) :
    AgreeBut fs after fun location => touched location ∨ more location := by
  refine ⟨hMore.workingDirectory.trans h.workingDirectory, hMore.troubles.trans h.troubles,
    fun hOther => ?_, ?_, ?_⟩
  · rw [hMore.node fun hThere => hOther (.inr hThere), h.node fun hThere => hOther (.inl hThere)]
  · rintro location (hFirst | hSecond)
    · exact h.isFree hFirst
    · exact h.isFree_iff.1 (hMore.isFree hSecond)
  · rintro location (hFirst | hSecond)
    · exact hMore.isFree_iff.2 (h.isFree_after hFirst)
    · exact hMore.isFree_after hSecond

theorem put {location : Location} (hFree : fs.IsFree location) (node : Node)
    (hRegular : node.isRegular) : AgreeBut fs (fs.put location node) (· = location) := by
  refine ⟨rfl, rfl, fun hOther => ?_, ?_, ?_⟩
  · rw [nodeAt?_put hFree.notTop, if_neg hOther]
  · rintro _ rfl
    exact hFree
  · rintro _ rfl
    refine ⟨hFree.notTop, fun other hNode => ?_⟩
    rw [nodeAt?_put hFree.notTop, if_pos rfl] at hNode
    exact Option.some.inj hNode ▸ hRegular

theorem drop {location : Location} (hFree : fs.IsFree location) :
    AgreeBut fs (fs.drop location) (· = location) := by
  refine ⟨rfl, rfl, fun hOther => nodeAt?_drop hOther, ?_, ?_⟩
  · rintro _ rfl
    exact hFree
  · rintro _ rfl
    exact isFree_drop hFree.notTop

/-! ## Paths -/

/-- What is no file stands in both. -/
theorem nodeAt?_eq_some (h : AgreeBut fs after touched) {location : Location} {node : Node}
    (hNode : fs.nodeAt? location = some node) (hNoFile : ¬ node.isRegular) :
    after.nodeAt? location = some node := by
  rw [h.node fun hTouched => (h.isFree hTouched).ne hNode hNoFile rfl, hNode]

/-- Where a file or nothing stands in one, a file or nothing stands in the other. -/
theorem isRegular (h : AgreeBut fs after touched) {location : Location}
    (hNode : ∀ node, fs.nodeAt? location = some node → node.isRegular) :
    ∀ node, after.nodeAt? location = some node → node.isRegular := by
  by_cases hTouched : touched location
  · exact (h.isFree_after hTouched).node
  · rwa [h.node hTouched]

end AgreeBut

/-- A place as it is in another file system. -/
def Place.seenIn (place : Place) (after : FileSystem) : Place :=
  if place.node? = some .directory then place
  else ⟨place.location, after.nodeAt? place.location⟩

theorem Place.seenIn_mk {location : Location} {node? : Option Node} (after : FileSystem)
    (h : node? ≠ some .directory) :
    Place.seenIn ⟨location, node?⟩ after = ⟨location, after.nodeAt? location⟩ :=
  if_neg h

@[simp] theorem Place.location_seenIn (place : Place) (after : FileSystem) :
    (place.seenIn after).location = place.location := by
  unfold Place.seenIn
  split <;> rfl

/-- A last step leads to a file or to nothing. -/
theorem walk_last {fs : FileSystem} {followLast : Bool} {links : Nat} {current : Location}
    {step : String} (hDot : step ≠ ".") (hUp : step ≠ "..")
    (hLength : ¬ nameLimit < step.utf8ByteSize)
    (hNode : ∀ node, fs.nodeAt? (current ++ [step]) = some node → node.isRegular) :
    walk fs followLast links current [step] =
      .ok ⟨current ++ [step], fs.nodeAt? (current ++ [step])⟩ :=
  walk_step hDot hUp (Nat.not_lt.1 hLength) fun _ _ hLink => nomatch hNode _ hLink

namespace AgreeBut

variable {fs after : FileSystem} {touched : Location → Prop}

/-- A path that leads somewhere leads to the same location in both. -/
theorem walk (h : AgreeBut fs after touched) {followLast : Bool} {links : Nat}
    {current : Location} {steps : List String} {place : Place}
    (hPlace : walk fs followLast links current steps = .ok place) :
    FileSystem.walk after followLast links current steps = .ok (place.seenIn after) := by
  fun_induction FileSystem.walk fs followLast links current steps with
  | case1 links current =>
    cases hPlace
    simp [FileSystem.walk, Place.seenIn]
  | case2 links current rest ih => simpa [FileSystem.walk] using ih hPlace
  | case3 links current rest hDot ih => simpa [FileSystem.walk] using ih hPlace
  | case5 links current step rest hDot hUp hLength here hHere hLast =>
    cases hPlace
    obtain rfl : rest = [] := List.isEmpty_iff.1 hLast
    have hNode : ∀ node, fs.nodeAt? here = some node → node.isRegular := by simp [hHere]
    rw [walk_last hDot hUp hLength (h.isRegular hNode), Place.seenIn_mk after (by simp)]
  | case7 links current step rest hDot hUp hLength here hHere ih =>
    have hThere := h.nodeAt?_eq_some hHere nofun
    simpa [FileSystem.walk, hDot, hUp, hLength, hThere, here] using ih hPlace
  | case8 links current step rest hDot hUp hLength here target hHere hLast =>
    cases hPlace
    have hThere := h.nodeAt?_eq_some hHere nofun
    rw [Place.seenIn_mk after (by simp), hThere, FileSystem.walk]
    simp [hDot, hUp, hLength, hThere, here, hLast]
  | case11 current step rest hDot hUp hLength here target hHere hLast hTarget links ih =>
    have hThere := h.nodeAt?_eq_some hHere nofun
    rw [FileSystem.walk]
    simp only [hDot, hUp, hLength, hThere, here, hLast, hTarget, if_false]
    simpa using ih hPlace
  | case12 links current step rest hDot hUp hLength here file hDirectory hLink hHere hLast =>
    cases hPlace
    obtain rfl : rest = [] := List.isEmpty_iff.1 hLast
    have hNode : ∀ node, fs.nodeAt? here = some node → node.isRegular := by
      simpa [hHere] using Node.isRegular_iff.2 ⟨hDirectory, hLink⟩
    rw [walk_last hDot hUp hLength (h.isRegular hNode),
      Place.seenIn_mk after fun hSome => hDirectory (Option.some.inj hSome)]
  | case4 | case6 | case9 | case10 | case13 => cases hPlace

theorem resolveSteps (h : AgreeBut fs after touched) {followLast : Bool} {path : String}
    {steps : List String} {place : Place}
    (hPlace : fs.resolveSteps followLast path steps = .ok place) :
    after.resolveSteps followLast path steps = .ok (place.seenIn after) := by
  unfold FileSystem.resolveSteps at hPlace ⊢
  rw [h.workingDirectory]
  split at hPlace
  · cases hPlace
  · split at hPlace
    · cases hPlace
    · next hNul hEmpty =>
      rw [if_neg hNul, if_neg hEmpty]
      exact h.walk hPlace

/-- A path that leads to a location that is not touched leads to the same place in both. -/
theorem resolveSteps_of_not_touched (h : AgreeBut fs after touched) {followLast : Bool}
    {path : String} {steps : List String} {place : Place}
    (hPlace : fs.resolveSteps followLast path steps = .ok place)
    (hOther : ¬ touched place.location) :
    after.resolveSteps followLast path steps = .ok place := by
  rw [h.resolveSteps hPlace]
  rcases resolveSteps_node? hPlace with hDirectory | ⟨-, hThere, -⟩
  · rw [Place.seenIn, if_pos hDirectory]
  · unfold Place.seenIn
    split
    · rfl
    · rw [h.node hOther, hThere]

/-- A path leads to the same location in both, or in neither to any. -/
theorem location?_eq (h : AgreeBut fs after touched) (path : String) :
    after.location? path = fs.location? path := by
  have hOnly {fs after : FileSystem} (h : AgreeBut fs after touched) {location : Location}
      (hLocation : fs.location? path = some location) : after.location? path = some location := by
    unfold location? at hLocation ⊢
    cases hPlace : fs.resolve true path with
    | error error => simp [hPlace, Except.toOption] at hLocation
    | ok place =>
      rw [FileSystem.resolve, h.resolveSteps hPlace]
      simpa [hPlace, Except.toOption] using hLocation
  exact Option.ext fun location => ⟨hOnly h.symm, hOnly h⟩

end AgreeBut

end FileSystem

end JavaImports
