-- SUMMARY: What can be read after a file was written.
import JavaImports.Proofs.FileSystem.Agreement

/-! # Writing files

Writing puts one node at one location, where a file or nothing stood before. No other location
changes, and every path that led somewhere leads to the same location as before. What was written
can be read back; if writing broke off, that is only its first part. -/

namespace JavaImports.FileSystem

/-! ## Paths lead to the same locations -/

/-- The path of a file that was written leads to it. -/
theorem resolve_put_self {fs : FileSystem} {location : Location} (hFree : fs.IsFree location)
    (node : Node) (hRegular : node.isRegular) {followLast : Bool} {path : String}
    {node? : Option Node} (h : fs.resolve followLast path = .ok ⟨location, node?⟩)
    (hNode : node? ≠ some .directory) :
    (fs.put location node).resolve followLast path = .ok ⟨location, some node⟩ := by
  rw [resolve, (AgreeBut.put hFree _ hRegular).resolveSteps h, Place.seenIn_mk _ hNode,
    nodeAt?_put hFree.notTop, if_pos rfl]

/-- A path that leads elsewhere leads to the same place after a file was written. -/
theorem resolve_put_of_ne {fs : FileSystem} {location : Location} (hFree : fs.IsFree location)
    {node : Node} (hRegular : node.isRegular) {followLast : Bool} {path : String} {place : Place}
    (h : fs.resolve followLast path = .ok place) (hElsewhere : place.location ≠ location) :
    (fs.put location node).resolve followLast path = .ok place :=
  (AgreeBut.put hFree _ hRegular).resolveSteps_of_not_touched h hElsewhere

/-! ## Paths from the top -/

/-- A slash leads to the top. -/
theorem resolve_top (fs : FileSystem) (followLast : Bool) :
    fs.resolve followLast "/" = .ok ⟨[], some .directory⟩ := by
  have hSteps : pathSteps "/" = ["."] := by decide
  unfold resolve resolveSteps start
  rw [if_neg (by decide), if_neg (by decide), if_pos (by decide), hSteps, walk, if_pos rfl, walk]

/-- The top is a directory. -/
theorem directory?_top (fs : FileSystem) : fs.directory? "/" = some [] := by
  simp [directory?, find, resolve_top, bind, Except.bind]

/-- Paths of one step from the top. -/
structure IsTopPath (path step : String) : Prop where
  noNul : '\x00' ∉ path.toList
  absolute : Path.isAbsolute path
  steps : pathSteps path = [step]
  notDot : step ≠ "."
  notUp : step ≠ ".."
  length : step.utf8ByteSize ≤ nameLimit

instance (path step : String) : Decidable (IsTopPath path step) :=
  decidable_of_iff ('\x00' ∉ path.toList ∧ Path.isAbsolute path ∧ pathSteps path = [step] ∧
      step ≠ "." ∧ step ≠ ".." ∧ step.utf8ByteSize ≤ nameLimit)
    ⟨fun ⟨noNul, absolute, steps, notDot, notUp, length⟩ =>
      ⟨noNul, absolute, steps, notDot, notUp, length⟩,
    fun h => ⟨h.noNul, h.absolute, h.steps, h.notDot, h.notUp, h.length⟩⟩

/-- The steps of a path from the top are followed from there. -/
theorem IsTopPath.resolveSteps {path step : String} (h : IsTopPath path step) (fs : FileSystem)
    (followLast : Bool) (steps : List String) :
    fs.resolveSteps followLast path steps = walk fs followLast linkLimit [] steps := by
  have hNonempty : path.isEmpty = false := by
    cases hEmpty : path.isEmpty with
    | false => rfl
    | true =>
      obtain rfl : path = "" := by simpa using hEmpty
      exact absurd h.absolute (by decide)
  rw [FileSystem.resolveSteps, if_neg (by simp [h.noNul]), hNonempty, start, if_pos h.absolute]
  rfl

/-- A path of one step from the top leads to what stands there, unless that is a link. -/
theorem IsTopPath.resolve {path step : String} (h : IsTopPath path step) {fs : FileSystem}
    {followLast : Bool} (hNode : ∀ target, fs.nodeAt? [step] ≠ some (.link target)) :
    fs.resolve followLast path = .ok ⟨[step], fs.nodeAt? [step]⟩ := by
  rw [FileSystem.resolve, h.resolveSteps, h.steps]
  exact walk_step h.notDot h.notUp h.length fun _ => hNode

/-! ## Opening files -/

/-- Whether a file at a location can be opened to be written: it stands there or can be made. -/
structure IsOpenable (fs : FileSystem) (location : Location) : Prop where
  notTop : location ≠ []
  node : fs.nodeAt? location = none ∧ fs.troubles.fixed? location = none ∨
    ∃ node, fs.nodeAt? location = some node ∧ node.isRegular
  writable : fs.troubles.unwritable? location = none

theorem IsOpenable.isFree {fs : FileSystem} {location : Location} (h : fs.IsOpenable location) :
    fs.IsFree location := by
  refine ⟨h.notTop, fun node hNode => ?_⟩
  rcases h.node with ⟨hNone, -⟩ | ⟨there, hThere, hRegular⟩
  · cases hNone.symm.trans hNode
  · cases hThere.symm.trans hNode
    exact hRegular

/-- In a file system without troubles a file can be opened where one stands or nothing does. -/
theorem isOpenable_of_troubles {fs : FileSystem} (hTroubles : fs.troubles = {})
    {location : Location} (hTop : location ≠ []) (hNode : fs.nodeAt? location = none ∨
      ∃ content, fs.nodeAt? location = some (.file content)) : fs.IsOpenable location :=
  ⟨hTop, hNode.imp (fun hNone => ⟨hNone, by rw [hTroubles]⟩) fun ⟨_, hFile⟩ => ⟨_, hFile, rfl⟩,
    by rw [hTroubles]⟩

/-- A file is opened at the location its path leads to. -/
theorem openToWrite_eq_ok_iff {fs : FileSystem} {path : String} {location : Location} :
    fs.openToWrite path = .ok location ↔ namesDirectory path = false ∧
      (∃ node?, fs.resolve true path = .ok ⟨location, node?⟩ ∧ node? ≠ some .directory) ∧
      fs.IsOpenable location := by
  unfold openToWrite
  constructor
  · intro h
    split at h
    · simp only [bind, Except.bind] at h
      split at h <;> cases h
    · next hNames =>
      simp only [bind, Except.bind] at h
      split at h
      · cases h
      · next place hPlace =>
        split at h
        · cases h
        · cases h
        · next hDirectory hFixed =>
          split at h
          · cases h
          · next hWritable =>
            cases h
            refine ⟨by simpa using hNames, ⟨place.node?, hPlace, hDirectory⟩, ?_⟩
            rcases resolveSteps_node? hPlace with hThere | ⟨hTop, hThere, hRegular⟩
            · exact absurd hThere hDirectory
            · refine ⟨hTop, ?_, hWritable⟩
              rw [hThere]
              cases hNode : place.node? with
              | none => exact .inl ⟨rfl, Option.eq_none_iff_forall_ne_some.2 (hFixed · hNode)⟩
              | some node => exact .inr ⟨node, rfl, hRegular rfl node hNode⟩
  · rintro ⟨hNames, ⟨node?, hPlace, hDirectory⟩, hOpen⟩
    rcases resolveSteps_node? hPlace with hThere | ⟨-, hThere, -⟩
    · exact absurd hThere hDirectory
    · rw [if_neg (by simp [hNames])]
      simp only [hPlace, bind, Except.bind, hOpen.writable]
      rcases hOpen.node with ⟨hNone, hFixed⟩ | ⟨node, hNode, hRegular⟩
      · obtain rfl : node? = none := hThere.symm.trans hNone
        simp only [hFixed]
      · obtain rfl : node? = some node := hThere.symm.trans hNode
        cases node with
        | directory => cases hRegular
        | file content => rfl
        | link target => rfl
        | sealed size error => rfl

/-! ## Writing and reading -/

/-- Whether content can be written as a whole to a file at a location. -/
def HasRoom (fs : FileSystem) (location : Location) (content : ByteArray) : Prop :=
  ∀ room error, fs.troubles.cutShort? location = some (room, error) → content.size ≤ room

/-- How writing to a file ends: it is not opened, is written as a whole, or writing breaks off. -/
inductive Written (fs : FileSystem) (path : String) (content : ByteArray) :
    FileSystem × Except FileError Unit → Prop
  | notOpened {error : FileError} (hOpen : fs.openToWrite path = .error error) :
    Written fs path content (fs, .error error)
  | whole {location : Location} (hOpen : fs.openToWrite path = .ok location)
    (hRoom : fs.HasRoom location content) :
    Written fs path content (fs.put location (.file content), .ok ())
  | part {location : Location} {room : Nat} {error : FileError}
    (hOpen : fs.openToWrite path = .ok location)
    (hCut : fs.troubles.cutShort? location = some (room, error)) (hRoom : room < content.size) :
    Written fs path content (fs.put location (.file (content.extract 0 room)), .error error)

theorem written_writeBytes (fs : FileSystem) (path : String) (content : ByteArray) :
    Written fs path content (fs.writeBytes path content) := by
  unfold writeBytes
  cases hOpen : fs.openToWrite path with
  | error error => exact .notOpened hOpen
  | ok location =>
    simp only
    cases hCut : fs.troubles.cutShort? location with
    | none => exact .whole hOpen fun room error hSome => nomatch hCut.symm.trans hSome
    | some cut =>
      obtain ⟨room, error⟩ := cut
      simp only
      split
      · next hRoom =>
        refine .whole hOpen fun other why hSome => ?_
        cases hCut.symm.trans hSome
        exact hRoom
      · next hRoom => exact .part hOpen hCut (Nat.lt_of_not_le hRoom)

/-- A file that can be opened and has room for its content is written. -/
theorem writeBytes_of_openToWrite {fs : FileSystem} {path : String} {location : Location}
    {content : ByteArray} (hOpen : fs.openToWrite path = .ok location)
    (hRoom : fs.HasRoom location content) :
    fs.writeBytes path content = (fs.put location (.file content), .ok ()) := by
  have hWritten := written_writeBytes fs path content
  generalize fs.writeBytes path content = result at hWritten
  cases hWritten with
  | notOpened hError => cases hOpen.symm.trans hError
  | whole hThere => cases hOpen.symm.trans hThere; rfl
  | part hThere hCut hShort =>
    cases hOpen.symm.trans hThere
    exact absurd (hRoom _ _ hCut) (Nat.not_le.2 hShort)

/-- Without troubles, a text is written wherever a file can be opened. -/
theorem writeText_of_troubles {fs : FileSystem} (hTroubles : fs.troubles = {}) {path : String}
    {location : Location} (hOpen : fs.openToWrite path = .ok location) (text : String) :
    fs.writeText path text = (fs.put location (.file text.toUTF8), .ok ()) :=
  writeBytes_of_openToWrite hOpen fun room error hCut => by simp [hTroubles] at hCut

/-- A file that was written could be opened and had room. -/
theorem openToWrite_of_writeBytes {fs written : FileSystem} {path : String} {content : ByteArray}
    (h : fs.writeBytes path content = (written, .ok ())) :
    ∃ location, fs.openToWrite path = .ok location ∧ fs.HasRoom location content ∧
      written = fs.put location (.file content) := by
  have hWritten := written_writeBytes fs path content
  rw [h] at hWritten
  cases hWritten with
  | whole hOpen hRoom => exact ⟨_, hOpen, hRoom, rfl⟩

/-- A file that could be written was put at the location its path leads to. -/
theorem eq_put_of_writeBytes {fs written : FileSystem} {path : String} {content : ByteArray}
    (h : fs.writeBytes path content = (written, .ok ())) :
    ∃ place, fs.resolve true path = .ok place ∧ place.node? ≠ some .directory ∧
      fs.IsFree place.location ∧ written = fs.put place.location (.file content) := by
  obtain ⟨location, hOpen, -, rfl⟩ := openToWrite_of_writeBytes h
  obtain ⟨-, ⟨node?, hPlace, hNode⟩, hOpenable⟩ := openToWrite_eq_ok_iff.1 hOpen
  exact ⟨_, hPlace, hNode, hOpenable.isFree, rfl⟩

/-- A file at a path of one step can be opened where it stands or can be made. -/
theorem IsTopPath.openToWrite {path step : String} (h : IsTopPath path step) {fs : FileSystem}
    (hOpen : fs.IsOpenable [step]) : fs.openToWrite path = .ok [step] := by
  have hFree := hOpen.isFree
  refine openToWrite_eq_ok_iff.2 ⟨by simp [namesDirectory, h.steps, h.notDot, h.notUp], ?_, hOpen⟩
  exact ⟨_, h.resolve hFree.not_link, hFree.not_directory⟩

/-- Without troubles, a file is written at a path of one step where one stands or nothing does. -/
theorem IsTopPath.writeText {path step : String} (h : IsTopPath path step) {fs : FileSystem}
    (hTroubles : fs.troubles = {}) (hNode : fs.nodeAt? [step] = none ∨
      ∃ content, fs.nodeAt? [step] = some (.file content)) (text : String) :
    fs.writeText path text = (fs.put [step] (.file text.toUTF8), .ok ()) :=
  writeText_of_troubles hTroubles
    (h.openToWrite (isOpenable_of_troubles hTroubles (by simp) hNode)) text

theorem fromUTF8?_toUTF8 (text : String) : String.fromUTF8? text.toUTF8 = some text :=
  dif_pos text.isValidUTF8

/-- A path leads to a node when it is resolved to a place where the node stands. -/
theorem find_eq_ok_iff {fs : FileSystem} {path : String} {location : Location} {node : Node} :
    fs.find path = .ok (location, node) ↔ fs.resolve true path = .ok ⟨location, some node⟩ := by
  unfold find
  rcases fs.resolve true path with error | ⟨there, _ | found⟩ <;>
    simp [bind, Except.bind]

/-- A text is read from the file that a path leads to. -/
theorem readText_eq_ok_iff {fs : FileSystem} {path text : String} :
    fs.readText path = .ok text ↔ ∃ location content,
      fs.resolve true path = .ok ⟨location, some (.file content)⟩ ∧
        String.fromUTF8? content = some text := by
  simp only [← find_eq_ok_iff]
  unfold readText readBytes
  simp only [bind, Except.bind]
  rcases fs.find path with error | ⟨there, content | target | _ | ⟨size, error⟩⟩
  · simp
  · rcases hText : String.fromUTF8? content with _ | found <;> simp [hText, and_assoc]
  · simp
  · simp
  · simp

/-- The text of a file at a path of one step. -/
theorem IsTopPath.readText {path step : String} (h : IsTopPath path step) {fs : FileSystem}
    {text : String} (hNode : fs.nodeAt? [step] = some (.file text.toUTF8)) :
    fs.readText path = .ok text := by
  refine readText_eq_ok_iff.2 ⟨[step], text.toUTF8, ?_, fromUTF8?_toUTF8 text⟩
  rw [h.resolve (by simp [hNode]), hNode]

/-- What was written to a file is read from it. -/
theorem readText_of_writeText {fs written : FileSystem} {path text : String}
    (h : fs.writeText path text = (written, .ok ())) : written.readText path = .ok text := by
  obtain ⟨place, hPlace, hNode, hFree, rfl⟩ := eq_put_of_writeBytes h
  have hPut := resolve_put_self hFree (.file text.toUTF8) rfl hPlace hNode
  exact readText_eq_ok_iff.2 ⟨_, _, hPut, fromUTF8?_toUTF8 text⟩

/-- A path leads to the same location as before after a file was written. -/
theorem location?_of_writeText {fs written : FileSystem} {path text : String}
    (h : fs.writeText path text = (written, .ok ())) (other : String) :
    written.location? other = fs.location? other := by
  obtain ⟨place, -, -, hFree, rfl⟩ := eq_put_of_writeBytes h
  exact (AgreeBut.put hFree _ rfl).location?_eq other

/-- A path at which a text was read gives that text after a file was written, or the text that was
    written if that is where the path leads. -/
theorem readText_after_writeText {fs written : FileSystem} {path text : String}
    (h : fs.writeText path text = (written, .ok ())) {other before : String}
    (hOther : fs.readText other = .ok before) :
    written.readText other =
      .ok (if fs.location? other = fs.location? path then text else before) := by
  obtain ⟨place, hPlace, hNode, hFree, rfl⟩ := eq_put_of_writeBytes h
  obtain ⟨location, content, hResolve, hText⟩ := readText_eq_ok_iff.1 hOther
  have hLocations : fs.location? other = fs.location? path ↔ location = place.location := by
    simp [location?, hResolve, hPlace, Except.toOption]
  rw [readText_eq_ok_iff]
  by_cases hSame : location = place.location
  · rw [if_pos (hLocations.2 hSame)]
    subst hSame
    exact ⟨_, _, resolve_put_self hFree _ rfl hResolve (by simp), fromUTF8?_toUTF8 text⟩
  · rw [if_neg fun heq => hSame (hLocations.1 heq)]
    exact ⟨_, _, resolve_put_of_ne hFree rfl hResolve hSame, hText⟩

end JavaImports.FileSystem
