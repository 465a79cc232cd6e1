-- SUMMARY: Which bytes paths lead to, and what writing and moving files leaves as it is.
import JavaImports.Proofs.FileSystem.Directories

/-! # Contents of files

A path that leads to none of the locations that were written to leads to the same bytes as before.
Writing what stands at a path already changes nothing, and neither does writing a file and moving it
to where the same was moved before. -/

namespace JavaImports.FileSystem

/-! ## Bytes -/

theorem readBytes_eq_ok_iff {fs : FileSystem} {path : String} {content : ByteArray} :
    fs.readBytes path = .ok content ↔
      ∃ location, fs.resolve true path = .ok ⟨location, some (.file content)⟩ := by
  simp only [← find_eq_ok_iff]
  unfold readBytes
  simp only [bind, Except.bind]
  rcases fs.find path with error | ⟨there, old | target | _ | ⟨size, error⟩⟩ <;> simp

theorem readText_eq_ok_iff_readBytes {fs : FileSystem} {path text : String} :
    fs.readText path = .ok text ↔
      ∃ content, fs.readBytes path = .ok content ∧ String.fromUTF8? content = some text := by
  simp only [readText_eq_ok_iff, readBytes_eq_ok_iff]
  exact ⟨fun ⟨location, content, hPlace, hText⟩ => ⟨content, ⟨location, hPlace⟩, hText⟩,
    fun ⟨content, ⟨location, hPlace⟩, hText⟩ => ⟨location, content, hPlace, hText⟩⟩

theorem hasPath_iff {fs : FileSystem} {path : String} :
    fs.hasPath path ↔ ∃ place, fs.resolve true path = .ok place ∧ place.node?.isSome := by
  unfold hasPath find
  rcases fs.resolve true path with error | ⟨location, _ | node⟩ <;> simp [bind, Except.bind]

theorem hasPath_of_directory? {fs : FileSystem} {path : String} {directory : Location}
    (h : fs.directory? path = some directory) : fs.hasPath path := by
  unfold directory? at h
  unfold hasPath
  cases hFind : fs.find path with
  | error error => simp [hFind] at h
  | ok found => rfl

/-- A path leads to a file with the same bytes in two file systems, or in neither to one that can be
    read; and it leads to something in both or in neither. -/
structure SameBytes (fs after : FileSystem) (path : String) : Prop where
  bytes (content : ByteArray) :
    after.readBytes path = .ok content ↔ fs.readBytes path = .ok content
  hasPath : after.hasPath path = fs.hasPath path

/-- The same text is read from the same bytes. -/
theorem SameBytes.readText {fs after : FileSystem} {path text : String}
    (h : SameBytes fs after path) (hText : fs.readText path = .ok text) :
    after.readText path = .ok text := by
  obtain ⟨content, hContent, hText⟩ := readText_eq_ok_iff_readBytes.1 hText
  exact readText_eq_ok_iff_readBytes.2 ⟨content, (h.bytes content).2 hContent, hText⟩

/-- A path leads to the same bytes in both if it leads to a location that is not touched. -/
theorem AgreeBut.sameBytes {fs after : FileSystem} {touched : Location → Prop}
    (h : AgreeBut fs after touched) {path : String}
    (hOther : ∀ location, fs.location? path = some location → ¬ touched location) :
    SameBytes fs after path := by
  have hOnly {fs after : FileSystem} (h : AgreeBut fs after touched)
      (hOther : ∀ location, fs.location? path = some location → ¬ touched location)
      {place : Place} (hPlace : fs.resolve true path = .ok place) :
      after.resolve true path = .ok place :=
    h.resolveSteps_of_not_touched hPlace
      (hOther place.location (by simp [location?, hPlace, Except.toOption]))
  have hSame (place : Place) :
      after.resolve true path = .ok place ↔ fs.resolve true path = .ok place :=
    ⟨hOnly h.symm (by simpa [h.location?_eq] using hOther), hOnly h hOther⟩
  exact ⟨fun content => by simp only [readBytes_eq_ok_iff, hSame],
    Bool.eq_iff_iff.2 (by simp only [hasPath_iff, hSame])⟩

/-! ## Writing -/

/-- What was written to a file are its bytes. -/
theorem readBytes_of_writeText {fs written : FileSystem} {path text : String}
    (h : fs.writeText path text = (written, .ok ())) :
    written.readBytes path = .ok text.toUTF8 := by
  obtain ⟨place, hPlace, hNode, hFree, rfl⟩ := eq_put_of_writeBytes h
  exact readBytes_eq_ok_iff.2 ⟨_, resolve_put_self hFree _ rfl hPlace hNode⟩

/-- A text is put where its path leads. -/
theorem exists_location_of_writeText {fs written : FileSystem} {path text : String}
    (h : fs.writeText path text = (written, .ok ())) :
    ∃ location, fs.location? path = some location ∧ fs.IsFree location ∧
      written = fs.put location (.file text.toUTF8) := by
  obtain ⟨place, hPlace, -, hFree, hWritten⟩ := eq_put_of_writeBytes h
  exact ⟨place.location, by simp [location?, hPlace, Except.toOption], hFree, hWritten⟩

/-- Writing touches nothing but the location of its path. -/
theorem agreeBut_of_writeText {fs written : FileSystem} {path text : String}
    (h : fs.writeText path text = (written, .ok ())) :
    AgreeBut fs written fun location => fs.location? path = some location := by
  obtain ⟨location, hLocation, hFree, rfl⟩ := exists_location_of_writeText h
  simpa [hLocation, eq_comm] using AgreeBut.put hFree (.file text.toUTF8) rfl

/-- A text that is written where it stands changes nothing. -/
theorem writeText_eq_self {fs : FileSystem} {path text : String} {location : Location}
    (hOpen : fs.openToWrite path = .ok location) (hRoom : fs.HasRoom location text.toUTF8)
    (h : fs.nodeAt? location = some (.file text.toUTF8)) :
    fs.writeText path text = (fs, .ok ()) := by
  rw [writeText, writeBytes_of_openToWrite hOpen hRoom,
    put_eq_self (openToWrite_eq_ok_iff.1 hOpen).2.2.notTop h]

namespace AgreeBut

variable {fs after : FileSystem} {touched : Location → Prop}

/-- Where no directory stands in one, none stands in the other. -/
theorem seenIn_ne_directory (h : AgreeBut fs after touched) {followLast : Bool} {path : String}
    {steps : List String} {place : Place}
    (hPlace : fs.resolveSteps followLast path steps = .ok place)
    (hNode : place.node? ≠ some .directory) : (place.seenIn after).node? ≠ some .directory := by
  intro hDirectory
  rw [Place.seenIn, if_neg hNode] at hDirectory
  rcases resolveSteps_node? hPlace with hHere | ⟨-, hThere, -⟩
  · exact hNode hHere
  · rw [← hThere] at hNode
    exact hNode (h.symm.nodeAt?_eq_some hDirectory Bool.false_ne_true)

/-- A file that could be opened in one is opened in the other at the same location, if it can be
    opened there. -/
theorem openToWrite (h : AgreeBut fs after touched) {path : String} {location : Location}
    (hOpen : fs.openToWrite path = .ok location) (hAfter : after.IsOpenable location) :
    after.openToWrite path = .ok location := by
  obtain ⟨hNames, ⟨node?, hPlace, hNode⟩, -⟩ := openToWrite_eq_ok_iff.1 hOpen
  have hThere : after.resolve true path = .ok (Place.seenIn ⟨location, node?⟩ after) :=
    h.resolveSteps hPlace
  refine openToWrite_eq_ok_iff.2 ⟨hNames, ⟨_, ?_, h.seenIn_ne_directory hPlace hNode⟩, hAfter⟩
  rw [hThere, Place.seenIn_mk after hNode]

theorem hasRoom (h : AgreeBut fs after touched) {location : Location} {content : ByteArray}
    (hRoom : fs.HasRoom location content) : after.HasRoom location content := by
  simpa only [HasRoom, h.troubles] using hRoom

/-- A text that was written is written again where its bytes still stand, and that changes
    nothing. -/
theorem writeText_again (h : AgreeBut fs after touched) {written : FileSystem} {path text : String}
    (hWrite : fs.writeText path text = (written, .ok ()))
    (hBytes : after.readBytes path = .ok text.toUTF8) :
    after.writeText path text = (after, .ok ()) := by
  obtain ⟨location, hOpen, hRoom, -⟩ := openToWrite_of_writeBytes hWrite
  obtain ⟨-, ⟨node?, hPlace, hNode⟩, hOpenable⟩ := openToWrite_eq_ok_iff.1 hOpen
  obtain ⟨there, hThere⟩ := readBytes_eq_ok_iff.1 hBytes
  have hAgain : after.resolve true path = .ok ⟨location, after.nodeAt? location⟩ := by
    rw [resolve, h.resolveSteps hPlace, Place.seenIn_mk after hNode]
  obtain ⟨rfl, hFile⟩ := Place.mk.inj (Except.ok.inj (hAgain.symm.trans hThere))
  have hOpenAgain : after.IsOpenable location :=
    ⟨hOpenable.notTop, .inr ⟨_, hFile, rfl⟩, by rw [h.troubles, hOpenable.writable]⟩
  exact writeText_eq_self (h.openToWrite hOpen hOpenAgain) (h.hasRoom hRoom) hFile

/-- Where a file can be moved in one, a file can be moved in the other. -/
theorem isReplaceable (h : AgreeBut fs after touched) {target : String} {place : Place}
    (hTarget : fs.IsReplaceable target place) :
    after.IsReplaceable target (place.seenIn after) := by
  obtain ⟨⟨directory, hAbove⟩, hName, hSlash, hPlace, hNode, hNotFixed⟩ := hTarget
  refine ⟨⟨_, h.resolveSteps hAbove⟩, hName, hSlash, h.resolveSteps hPlace,
    h.seenIn_ne_directory hPlace hNode, ?_⟩
  rw [Place.location_seenIn, h.troubles, hNotFixed]

end AgreeBut

/-! ## Writing and then moving -/

/-- A text was written at one path and moved to another. It stands where that leads, and nothing is
    left of it where it was written. -/
structure IsMoved (fs written moved : FileSystem) (source target text : String)
    (origin : Location) (place : Place) : Prop where
  opened : fs.openToWrite source = .ok origin
  hasRoom : fs.HasRoom origin text.toUTF8
  notHeld : fs.troubles.held? origin = none
  fromOrigin : fs.location? source = some origin
  toPlace : fs.location? target = some place.location
  apart : place.location ≠ origin
  originFree : fs.IsFree origin
  targetFree : fs.IsFree place.location
  put : written = fs.put origin (.file text.toUTF8)
  resolve : written.resolve false source = .ok ⟨origin, some (.file text.toUTF8)⟩
  replaceable : written.IsReplaceable target place
  moved : moved = (fs.drop origin).put place.location (.file text.toUTF8)

section Moved

variable {fs written moved : FileSystem} {source target text : String}
  (hSource : ∀ link, fs.named? source ≠ some (.link link))
  (hTarget : ∀ link, fs.named? target ≠ some (.link link))
  (hApart : fs.location? target ≠ fs.location? source)
  (hWrite : fs.writeText source text = (written, .ok ()))
  (hMove : written.moveFile source target = .ok moved)

include hSource hTarget hApart hWrite hMove

theorem exists_isMoved :
    ∃ origin place, IsMoved fs written moved source target text origin place := by
  obtain ⟨origin, hOpen, hRoom, rfl⟩ := openToWrite_of_writeBytes hWrite
  obtain ⟨hOpenable, hPlace⟩ := resolve_of_openToWrite hSource hOpen
  have hFree := hOpenable.isFree
  have hOrigin : fs.location? source = some origin := by
    rw [location?, resolve_follow hSource, hPlace]
    rfl
  have hThere := resolve_put_self hFree (.file text.toUTF8) rfl hPlace hFree.not_directory
  obtain ⟨hNotHeld, place, hReplaceable, rfl⟩ := (moveFile_eq_ok_iff hThere).1 hMove
  -- the file that was written does not turn the target into a link
  have hAgree := AgreeBut.put hFree (.file text.toUTF8) rfl
  have hNoLink (link : String) : place.node? ≠ some (.link link) := by
    rw [← named?_eq hReplaceable.resolve]
    exact fun hLink => hTarget link (hAgree.named?_eq_link_iff.1 hLink)
  have hFollow := resolve_follow fun link hNamed =>
    hNoLink link ((named?_eq hReplaceable.resolve).symm.trans hNamed)
  have hDestination : fs.location? target = some place.location := by
    rw [← hAgree.location?_eq, location?, hFollow, hReplaceable.resolve]
    rfl
  have hElsewhere : place.location ≠ origin := by
    intro heq
    rw [hDestination, hOrigin, heq] at hApart
    exact hApart rfl
  have hTargetFree : fs.IsFree place.location := by
    rcases resolveSteps_node? hReplaceable.resolve with hDirectory | ⟨hTop, hHere, -⟩
    · exact absurd hDirectory hReplaceable.noDirectory
    · rw [nodeAt?_put hFree.notTop, if_neg hElsewhere] at hHere
      refine ⟨hTop, fun node hNode => ?_⟩
      rw [hHere] at hNode
      refine Node.isRegular_iff.2 ⟨?_, ?_⟩
      · rintro rfl
        exact hReplaceable.noDirectory hNode
      · rintro link rfl
        exact hNoLink link hNode
  exact ⟨origin, place, hOpen, hRoom, hNotHeld, hOrigin, hDestination, hElsewhere, hFree,
    hTargetFree, rfl, hThere, hReplaceable, by rw [drop_put]⟩

/-- Nothing is touched but the places of the two paths. -/
theorem agreeBut_of_moveFile : AgreeBut fs moved fun location =>
    fs.location? source = some location ∨ fs.location? target = some location := by
  obtain ⟨origin, place, h⟩ := exists_isMoved hSource hTarget hApart hWrite hMove
  have hDrop := AgreeBut.drop h.originFree
  have hPut := AgreeBut.put (hDrop.isFree_iff.2 h.targetFree) (.file text.toUTF8) rfl
  simpa [h.fromOrigin, h.toPlace, h.moved, eq_comm] using hDrop.trans hPut

/-- The same text can be written and moved again, and then everything is as before. -/
theorem exists_moveFile_again : ∃ again,
    moved.writeText source text = (again, .ok ()) ∧ again.moveFile source target = .ok moved := by
  have hAgree := agreeBut_of_moveFile hSource hTarget hApart hWrite hMove
  obtain ⟨origin, place, h⟩ := exists_isMoved hSource hTarget hApart hWrite hMove
  have hGone : moved.nodeAt? origin = none := by
    rw [h.moved, nodeAt?_put h.targetFree.notTop, if_neg h.apart.symm,
      nodeAt?_drop_self h.originFree.notTop]
  have hDone : moved.nodeAt? place.location = some (.file text.toUTF8) := by
    rw [h.moved, nodeAt?_put h.targetFree.notTop, if_pos rfl]
  have hOpenable : moved.IsOpenable origin := by
    refine ⟨h.originFree.notTop, .inl ⟨hGone, ?_⟩, ?_⟩
    · rw [hAgree.troubles, Troubles.fixed?_of_held? h.notHeld]
    · rw [hAgree.troubles, (openToWrite_eq_ok_iff.1 h.opened).2.2.writable]
  have hAgain := writeBytes_of_openToWrite (hAgree.openToWrite h.opened hOpenable)
    (hAgree.hasRoom h.hasRoom)
  refine ⟨_, hAgain, ?_⟩
  have hBoth := ((agreeBut_of_writeText hWrite).symm.trans hAgree).trans
    (AgreeBut.put hOpenable.isFree (.file text.toUTF8) rfl)
  have hSourceAgain : (moved.put origin (.file text.toUTF8)).resolve false source =
      .ok ⟨origin, some (.file text.toUTF8)⟩ := by
    rw [resolve, hBoth.resolveSteps h.resolve, Place.seenIn_mk _ (by simp),
      nodeAt?_put h.originFree.notTop, if_pos rfl]
  refine (moveFile_eq_ok_iff hSourceAgain).2
    ⟨?_, _, hBoth.isReplaceable h.replaceable, ?_⟩
  · rw [show (moved.put origin (.file text.toUTF8)).troubles = moved.troubles from rfl,
      hAgree.troubles, h.notHeld]
  · rw [Place.location_seenIn, drop_put, drop_eq_self h.originFree.notTop hGone,
      put_eq_self h.targetFree.notTop hDone]

end Moved

end JavaImports.FileSystem
