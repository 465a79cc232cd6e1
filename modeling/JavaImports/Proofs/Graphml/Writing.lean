-- SUMMARY: A document that is written replaces what stood at its path, or nothing happens to it.
import JavaImports.Graphml
import JavaImports.Proofs.FileSystem.Contents
import Mathlib.Control.Monad.Basic

/-! # Writing documents

A document is written to a temporary file next to its place and then moved there. Whatever fails on
the way, all that can have changed is the temporary file. So the document is at its place as a
whole, or what stood there before still does. The temporary file only lies within what stood there
if the path ends in dots: then it is not next to the directory that the path leads to, but in it.
A temporary file that could not be moved is removed if that can be; what is left when writing broke
off is not. The temporary file has a fixed name, so a file of that name is lost. -/

namespace JavaImports

/-- Whether the last step of a path stays in place or leads upwards. -/
def Path.EndsInDots (path : String) : Prop :=
  (steps path).getLast? = some "." ∨ (steps path).getLast? = some ".."

instance (path : String) : Decidable (Path.EndsInDots path) :=
  inferInstanceAs (Decidable (_ ∨ _))

/-- A path that ends in dots asks for a directory. -/
theorem Path.EndsInDots.namesDirectory {path : String} (h : EndsInDots path)
    (hSlash : path.toList.getLast? ≠ some '/') : FileSystem.namesDirectory path = true := by
  rw [FileSystem.namesDirectory, FileSystem.pathSteps_eq hSlash]
  rcases h with hLast | hLast <;> simp [hLast]

namespace Graphml.Style

open FileSystem (AgreeAt AgreeAtBut AgreeBut named?)

/-! ## The temporary file -/

/-- Whether a path leads to a location, whatever stands there. -/
def LeadsTo (fs : FileSystem) (path : String) (location : Location) : Prop :=
  ∃ node?, fs.resolve false path = .ok ⟨location, node?⟩

/-- Whether a path leads to a regular file at a location. -/
def LeadsToFile (fs : FileSystem) (path : String) (location : Location) : Prop :=
  ∃ node, fs.resolve false path = .ok ⟨location, some node⟩ ∧ node.isRegular

theorem leadsToFile_iff {fs : FileSystem} {path : String} {there location : Location} {node : Node}
    (hPlace : fs.resolve false path = .ok ⟨there, some node⟩) (hRegular : node.isRegular) :
    LeadsToFile fs path location ↔ location = there := by
  constructor
  · rintro ⟨other, hOther, -⟩
    exact congrArg FileSystem.Place.location (Except.ok.inj (hOther.symm.trans hPlace))
  · rintro rfl
    exact ⟨node, hPlace, hRegular⟩

/-- A path that names no regular file does not lead to one. -/
theorem not_leadsToFile {fs : FileSystem} {path : String}
    (hNoFile : ∀ node, fs.named? path = some node → node.isRegular = false) (location : Location) :
    ¬ LeadsToFile fs path location := by
  rintro ⟨node, hPlace, hRegular⟩
  rw [hNoFile node (FileSystem.named?_eq hPlace)] at hRegular
  cases hRegular

/-- Whether a temporary file is left behind. It can be opened for the document, but it only takes a
    part of it, or it is a new one and cannot be taken away again. -/
def LeavesTemporary (style : Style) (fs : FileSystem) (nodeTable edgeTable output : String) :
    Prop :=
  ∃ document location, style.render fs nodeTable edgeTable = .ok document ∧
    fs.openToWrite (temporaryPath output) = .ok location ∧
    (¬ fs.HasRoom location document.toUTF8 ∨
      fs.nodeAt? location = none ∧ fs.troubles.held? location ≠ none)

/-- Without troubles nothing is written in part, and everything can be taken away. -/
theorem not_leavesTemporary_of_troubles {fs : FileSystem} (hTroubles : fs.troubles = {})
    (style : Style) (nodeTable edgeTable output : String) :
    ¬ style.LeavesTemporary fs nodeTable edgeTable output := by
  rintro ⟨document, location, -, -, hShort | ⟨-, hHeld⟩⟩
  · exact hShort fun room error hCut => by simp [hTroubles] at hCut
  · exact hHeld (by rw [hTroubles, Troubles.held?_none])

section Temporary

variable {fs : FileSystem} {output : String} {location : Location}
  (hTemporary : ∀ target, fs.named? (temporaryPath output) ≠ some (.link target))
  (hOpen : fs.openToWrite (temporaryPath output) = .ok location)

include hTemporary hOpen

/-- Whatever is written to it, only the temporary file changes. -/
theorem agreeBut_put (content : ByteArray) :
    AgreeBut fs (fs.put location (.file content)) (· = location) :=
  .put (FileSystem.resolve_of_openToWrite hTemporary hOpen).1.isFree _ rfl

/-- The temporary file, once written, is where its path leads. -/
theorem resolve_put (content : ByteArray) :
    (fs.put location (.file content)).resolve false (temporaryPath output) =
      .ok ⟨location, some (.file content)⟩ := by
  obtain ⟨hOpenable, hPlace⟩ := FileSystem.resolve_of_openToWrite hTemporary hOpen
  exact FileSystem.resolve_put_self hOpenable.isFree _ rfl hPlace hOpenable.isFree.not_directory

/-- Without the temporary file, all is as before but for a file that stood there. -/
theorem agreeBut_drop :
    AgreeBut fs (fs.drop location) (LeadsToFile fs (temporaryPath output)) := by
  obtain ⟨hOpenable, hPlace⟩ := FileSystem.resolve_of_openToWrite hTemporary hOpen
  rcases hOpenable.node with ⟨hNone, -⟩ | ⟨node, hNode, hRegular⟩
  · rw [FileSystem.drop_eq_self hOpenable.notTop hNone]
    refine (AgreeBut.refl fs).congr fun other => ?_
    simp [LeadsToFile, hPlace, hNone]
  · rw [hNode] at hPlace
    exact (AgreeBut.drop hOpenable.isFree).congr fun other => (leadsToFile_iff hPlace hRegular).symm

/-- A temporary file that is not new takes the place of a file. -/
theorem agreeBut_put_of_ne_none (hThere : fs.nodeAt? location ≠ none) (content : ByteArray) :
    AgreeBut fs (fs.put location (.file content)) (LeadsToFile fs (temporaryPath output)) := by
  obtain ⟨hOpenable, hPlace⟩ := FileSystem.resolve_of_openToWrite hTemporary hOpen
  rcases hOpenable.node with ⟨hNone, -⟩ | ⟨node, hNode, hRegular⟩
  · exact absurd hNone hThere
  · rw [hNode] at hPlace
    exact (agreeBut_put hTemporary hOpen content).congr fun other =>
      (leadsToFile_iff hPlace hRegular).symm

end Temporary

/-! ## The place of the document -/

/-- The temporary file lies next to the place of the document, or the path of the document ends in
    dots and so leads to a directory. -/
theorem resolve_output {fs : FileSystem} {output : String} {place : FileSystem.Place}
    (hSlash : output.toList.getLast? ≠ some '/') (hPlace : fs.resolve false output = .ok place) :
    Path.EndsInDots output ∧ place.node? = some .directory ∨
    ¬ Path.EndsInDots output ∧ ∀ there, fs.resolve false (temporaryPath output) = .ok there →
      ¬ place.location <+: there.location := by
  by_cases hDots : Path.EndsInDots output
  · exact .inl ⟨hDots, FileSystem.node?_of_namesDirectory (hDots.namesDirectory hSlash) hPlace⟩
  · refine .inr ⟨hDots, fun there hThere hBelow => ?_⟩
    have hNonempty : output ≠ "" := by
      rintro rfl
      cases hPlace
    obtain ⟨directory, name, hLast, hLocation, hSibling⟩ :=
      FileSystem.exists_directory_of_resolve_append (by decide) (by decide) hNonempty hSlash hThere
    have hOutput := hSibling (fun heq => hDots (.inl (heq ▸ hLast)))
      fun heq => hDots (.inr (heq ▸ hLast))
    obtain rfl := Except.ok.inj (hOutput.symm.trans hPlace)
    rw [hLocation] at hBelow
    exact FileSystem.not_prefix_append (by decide) hBelow

section Output

variable {fs after : FileSystem} {output : String} {touched : Location → Prop}
  (h : AgreeBut fs after touched) (hSlash : output.toList.getLast? ≠ some '/')
  (hTouched : ∀ location, touched location → LeadsTo fs (temporaryPath output) location)

include h hSlash hTouched

/-- If only the temporary file changed, all else is as before at the place of the document. -/
theorem agreeAtBut_output : AgreeAtBut fs after output touched := by
  refine h.agreeAtBut fun place hPlace => ?_
  rcases resolve_output hSlash hPlace with ⟨-, hDirectory⟩ | ⟨-, hBeside⟩
  · exact .inl hDirectory
  · refine .inr fun hThere => ?_
    obtain ⟨node?, hTemporary⟩ := hTouched _ hThere
    exact hBeside _ hTemporary (List.prefix_refl _)

/-- If only the temporary file changed, nothing has at the place of the document, unless its path
    ends in dots. -/
theorem agreeAt_output (hDots : ¬ Path.EndsInDots output) : AgreeAt fs after output := by
  refine (agreeAtBut_output h hSlash hTouched).agreeAt fun place hPlace location hBelow hThere => ?_
  obtain ⟨node?, hTemporary⟩ := hTouched location hThere
  rcases resolve_output hSlash hPlace with ⟨hEnds, -⟩ | ⟨-, hBeside⟩
  · exact hDots hEnds
  · exact hBeside _ hTemporary hBelow

end Output

/-! ## Success -/

section Success

variable {fs moved : FileSystem} {output : String} {location : Location} {content : ByteArray}
  (hTemporary : ∀ target, fs.named? (temporaryPath output) ≠ some (.link target))
  (hOpen : fs.openToWrite (temporaryPath output) = .ok location)
  (hMove : (fs.put location (.file content)).moveFile (temporaryPath output) output = .ok moved)

include hTemporary hOpen hMove

/-- That the temporary file could be moved tells that the path of the document leads next to it. -/
theorem resolve_output_of_moveFile :
    ∃ destination, fs.resolve false output = .ok ⟨destination, fs.nodeAt? destination⟩ ∧
      destination ≠ location := by
  -- only a path that ends in a name can be moved to
  obtain ⟨-, place, hReplaceable, -⟩ :=
    (FileSystem.moveFile_eq_ok_iff (resolve_put hTemporary hOpen content)).1 hMove
  obtain ⟨name, hLast, hDot, hUp⟩ := hReplaceable.name
  have hNonempty : output ≠ "" := by
    rintro rfl
    cases hLast
  obtain ⟨directory, name', hLast', hLocation, hSibling⟩ :=
    FileSystem.exists_directory_of_resolve_append (by decide) (by decide) hNonempty
      hReplaceable.noSlash (FileSystem.resolve_of_openToWrite hTemporary hOpen).2
  obtain rfl : name = name' := Option.some.inj (hLast.symm.trans hLast')
  refine ⟨directory ++ [name], hSibling hDot hUp, fun heq => ?_⟩
  have hPrefix : directory ++ [name] <+: directory ++ [name ++ ".tmp"] :=
    (heq.trans hLocation) ▸ List.prefix_refl _
  exact FileSystem.not_prefix_append (by decide) hPrefix

variable (hOutput : ∀ target, fs.named? output ≠ some (.link target))

include hOutput

/-- Once the temporary file is moved, the document is at its path and nothing at the temporary
    one. -/
theorem named?_of_moveFile :
    moved.named? output = some (.file content) ∧ moved.named? (temporaryPath output) = none := by
  obtain ⟨hOpenable, hPlace⟩ := FileSystem.resolve_of_openToWrite hTemporary hOpen
  obtain ⟨destination, hBefore, hElsewhere⟩ := resolve_output_of_moveFile hTemporary hOpen hMove
  have hNoLink : ∀ target, fs.nodeAt? destination ≠ some (.link target) := by
    simpa [FileSystem.named?_eq hBefore] using hOutput
  obtain ⟨hThere, hGone⟩ := FileSystem.resolve_of_moveFile hOpenable.isFree hPlace hBefore hNoLink
    hElsewhere hMove
  exact ⟨FileSystem.named?_eq (hThere false), FileSystem.named?_eq hGone⟩

/-- With the document at its path, nothing has changed but that and a file at the temporary path. -/
theorem agreeBut_of_moveFile :
    ∃ destination, fs.resolve false output = .ok ⟨destination, fs.nodeAt? destination⟩ ∧
      AgreeBut fs moved fun other =>
        LeadsToFile fs (temporaryPath output) other ∨ other = destination := by
  obtain ⟨destination, hThere, hApart⟩ := resolve_output_of_moveFile hTemporary hOpen hMove
  have hNoLink : ∀ target, fs.nodeAt? destination ≠ some (.link target) := by
    simpa [FileSystem.named?_eq hThere] using hOutput
  obtain ⟨-, place, hReplaceable, rfl⟩ :=
    (FileSystem.moveFile_eq_ok_iff (resolve_put hTemporary hOpen content)).1 hMove
  have hAgree := agreeBut_put hTemporary hOpen content
  have hPlace := hAgree.resolveSteps_of_not_touched hThere hApart
  obtain rfl := Except.ok.inj (hPlace.symm.trans hReplaceable.resolve)
  have hFree : fs.IsFree destination := by
    refine ⟨?_, fun node hNode => Node.isRegular_iff.2 ⟨?_, ?_⟩⟩
    · rintro rfl
      exact hReplaceable.noDirectory rfl
    · rintro rfl
      exact hReplaceable.noDirectory hNode
    · rintro target rfl
      exact hNoLink target hNode
  have hDrop := agreeBut_drop hTemporary hOpen
  rw [FileSystem.drop_put]
  exact ⟨destination, hThere, hDrop.trans (.put (hDrop.isFree_iff.2 hFree) _ rfl)⟩

end Success

/-! ## All or nothing -/

/-- How writing a document ends: with no document, with a temporary file that could not be opened,
    that took only a part of it, that could not be moved and is removed or else stays, or with the
    document at its path. -/
inductive Outcome (style : Style) (fs : FileSystem) (nodeTable edgeTable output : String) :
    FileSystem × Except Failure Unit → Prop
  | notRendered {failure : Failure}
    (hRender : style.render fs nodeTable edgeTable = .error failure) :
    Outcome style fs nodeTable edgeTable output (fs, .error failure)
  | notOpened {error : FileError} :
    Outcome style fs nodeTable edgeTable output (fs, .error (.file error (temporaryPath output)))
  | brokenOff {location : Location} {part : ByteArray} {error : FileError}
    (hOpen : fs.openToWrite (temporaryPath output) = .ok location)
    (hLeaves : style.LeavesTemporary fs nodeTable edgeTable output) :
    Outcome style fs nodeTable edgeTable output
      (fs.put location (.file part), .error (.file error (temporaryPath output)))
  | removed {location : Location} {error : FileError}
    (hOpen : fs.openToWrite (temporaryPath output) = .ok location) :
    Outcome style fs nodeTable edgeTable output (fs.drop location, .error (.file error output))
  | kept {document : String} {location : Location} {error held : FileError}
    (hRender : style.render fs nodeTable edgeTable = .ok document)
    (hOpen : fs.openToWrite (temporaryPath output) = .ok location)
    (hHeld : fs.troubles.held? location = some held) :
    Outcome style fs nodeTable edgeTable output
      (fs.put location (.file document.toUTF8), .error (.file error output))
  | moved {document : String} {moved : FileSystem} {location : Location}
    (hRender : style.render fs nodeTable edgeTable = .ok document)
    (hOpen : fs.openToWrite (temporaryPath output) = .ok location)
    (hMove : (fs.put location (.file document.toUTF8)).moveFile (temporaryPath output) output =
      .ok moved) :
    Outcome style fs nodeTable edgeTable output (moved, .ok ())

theorem outcome_write (style : Style) {fs : FileSystem} (nodeTable edgeTable : String)
    {output : String}
    (hTemporary : ∀ target, fs.named? (temporaryPath output) ≠ some (.link target)) :
    Outcome style fs nodeTable edgeTable output (style.write fs nodeTable edgeTable output) := by
  rw [write]
  cases hRender : style.render fs nodeTable edgeTable with
  | error failure => exact .notRendered hRender
  | ok document =>
    have hWritten := FileSystem.written_writeBytes fs (temporaryPath output) document.toUTF8
    simp only [FileSystem.writeText]
    generalize fs.writeBytes (temporaryPath output) document.toUTF8 = result at hWritten
    cases hWritten with
    | notOpened hOpen => exact .notOpened
    | part hOpen hCut hRoom =>
      exact .brokenOff hOpen ⟨document, _, hRender, hOpen, .inl fun hWhole =>
        absurd (hWhole _ _ hCut) (Nat.not_le.2 hRoom)⟩
    | @whole location hOpen hRoom =>
      simp only
      cases hMove : (fs.put location (.file document.toUTF8)).moveFile (temporaryPath output)
          output with
      | ok moved => exact .moved hRender hOpen hMove
      | error error =>
        -- the file that could not be moved is there to be removed, if that is possible
        simp only [Style.removed, FileSystem.removeFile_eq (resolve_put hTemporary hOpen _)]
        cases hHeld : fs.troubles.held? location with
        | none =>
          have hGoes :
              (fs.put location (.file document.toUTF8)).troubles.held? location = none := hHeld
          simpa only [hGoes, FileSystem.drop_put] using .removed hOpen
        | some held =>
          have hStays :
              (fs.put location (.file document.toUTF8)).troubles.held? location = some held := hHeld
          simpa only [hStays] using .kept hRender hOpen hHeld

/-- A failure changes at most the temporary file, and that only if a file stood there or the
    temporary file is left behind. -/
theorem Outcome.agreeBut_of_error {style : Style} {fs after : FileSystem}
    {nodeTable edgeTable output : String} {failure : Failure}
    (hTemporary : ∀ target, fs.named? (temporaryPath output) ≠ some (.link target))
    (h : Outcome style fs nodeTable edgeTable output (after, .error failure)) :
    ∃ touched, AgreeBut fs after touched ∧
      (∀ location, touched location → LeadsTo fs (temporaryPath output) location) ∧
      (¬ style.LeavesTemporary fs nodeTable edgeTable output →
        ∀ location, touched location ↔ LeadsToFile fs (temporaryPath output) location) := by
  have hFile {location : Location} :
      LeadsToFile fs (temporaryPath output) location → LeadsTo fs (temporaryPath output) location :=
    fun ⟨_, hPlace, _⟩ => ⟨_, hPlace⟩
  have hFree {location : Location} :
      LeadsToFile fs (temporaryPath output) location → fs.IsFree location :=
    fun ⟨_, hLeads, hRegular⟩ => FileSystem.isFree_of_resolve hRegular hLeads
  have hNothing : AgreeBut fs fs (LeadsToFile fs (temporaryPath output)) :=
    ⟨rfl, rfl, fun _ => rfl, hFree, hFree⟩
  have hPlace {location : Location} (hOpen : fs.openToWrite (temporaryPath output) = .ok location)
      (other : Location) (hOther : other = location) : LeadsTo fs (temporaryPath output) other :=
    ⟨_, hOther ▸ (FileSystem.resolve_of_openToWrite hTemporary hOpen).2⟩
  cases h with
  | notRendered | notOpened => exact ⟨_, hNothing, fun _ => hFile, fun _ _ => .rfl⟩
  | brokenOff hOpen hLeaves =>
    exact ⟨_, agreeBut_put hTemporary hOpen _, hPlace hOpen, fun hNone => absurd hLeaves hNone⟩
  | removed hOpen => exact ⟨_, agreeBut_drop hTemporary hOpen, fun _ => hFile, fun _ _ => .rfl⟩
  | @kept document location _ _ hRender hOpen hHeld =>
    by_cases hNew : fs.nodeAt? location = none
    · have hLeaves : style.LeavesTemporary fs nodeTable edgeTable output :=
        ⟨document, location, hRender, hOpen, .inr ⟨hNew, by simp [hHeld]⟩⟩
      exact ⟨_, agreeBut_put hTemporary hOpen _, hPlace hOpen, fun hNone => absurd hLeaves hNone⟩
    · exact ⟨_, agreeBut_put_of_ne_none hTemporary hOpen hNew _, fun _ => hFile, fun _ _ => .rfl⟩

/-- Whether writing a document fails or not, everything that lies neither at its path nor at the
    temporary path is left as it is; and so is what lies at the temporary path, unless that is a
    file or a temporary file is left behind. -/
theorem write_elsewhere (style : Style) {fs : FileSystem} (nodeTable edgeTable : String)
    {output : String} (hOutput : ∀ target, fs.named? output ≠ some (.link target))
    (hTemporary : ∀ target, fs.named? (temporaryPath output) ≠ some (.link target))
    {path : String} (hApart : fs.Apart path output)
    (hOther : fs.Apart path (temporaryPath output) ∨
      (∀ node, fs.named? (temporaryPath output) = some node → node.isRegular = false) ∧
        ¬ style.LeavesTemporary fs nodeTable edgeTable output) :
    (style.write fs nodeTable edgeTable output).1.named? path = fs.named? path := by
  have hNotFile {location : Location} {node? : Option Node}
      (hPlace : fs.resolve false path = .ok ⟨location, node?⟩) :
      ¬ LeadsToFile fs (temporaryPath output) location := by
    intro hLeads
    rcases hOther with hBeside | ⟨hNoFile, -⟩
    · obtain ⟨node, hFile, -⟩ := hLeads
      exact hBeside _ hPlace _ hFile rfl
    · exact not_leadsToFile hNoFile _ hLeads
  have hOutcome := outcome_write style nodeTable edgeTable hTemporary
  generalize style.write fs nodeTable edgeTable output = result at hOutcome ⊢
  obtain ⟨after, failure | ⟨⟩⟩ := result
  · obtain ⟨touched, hAgree, hTouched, hWhole⟩ := hOutcome.agreeBut_of_error hTemporary
    refine hAgree.named?_eq fun place hPlace hThere => ?_
    rcases hOther with hBeside | ⟨hNoFile, hNotLeft⟩
    · obtain ⟨node?, hLeads⟩ := hTouched _ hThere
      exact hBeside place hPlace _ hLeads rfl
    · exact not_leadsToFile hNoFile _ ((hWhole hNotLeft _).1 hThere)
  · cases hOutcome with
    | moved hRender hOpen hMove =>
      obtain ⟨destination, hThere, hAgree⟩ :=
        agreeBut_of_moveFile hTemporary hOpen hMove hOutput
      refine hAgree.named?_eq fun place hPlace => ?_
      rintro (hFile | rfl)
      · exact hNotFile hPlace hFile
      · exact hApart place hPlace _ hThere rfl

section Sample

open FileSystem (IsTopPath)

private def plainStyle : Style := { template := "<g></graphml>" }

private def plainDocument : String :=
  "<g>\n" ++ graphStart ++ "    <node id=\"a.B\"/>\n" ++
  "    <edge id=\"e0\" source=\"a.B\" target=\"c.D\">\n" ++
  "      <data key=\"d1\">1.0</data>\n" ++ "    </edge>\n" ++ graphEnd ++ "</graphml>"

private def plainTables : FileSystem :=
  (FileSystem.bare.put ["nodes.csv"] (.file "a.B\n".toUTF8)).put ["edges.csv"]
    (.file "a.B;c.D\n".toUTF8)

private theorem nodeAt?_plainTables {step : String} (hNodes : step ≠ "nodes.csv")
    (hEdges : step ≠ "edges.csv") : plainTables.nodeAt? [step] = none := by
  rw [plainTables, FileSystem.nodeAt?_put (by simp), FileSystem.nodeAt?_put (by simp),
    if_neg (by simpa using hEdges), if_neg (by simpa using hNodes)]
  rfl

private theorem hasNoLinks_plainTables : plainTables.HasNoLinks :=
  (FileSystem.hasNoLinks_bare.put (by simp) (by simp)).put (by simp) (by simp)

private theorem nodeAt?_plainTables_nodes :
    plainTables.nodeAt? ["nodes.csv"] = some (.file "a.B\n".toUTF8) := by
  rw [plainTables, FileSystem.nodeAt?_put (by simp), FileSystem.nodeAt?_put (by simp),
    if_neg (by simp), if_pos rfl]

private theorem nodeAt?_plainTables_edges :
    plainTables.nodeAt? ["edges.csv"] = some (.file "a.B;c.D\n".toUTF8) := by
  rw [plainTables, FileSystem.nodeAt?_put (by simp), if_pos rfl]

private theorem render_plain {fs : FileSystem}
    (hNodes : fs.nodeAt? ["nodes.csv"] = some (.file "a.B\n".toUTF8))
    (hEdges : fs.nodeAt? ["edges.csv"] = some (.file "a.B;c.D\n".toUTF8)) :
    plainStyle.render fs "/nodes.csv" "/edges.csv" = .ok plainDocument := by
  have hNodesPath : IsTopPath "/nodes.csv" "nodes.csv" := by decide
  have hEdgesPath : IsTopPath "/edges.csv" "edges.csv" := by decide
  have hDocument : plainStyle.document (Table.records "a.B\n") (Table.records "a.B;c.D\n")
      "/edges.csv" = .ok plainDocument := by
    decide +kernel
  simp only [render, Table.read, hNodesPath.readText hNodes, hEdgesPath.readText hEdges, bind,
    Except.bind]
  exact hDocument

private theorem isTopPath_graph : IsTopPath "/graph" "graph" := by
  decide

private theorem isTopPath_graph_temporary :
    IsTopPath (temporaryPath "/graph") "graph.tmp" := by
  decide

/-- With the two tables and without troubles, the document is written to `/graph` unless that is a
    directory. -/
private theorem write_plain {fs : FileSystem} (hTroubles : fs.troubles = {})
    (hRender : plainStyle.render fs "/nodes.csv" "/edges.csv" = .ok plainDocument)
    (hNode : fs.nodeAt? ["graph.tmp"] = none ∨
      ∃ content, fs.nodeAt? ["graph.tmp"] = some (.file content)) :
    plainStyle.write fs "/nodes.csv" "/edges.csv" "/graph" =
      if fs.nodeAt? ["graph"] = some .directory then
        (fs.drop ["graph.tmp"], .error (.file .isADirectory "/graph"))
      else ((fs.drop ["graph.tmp"]).put ["graph"] (.file plainDocument.toUTF8), .ok ()) := by
  have hWrite := isTopPath_graph_temporary.writeText hTroubles hNode plainDocument
  have hWritten : (fs.put ["graph.tmp"] (.file plainDocument.toUTF8)).nodeAt? ["graph.tmp"] =
      some (.file plainDocument.toUTF8) := by
    rw [FileSystem.nodeAt?_put (by decide), if_pos rfl]
  have hOutput : (fs.put ["graph.tmp"] (.file plainDocument.toUTF8)).nodeAt? ["graph"] =
      fs.nodeAt? ["graph"] := by
    rw [FileSystem.nodeAt?_put (by decide), if_neg (by decide)]
  have hStill : (fs.put ["graph.tmp"] (.file plainDocument.toUTF8)).troubles = {} := hTroubles
  have hMove := isTopPath_graph_temporary.moveFile isTopPath_graph hStill hWritten
  have hPlace := isTopPath_graph_temporary.resolve_false
    (fs.put ["graph.tmp"] (.file plainDocument.toUTF8))
  rw [hOutput, FileSystem.drop_put] at hMove
  rw [hWritten] at hPlace
  simp only [write, hRender, hWrite, hMove, removed, FileSystem.removeFile_eq hPlace, hStill,
    FileSystem.drop_put]
  by_cases hDirectory : fs.nodeAt? ["graph"] = some .directory <;> simp [hDirectory]

/-- A directory where the document should go. -/
private def withDirectory : FileSystem :=
  plainTables.put ["graph"] .directory

/-- The tables, and a file whose name is that of the temporary file for the path of the top. -/
private def withOldFile : FileSystem :=
  plainTables.put ["..tmp"] (.file "kept\n".toUTF8)

private def withOldFileWritten : FileSystem :=
  withOldFile.put ["..tmp"] (.file plainDocument.toUTF8)

private def noSpace : FileError :=
  .system "No space left on device" 28

/-- The tables, and no room for the temporary file. -/
private def withoutRoom : FileSystem :=
  { plainTables with troubles.cutShort? := fun _ => some (0, noSpace) }

/-- Without room for the document, a temporary file is left where nothing stood. -/
private theorem write_withoutRoom :
    plainStyle.write withoutRoom "/nodes.csv" "/edges.csv" "/graph" =
      (withoutRoom.put ["graph.tmp"] (.file ByteArray.empty),
        .error (.file noSpace "/graph.tmp")) := by
  have hNothing : withoutRoom.nodeAt? ["graph.tmp"] = none :=
    nodeAt?_plainTables (by decide) (by decide)
  have hRender : plainStyle.render withoutRoom "/nodes.csv" "/edges.csv" = .ok plainDocument :=
    render_plain nodeAt?_plainTables_nodes nodeAt?_plainTables_edges
  have hOpen : withoutRoom.openToWrite (temporaryPath "/graph") = .ok ["graph.tmp"] :=
    isTopPath_graph_temporary.openToWrite ⟨by simp, .inl ⟨hNothing, rfl⟩, rfl⟩
  have hShort : ¬ plainDocument.toUTF8.size ≤ 0 := by decide +kernel
  have hPart : plainDocument.toUTF8.extract 0 0 = ByteArray.empty := by simp
  have hWrite : withoutRoom.writeText (temporaryPath "/graph") plainDocument =
      (withoutRoom.put ["graph.tmp"] (.file ByteArray.empty), .error noSpace) := by
    rw [FileSystem.writeText, FileSystem.writeBytes, hOpen, ← hPart]
    exact if_neg hShort
  simp only [write, hRender, hWrite]
  rfl

private theorem named?_withoutRoom :
    withoutRoom.named? (temporaryPath "/graph") = none ∧
      (withoutRoom.put ["graph.tmp"] (.file ByteArray.empty)).named? (temporaryPath "/graph") =
        some (.file ByteArray.empty) := by
  rw [isTopPath_graph_temporary.named?, isTopPath_graph_temporary.named?]
  refine ⟨nodeAt?_plainTables (by decide) (by decide), ?_⟩
  rw [FileSystem.nodeAt?_put (by decide), if_pos rfl]

private def notPermitted : FileError :=
  .system "Operation not permitted" 1

/-- The tables, in a directory of which nothing can be taken away. -/
private def growingOnly : FileSystem :=
  { plainTables with troubles.bound? := fun _ => some notPermitted }

/-- A temporary file that cannot be taken away is left where nothing stood. -/
private theorem write_growingOnly :
    plainStyle.write growingOnly "/nodes.csv" "/edges.csv" "/graph" =
      (growingOnly.put ["graph.tmp"] (.file plainDocument.toUTF8),
        .error (.file notPermitted "/graph")) := by
  have hNothing : growingOnly.nodeAt? ["graph.tmp"] = none :=
    nodeAt?_plainTables (by decide) (by decide)
  have hRender : plainStyle.render growingOnly "/nodes.csv" "/edges.csv" = .ok plainDocument :=
    render_plain nodeAt?_plainTables_nodes nodeAt?_plainTables_edges
  have hOpen : growingOnly.openToWrite (temporaryPath "/graph") = .ok ["graph.tmp"] :=
    isTopPath_graph_temporary.openToWrite ⟨by simp, .inl ⟨hNothing, rfl⟩, rfl⟩
  have hWrite : growingOnly.writeText (temporaryPath "/graph") plainDocument =
      (growingOnly.put ["graph.tmp"] (.file plainDocument.toUTF8), .ok ()) :=
    FileSystem.writeBytes_of_openToWrite hOpen nofun
  have hWritten : (growingOnly.put ["graph.tmp"] (.file plainDocument.toUTF8)).nodeAt?
      ["graph.tmp"] = some (.file plainDocument.toUTF8) := by
    rw [FileSystem.nodeAt?_put (by decide), if_pos rfl]
  have hMove := isTopPath_graph_temporary.moveFile_eq isTopPath_graph hWritten
  have hPlace := isTopPath_graph_temporary.resolve_false
    (growingOnly.put ["graph.tmp"] (.file plainDocument.toUTF8))
  rw [hWritten] at hPlace
  simp only [write, hRender, hWrite, hMove, removed, FileSystem.removeFile_eq hPlace]
  rfl

private theorem named?_growingOnly :
    growingOnly.named? (temporaryPath "/graph") = none ∧
      (growingOnly.put ["graph.tmp"] (.file plainDocument.toUTF8)).named?
        (temporaryPath "/graph") = some (.file plainDocument.toUTF8) := by
  rw [isTopPath_graph_temporary.named?, isTopPath_graph_temporary.named?]
  refine ⟨nodeAt?_plainTables (by decide) (by decide), ?_⟩
  rw [FileSystem.nodeAt?_put (by decide), if_pos rfl]

/-- The tables, and a file whose name is that of the temporary file for `/graph`. -/
private def withNeighbour : FileSystem :=
  plainTables.put ["graph.tmp"] (.file "kept\n".toUTF8)

private theorem nodeAt?_withNeighbour (location : Location) : withNeighbour.nodeAt? location =
    if location = ["graph.tmp"] then some (.file "kept\n".toUTF8)
    else plainTables.nodeAt? location :=
  FileSystem.nodeAt?_put (by decide) _ location

private theorem nodeAt?_withNeighbour_graph : withNeighbour.nodeAt? ["graph"] = none := by
  rw [nodeAt?_withNeighbour, if_neg (by decide)]
  exact nodeAt?_plainTables (by decide) (by decide)

private theorem named?_neighbour :
    withNeighbour.named? (temporaryPath "/graph") = some (.file "kept\n".toUTF8) := by
  rw [isTopPath_graph_temporary.named?, nodeAt?_withNeighbour, if_pos rfl]

private theorem render_withNeighbour :
    plainStyle.render withNeighbour "/nodes.csv" "/edges.csv" = .ok plainDocument :=
  render_plain (by simp [nodeAt?_withNeighbour, nodeAt?_plainTables_nodes])
    (by simp [nodeAt?_withNeighbour, nodeAt?_plainTables_edges])

private theorem apart_of_isTopPath {fs : FileSystem} {path step other last : String}
    (hPath : IsTopPath path step) (hOther : IsTopPath other last) (hSteps : step ≠ last) :
    fs.Apart path other := by
  rintro place hPlace there hThere hSame
  obtain rfl := Except.ok.inj ((hPath.resolve_false fs).symm.trans hPlace)
  obtain rfl := Except.ok.inj ((hOther.resolve_false fs).symm.trans hThere)
  exact hSteps (List.singleton_inj.1 hSame)

/-- The tables stay when a document is written, whatever becomes of a file at its temporary path. -/
theorem write_elsewhere_neighbour :
    (∀ target, withNeighbour.named? "/graph" ≠ some (.link target)) ∧
    (∀ target, withNeighbour.named? (temporaryPath "/graph") ≠ some (.link target)) ∧
    (∀ table ∈ ["/nodes.csv", "/edges.csv"],
      withNeighbour.Apart table "/graph" ∧ withNeighbour.Apart table (temporaryPath "/graph") ∧
      (plainStyle.write withNeighbour "/nodes.csv" "/edges.csv" "/graph").1.named? table =
        withNeighbour.named? table) := by
  have hOutput (target : String) : withNeighbour.named? "/graph" ≠ some (.link target) := by
    simp [isTopPath_graph.named?, nodeAt?_withNeighbour_graph]
  have hTemporary (target : String) :
      withNeighbour.named? (temporaryPath "/graph") ≠ some (.link target) := by
    simp [named?_neighbour]
  refine ⟨hOutput, hTemporary, fun table hTable => ?_⟩
  obtain ⟨step, hStep, hOutputStep, hTemporaryStep⟩ :
      ∃ step, IsTopPath table step ∧ step ≠ "graph" ∧ step ≠ "graph.tmp" := by
    obtain rfl | rfl : table = "/nodes.csv" ∨ table = "/edges.csv" := by simpa using hTable
    · exact ⟨"nodes.csv", by decide, by decide, by decide⟩
    · exact ⟨"edges.csv", by decide, by decide, by decide⟩
  have hApart : withNeighbour.Apart table "/graph" :=
    apart_of_isTopPath hStep isTopPath_graph hOutputStep
  have hBeside : withNeighbour.Apart table (temporaryPath "/graph") :=
    apart_of_isTopPath hStep isTopPath_graph_temporary hTemporaryStep
  exact ⟨hApart, hBeside, write_elsewhere plainStyle "/nodes.csv" "/edges.csv" hOutput hTemporary
    hApart (.inl hBeside)⟩

/-- A file next to the document is lost if its name is that of the temporary file, without any link
    and with the document at its path. And where nothing stood, a temporary file is left that has no
    room for the document or cannot be taken away. -/
theorem write_removes_neighbour :
    (withNeighbour.HasNoLinks ∧
      withNeighbour.Apart "/graph.tmp" "/graph" ∧
      withNeighbour.named? "/graph.tmp" = some (.file "kept\n".toUTF8) ∧
      ∃ after, plainStyle.write withNeighbour "/nodes.csv" "/edges.csv" "/graph" = (after, .ok ()) ∧
        after.named? "/graph" = some (.file plainDocument.toUTF8) ∧
        after.named? "/graph.tmp" = none) ∧
    (withoutRoom.HasNoLinks ∧
      withoutRoom.Apart "/graph.tmp" "/graph" ∧
      withoutRoom.named? "/graph.tmp" = none ∧
      ∃ after error, plainStyle.write withoutRoom "/nodes.csv" "/edges.csv" "/graph" =
          (after, .error (.file error "/graph.tmp")) ∧
        after.named? "/graph.tmp" = some (.file ByteArray.empty)) ∧
    (growingOnly.HasNoLinks ∧
      growingOnly.Apart "/graph.tmp" "/graph" ∧
      growingOnly.named? "/graph.tmp" = none ∧
      ∃ after error, plainStyle.write growingOnly "/nodes.csv" "/edges.csv" "/graph" =
          (after, .error (.file error "/graph")) ∧
        after.named? "/graph.tmp" = some (.file plainDocument.toUTF8)) := by
  have hApart (fs : FileSystem) : fs.Apart "/graph.tmp" "/graph" :=
    apart_of_isTopPath isTopPath_graph_temporary isTopPath_graph (by decide)
  refine ⟨?_, ⟨hasNoLinks_plainTables, hApart _, named?_withoutRoom.1, _, _, write_withoutRoom,
    named?_withoutRoom.2⟩, hasNoLinks_plainTables, hApart _, named?_growingOnly.1, _, _,
    write_growingOnly, named?_growingOnly.2⟩
  · have hWhole := write_plain rfl render_withNeighbour
      (.inr ⟨_, by rw [nodeAt?_withNeighbour, if_pos rfl]⟩)
    rw [nodeAt?_withNeighbour_graph, if_neg nofun] at hWhole
    refine ⟨hasNoLinks_plainTables.put (by simp) (by simp), hApart _, named?_neighbour, _, hWhole,
      ?_, ?_⟩
    · rw [isTopPath_graph.named?, FileSystem.nodeAt?_put (by decide), if_pos rfl]
    · refine (isTopPath_graph_temporary.named? _).trans ?_
      rw [FileSystem.nodeAt?_put (by decide), if_neg (by decide),
        FileSystem.nodeAt?_drop_self (by decide)]

end Sample

end Graphml.Style

end JavaImports
