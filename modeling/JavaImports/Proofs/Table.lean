-- SUMMARY: Reading back the records of tables of nodes and edges.
import JavaImports.Graphml
import JavaImports.Proofs.FileSystem.Writing
import JavaImports.Proofs.Text.Lines
import JavaImports.Proofs.Text.Split

/-! # Reading tables back

A table escapes nothing. A name comes back from it if it is one line and not blank, and an edge
comes back if moreover the separator stands nowhere in its record before the place where it was put.
Whether all records of a table are edges is decided record by record. -/

namespace JavaImports

namespace Table

/-- Names that tables can hold. -/
structure IsName (name : String) : Prop where
  line : Text.IsLine name.toList
  notBlank : Unicode.isBlankText name = false

/-- A name that is not blank has a character. -/
theorem IsName.toList_ne_nil {name : String} (h : IsName name) : name.toList ≠ [] := by
  intro hNil
  have := h.notBlank
  simp [Unicode.isBlankText, hNil] at this

/-! ## Records -/

@[simp] theorem toList_ofRecords (separator : String) (names : List String) :
    (ofRecords separator names).toList =
      (names.map String.toList).flatMap fun record => record ++ separator.toList := by
  simp [ofRecords, String.toList_join, List.flatMap_map]

theorem map_ofList_inj {a b : List (List Char)} :
    a.map String.ofList = b.map String.ofList ↔ a = b :=
  (List.map_injective_iff.2 fun _ _ => String.ofList_inj.1).eq_iff

/-- The records of a table are those it was made of, just if each of them comes back. -/
theorem records_ofRecords_eq_iff {terminator : String} (hEnd : Text.IsLineEnd terminator.toList)
    {names : List String} : records (ofRecords terminator names) = names ↔
      ∀ name ∈ names, Text.ComesBack terminator.toList name.toList := by
  have hNames : (names.map String.toList).map String.ofList = names := by simp
  rw [← List.forall_mem_map, ← Text.lines_flatMap_eq_iff hEnd, records, toList_ofRecords]
  conv => lhs; rhs; rw [← hNames]
  exact map_ofList_inj

/-- The records of a table are those it was made of. -/
theorem records_ofRecords {separator : String} (hEnd : Text.IsLineEnd separator.toList)
    {names : List String} (h : ∀ name ∈ names, Text.IsLine name.toList) :
    records (ofRecords separator names) = names :=
  (records_ofRecords_eq_iff hEnd).2 fun name hName => (h name hName).comesBack _

/-- A table has the same records with either line end, unless one of those it was made of ends in a
    carriage return. -/
theorem records_feed_eq_records_return_iff {names : List String} :
    records (ofRecords "\n" names) = records (ofRecords "\r\n" names) ↔
      ∀ name ∈ names, name.toList.getLast? ≠ some '\r' := by
  rw [← List.forall_mem_map (P := fun text : List Char => text.getLast? ≠ some '\r'),
    ← Text.lines_flatMap_feed_eq_return_iff, records, records, toList_ofRecords, toList_ofRecords]
  exact map_ofList_inj

@[simp] theorem toList_edgeRecord (separator : String) (edge : Edge) :
    (edgeRecord separator edge).toList =
      edge.source.toList ++ separator.toList ++ edge.target.toList := by
  simp [edgeRecord]

/-- The record of an edge is one line if its parts have no line feeds and its target is one. -/
theorem isLine_edgeRecord {separator : String} (hSeparator : '\n' ∉ separator.toList) {edge : Edge}
    (hSource : '\n' ∉ edge.source.toList) (hTarget : Text.IsLine edge.target.toList)
    (hNonempty : edge.target.toList ≠ []) : Text.IsLine (edgeRecord separator edge).toList := by
  rw [toList_edgeRecord]
  refine ⟨?_, ?_⟩
  · simp [hSource, hSeparator, hTarget.noFeed]
  · rw [List.getLast?_append_of_ne_nil _ hNonempty]
    exact hTarget.noReturn

/-! ## Files -/

theorem writeText_of_write {fs written : FileSystem} {path table : String}
    (h : write fs path table = (written, .ok ())) :
    fs.writeText path table = (written, .ok ()) := by
  unfold write at h
  split at h
  · next after hText => rw [hText, (Prod.mk.inj h).1]
  · cases h

theorem read_eq_ok_iff {fs : FileSystem} {path : String} {names : List String} :
    read fs path = .ok names ↔ ∃ table, fs.readText path = .ok table ∧ records table = names := by
  unfold read
  cases fs.readText path <;> simp

/-- Without troubles, a table makes a file where nothing stands yet. -/
theorem write_top {fs : FileSystem} (hTroubles : fs.troubles = {}) {path step : String}
    (h : FileSystem.IsTopPath path step) (hNothing : fs.nodeAt? [step] = none) (table : String) :
    write fs path table = (fs.put [step] (.file table.toUTF8), .ok ()) := by
  rw [write, h.writeText hTroubles (.inl hNothing)]

section TwoTables

variable {fs first second : FileSystem} {firstPath secondPath a b : String}

/-- The table that was written last is read back. -/
theorem read_of_write (h : write fs firstPath a = (first, .ok ())) :
    read first firstPath = .ok (records a) :=
  read_eq_ok_iff.2 ⟨a, FileSystem.readText_of_writeText (writeText_of_write h), rfl⟩

/-- A table that was written is read back after a table was written to another file. In the same
    file it has given way to the other. -/
theorem read_first_of_write (hFirst : write fs firstPath a = (first, .ok ()))
    (hSecond : write first secondPath b = (second, .ok ())) :
    read second firstPath =
      .ok (records (if fs.location? firstPath = fs.location? secondPath then b else a)) := by
  have hFirst := writeText_of_write hFirst
  have hAfter := FileSystem.readText_after_writeText (writeText_of_write hSecond)
    (FileSystem.readText_of_writeText hFirst)
  simp only [FileSystem.location?_of_writeText hFirst] at hAfter
  exact read_eq_ok_iff.2 ⟨_, hAfter, rfl⟩

end TwoTables

/-- What is read from a table of nodes or of edges are the records it was made of, just if no record
    has a line feed in it and, where line feeds alone end the records, none ends in a carriage
    return. In two tables with the two line ends the same records are read alike just if none ends
    in a carriage return. -/
theorem read_written_iff {terminator : String} (hEnd : Text.IsLineEnd terminator.toList) :
    (∀ {fs written : FileSystem} {path : String} {nodes : List String},
      write fs path (ofNodes terminator nodes) = (written, .ok ()) →
      (read written path = .ok nodes ↔
        ∀ node ∈ nodes, Text.ComesBack terminator.toList node.toList)) ∧
    (∀ {fs written : FileSystem} {path edgeSeparator : String} {edges : List Edge},
      write fs path (ofEdges edgeSeparator terminator edges) = (written, .ok ()) →
      (read written path = .ok (edges.map (edgeRecord edgeSeparator)) ↔
        ∀ edge ∈ edges,
          Text.ComesBack terminator.toList (edgeRecord edgeSeparator edge).toList)) ∧
    (∀ {fs feeds other returns : FileSystem} {path otherPath : String} {names : List String},
      write fs path (ofRecords "\n" names) = (feeds, .ok ()) →
      write other otherPath (ofRecords "\r\n" names) = (returns, .ok ()) →
      (read feeds path = read returns otherPath ↔
        ∀ name ∈ names, name.toList.getLast? ≠ some '\r')) := by
  refine ⟨?_, ?_, ?_⟩
  · intro fs written path nodes hWrite
    rw [read_of_write hWrite, Except.ok.injEq]
    exact records_ofRecords_eq_iff hEnd
  · intro fs written path edgeSeparator edges hWrite
    rw [read_of_write hWrite, Except.ok.injEq, ofEdges, records_ofRecords_eq_iff hEnd]
    exact List.forall_mem_map
  · intro fs feeds other returns path otherPath names hFeeds hReturns
    rw [read_of_write hFeeds, read_of_write hReturns, Except.ok.injEq]
    exact records_feed_eq_records_return_iff

section Sample

private def sampleRecords : List String :=
  ["", "a\r", "", "a\r"]

private theorem write_sample (table : String) : write .bare "/nodes.csv" table =
    (FileSystem.bare.put ["nodes.csv"] (.file table.toUTF8), .ok ()) :=
  write_top rfl (by decide) rfl table

/-- Empty records and repeated ones come back. A carriage return at the end of a record comes back
    in front of one line end only. -/
theorem read_written_iff_return :
    ∃ feeds returns edges,
      write .bare "/nodes.csv" (ofNodes "\n" sampleRecords) = (feeds, .ok ()) ∧
      write .bare "/nodes.csv" (ofNodes "\r\n" sampleRecords) = (returns, .ok ()) ∧
      write .bare "/nodes.csv" (ofEdges "\r" "\n" [⟨"a", "b"⟩, ⟨"", ""⟩]) = (edges, .ok ()) ∧
      read returns "/nodes.csv" = .ok sampleRecords ∧
      read feeds "/nodes.csv" ≠ .ok sampleRecords ∧
      read feeds "/nodes.csv" ≠ read returns "/nodes.csv" ∧
      read edges "/nodes.csv" ≠ .ok ["a\rb", "\r"] := by
  have hFeed : Text.IsLineEnd "\n".toList := .inl (by decide)
  have hReturn : Text.IsLineEnd "\r\n".toList := .inr (by decide)
  refine ⟨_, _, _, write_sample _, write_sample _, write_sample _, ?_, ?_, ?_, ?_⟩
  · refine ((read_written_iff hReturn).1 (write_sample _)).2 fun node hNode => ?_
    exact ⟨by revert node; decide, fun hFeed => absurd hFeed (by decide)⟩
  · intro hRead
    have hAll := ((read_written_iff hFeed).1 (write_sample _)).1 hRead
    exact (hAll "a\r" (by decide)).noReturn (by decide) (by decide)
  · intro hSame
    have hAll := ((read_written_iff hFeed).2.2 (write_sample _) (write_sample _)).1 hSame
    exact hAll "a\r" (by decide) (by decide)
  · intro hRead
    have hAll := ((read_written_iff hFeed).2.1 (write_sample _)).1 hRead
    exact (hAll ⟨"", ""⟩ (by decide)).noReturn (by decide) (by decide)

end Sample

end Table

/-! ## Edges -/

namespace Graphml

/-- An edge is read from its record if the separator stands first where it was put. -/
theorem splitEdge?_edgeRecord {separator : String} {edge : Edge}
    (hFirst : Text.StandsFirstAfter separator.toList edge.source.toList)
    (hSource : Unicode.isBlankText edge.source = false)
    (hTarget : Unicode.isBlankText edge.target = false) :
    splitEdge? separator (Table.edgeRecord separator edge) = some edge := by
  have hCut := Text.splitFirst?_append hFirst edge.target.toList
  unfold Unicode.isBlankText at hSource hTarget
  rw [splitEdge?, Table.toList_edgeRecord, hCut]
  simp [hSource, hTarget]

/-- Source and target come back from their record exactly if neither is blank and the separator
    stands first where it was put. What the target holds does not matter. -/
theorem splitEdge?_append_eq_some_iff {separator source target : String} :
    splitEdge? separator (source ++ separator ++ target) = some ⟨source, target⟩ ↔
      Text.StandsFirstAfter separator.toList source.toList ∧
        Unicode.isBlankText source = false ∧ Unicode.isBlankText target = false := by
  constructor
  · intro h
    rw [splitEdge?, String.toList_append, String.toList_append] at h
    split at h
    · cases h
    · next before after hCut =>
      split at h
      · cases h
      · next hBlank =>
        obtain ⟨rfl, rfl⟩ := Edge.mk.inj (Option.some.inj h)
        rw [String.toList_ofList] at hCut
        have hNotBlank : before.all Unicode.isBlank = false ∧ after.all Unicode.isBlank = false := by
          simpa using hBlank
        refine ⟨?_, ?_, ?_⟩
        · rw [String.toList_ofList]
          exact Text.standsFirstAfter_of_splitFirst? hCut
        · rw [Unicode.isBlankText, String.toList_ofList, hNotBlank.1]
        · rw [Unicode.isBlankText, String.toList_ofList, hNotBlank.2]
  · rintro ⟨hFirst, hSource, hTarget⟩
    exact @splitEdge?_edgeRecord separator ⟨source, target⟩ hFirst hSource hTarget

/-- The empty separator stands in front of the source, so no source that is not blank comes back. -/
theorem separator_ne_of_standsFirstAfter {separator source : String}
    (hFirst : Text.StandsFirstAfter separator.toList source.toList)
    (hSource : Unicode.isBlankText source = false) : separator ≠ "" := by
  rintro rfl
  have hNil : source.toList = [] := Text.standsFirstAfter_nil.1 hFirst
  rw [Unicode.isBlankText, hNil] at hSource
  cases hSource

/-- Records are read as edges exactly if each of them is one. -/
theorem readEdges_eq_ok_iff {separator tablePath : String} {line : Nat} {records : List String}
    {edges : List Edge} : readEdges separator tablePath line records = .ok edges ↔
      records.map (splitEdge? separator) = edges.map some := by
  induction records generalizing line edges with
  | nil => cases edges <;> simp [readEdges]
  | cons record more ih =>
    simp only [readEdges, List.map_cons]
    cases hRecord : splitEdge? separator record with
    | none => cases edges <;> simp
    | some edge =>
      have hStep : (do return edge :: (← readEdges separator tablePath (line + 1) more)) =
          Except.ok edges ↔ ∃ found, readEdges separator tablePath (line + 1) more = .ok found ∧
            edge :: found = edges := by
        cases readEdges separator tablePath (line + 1) more <;>
          simp [bind, Except.bind, pure, Except.pure]
      simp only [hStep, ih]
      cases edges with
      | nil => simp
      | cons first rest =>
        simp only [List.map_cons, List.cons.injEq, Option.some.injEq]
        exact ⟨fun ⟨_, hMore, hEdge, hRest⟩ => ⟨hEdge, hRest ▸ hMore⟩,
          fun ⟨hEdge, hMore⟩ => ⟨rest, hMore, hEdge, rfl⟩⟩

/-- Reading stops at a malformed record if there is one. -/
theorem readEdges_eq_malformedRecord_iff {separator tablePath : String} {line : Nat}
    {records : List String} :
    (∃ number record, readEdges separator tablePath line records =
      .error (.malformedRecord tablePath number record)) ↔
        ∃ record ∈ records, splitEdge? separator record = none := by
  induction records generalizing line with
  | nil => simp [readEdges]
  | cons record more ih =>
    simp only [readEdges, List.mem_cons, exists_eq_or_imp]
    cases hRecord : splitEdge? separator record with
    | none => exact ⟨fun _ => .inl rfl, fun _ => ⟨line, record, rfl⟩⟩
    | some edge =>
      rw [← @ih (line + 1)]
      cases readEdges separator tablePath (line + 1) more <;>
        simp [bind, Except.bind, pure, Except.pure]

/-- The edges of a table are read from their records. -/
theorem readEdges_edgeRecords {separator : String} (tablePath : String) (line : Nat)
    {edges : List Edge}
    (h : ∀ edge ∈ edges, splitEdge? separator (Table.edgeRecord separator edge) = some edge) :
    readEdges separator tablePath line (edges.map (Table.edgeRecord separator)) = .ok edges := by
  rw [readEdges_eq_ok_iff, List.map_map]
  exact List.map_congr_left h

/-- Edges whose sources have no separator in them come back in order from the lines of their
    table. -/
theorem records_ofEdges_splitEdge? {c : Char} (hFeed : c ≠ '\n') {edges : List Edge}
    (hSources : ∀ edge ∈ edges, c ∉ edge.source.toList ∧ '\n' ∉ edge.source.toList ∧
      Unicode.isBlankText edge.source = false)
    (hTargets : ∀ edge ∈ edges, Table.IsName edge.target) :
    (Table.records (Table.ofEdges (String.singleton c) "\n" edges)).map
      (splitEdge? (String.singleton c)) = edges.map some := by
  have hSeparator : (String.singleton c).toList = [c] := String.toList_singleton c
  have hLines : ∀ record ∈ edges.map (Table.edgeRecord (String.singleton c)),
      Text.IsLine record.toList := by
    refine List.forall_mem_map.2 fun edge hEdge => ?_
    have hTarget := hTargets edge hEdge
    refine Table.isLine_edgeRecord ?_ (hSources edge hEdge).2.1 hTarget.line hTarget.toList_ne_nil
    rw [hSeparator, List.mem_singleton]
    exact hFeed.symm
  rw [Table.ofEdges, Table.records_ofRecords (.inl rfl) hLines, List.map_map]
  refine List.map_congr_left fun edge hEdge => ?_
  obtain ⟨hApart, -, hNotBlank⟩ := hSources edge hEdge
  refine splitEdge?_edgeRecord ?_ hNotBlank (hTargets edge hEdge).notBlank
  rw [hSeparator]
  exact Text.standsFirstAfter_singleton.2 hApart

/-- Source and target come back from their record exactly if the separator is not empty and stands
    first where it was put, and neither of them is blank. A separator of one character does so
    behind every source without it, and then the edges come back in order from their table. -/
theorem edges_split_back :
    (∀ separator source target : String,
      splitEdge? separator (source ++ separator ++ target) = some ⟨source, target⟩ ↔
        separator ≠ "" ∧ Text.StandsFirstAfter separator.toList source.toList ∧
          Unicode.isBlankText source = false ∧ Unicode.isBlankText target = false) ∧
    ∀ (c : Char) (edges : List Edge), c ≠ '\n' →
      (∀ edge ∈ edges, c ∉ edge.source.toList) →
      (∀ edge ∈ edges,
        Unicode.isBlankText edge.source = false ∧ Unicode.isBlankText edge.target = false) →
      (∀ edge ∈ edges, '\n' ∉ edge.source.toList ∧ '\n' ∉ edge.target.toList) →
      (∀ edge ∈ edges, edge.target.toList.getLast? ≠ some '\r') →
      (Table.records (Table.ofEdges (String.singleton c) "\n" edges)).map
        (splitEdge? (String.singleton c)) = edges.map some := by
  constructor
  · intro separator source target
    rw [splitEdge?_append_eq_some_iff]
    refine ⟨fun h => ⟨separator_ne_of_standsFirstAfter h.1 h.2.1, h⟩, fun h => h.2⟩
  · intro c edges hFeed hApart hBlank hLines hReturn
    refine records_ofEdges_splitEdge? hFeed (fun edge hEdge => ?_) fun edge hEdge => ?_
    · exact ⟨hApart edge hEdge, (hLines edge hEdge).1, (hBlank edge hEdge).1⟩
    · exact ⟨⟨(hLines edge hEdge).2, hReturn edge hEdge⟩, (hBlank edge hEdge).2⟩

/-- The separator may stand in a target, but a part of it at the end of a source spoils the
    record. -/
theorem edges_split_back_doubled :
    splitEdge? "aa" ("x" ++ "aa" ++ "aay") = some ⟨"x", "aay"⟩ ∧
    splitEdge? "aa" ("xa" ++ "aa" ++ "y") ≠ some ⟨"xa", "y"⟩ ∧
    (Table.records (Table.ofEdges (String.singleton ';') "\n" [⟨"a.B", "c;d"⟩, ⟨"e", "f.G"⟩])).map
      (splitEdge? (String.singleton ';')) = [some ⟨"a.B", "c;d"⟩, some ⟨"e", "f.G"⟩] := by
  refine ⟨(edges_split_back.1 _ _ _).2 (by decide), ?_, ?_⟩
  · rw [Ne, edges_split_back.1]
    decide
  · exact edges_split_back.2 ';' [⟨"a.B", "c;d"⟩, ⟨"e", "f.G"⟩] (by decide) (by decide)
      (by decide) (by decide) (by decide)

end Graphml

end JavaImports
