-- SUMMARY: Which files of a project are scanned, and in which order.
import JavaImports.Proofs.FileSystem.Walk
import JavaImports.Proofs.FileSystem.Writing
import JavaImports.Proofs.Path
import JavaImports.Scan

/-! # The files of a project

The files that a scan reads are those that a way through directories leads to from the root, and
that the configuration selects, the test accepts and the limit allows. Each is read once. Their
order is that of their locations, name by name and byte by byte; as texts their paths may be in
another order, since a slash comes after some characters that a name can hold. If something on the
walk cannot be told, or not the size of a file that passes the tests, the first such thing is why
there are no files. -/

namespace JavaImports

/-! ## Paths below a root -/

/-- The path of a location below a root as the patterns of a configuration see it. -/
def relativePath (relative : Location) : String :=
  withSlashes ("/".intercalate relative)

/-- The path of a walk below its root. -/
theorem walkPath_of_ne_nil (root : String) {relative : Location} (hRelative : relative ≠ []) :
    walkPath root relative = pathBelow root relative :=
  if_neg (by simpa using hRelative)

section Names

variable {relative : Location} (hNames : ∀ name ∈ relative, FileSystem.IsEntryName name)

include hNames

theorem not_isAbsolute_below : ¬ Path.isAbsolute ("/".intercalate relative) :=
  Path.not_isAbsolute_intercalate fun name hName =>
    ⟨(hNames name hName).nonempty, (hNames name hName).noSlash⟩

theorem steps_below : Path.steps ("/".intercalate relative) = relative :=
  Path.steps_intercalate fun name hName =>
    ⟨(hNames name hName).nonempty, (hNames name hName).noSlash⟩

/-- Behind the root, what remains of a path are the names that lead there: the root is never missing
    from it. -/
theorem stripPrefix?_pathBelow (root : String) :
    Path.stripPrefix? root (pathBelow root relative) = some ("/".intercalate relative) := by
  have hDot (name : String) (hName : name ∈ relative) : (name != ".") = true := by
    simpa using (hNames name hName).notDot
  have hHead : (Path.steps ("/".intercalate relative)).head? ≠ some "." := by
    rw [steps_below hNames]
    exact fun hFirst => (hNames _ (List.mem_of_mem_head? hFirst)).notDot rfl
  rw [pathBelow, Path.stripPrefix?_join (not_isAbsolute_below hNames) hHead, Path.segments,
    steps_below hNames, List.filter_eq_self.2 hDot]

end Names

/-- Locations below a root have paths of their own. -/
theorem pathBelow_inj {root : String} {relative other : Location}
    (hRelative : ∀ name ∈ relative, FileSystem.IsEntryName name)
    (hOther : ∀ name ∈ other, FileSystem.IsEntryName name)
    (h : pathBelow root relative = pathBelow root other) : relative = other := by
  have hPaths := Path.join_inj (not_isAbsolute_below hRelative) (not_isAbsolute_below hOther) h
  calc relative = Path.steps ("/".intercalate relative) := (steps_below hRelative).symm
    _ = Path.steps ("/".intercalate other) := by rw [hPaths]
    _ = other := steps_below hOther

/-! ## Gathering -/

/-- The file that a finding selects. -/
def Finding.path? : Finding → Option String
  | .selected path => some path
  | _ => none

/-- The warning that a finding gives. -/
def Finding.warning? : Finding → Option Warning
  | .warned warning => some warning
  | _ => none

namespace Selection

section Gather

variable {α : Type} {examine : α → Except Failure Finding}

/-- If something is made of every part, all files are gathered, and all warnings. -/
theorem gather_of_ok {parts : List α} {findings : List Finding}
    (h : parts.map examine = findings.map .ok) : gather examine parts =
      ⟨findings.filterMap Finding.warning?, .ok (findings.filterMap Finding.path?)⟩ := by
  induction parts generalizing findings with
  | nil =>
    obtain rfl := List.map_eq_nil_iff.1 h.symm
    rfl
  | cons part parts ih =>
    obtain ⟨finding, findings, rfl, hFinding, hMore⟩ := List.map_eq_cons_iff.1 h.symm
    have hRest := ih hMore.symm
    rw [gather, ← hFinding]
    cases finding <;> (simp only [hRest]; rfl)

/-- The first part of which nothing can be made is why there are no files. -/
theorem result_gather_of_error {before after : List α} {part : α} {failure : Failure}
    (hBefore : ∀ other ∈ before, ∃ finding, examine other = .ok finding)
    (hPart : examine part = .error failure) :
    (gather examine (before ++ part :: after)).result = .error failure := by
  induction before with
  | nil => simp [gather, hPart]
  | cons other before ih =>
    obtain ⟨⟨finding, hFinding⟩, hMore⟩ := List.forall_mem_cons.1 hBefore
    have hRest := ih hMore
    rw [List.cons_append, gather, hFinding]
    cases finding <;> simp only [hRest]
    rfl

/-- Something can be made of every part, or there is a first one where that fails. -/
theorem exists_findings_or_first_error (examine : α → Except Failure Finding) (parts : List α) :
    (∃ findings : List Finding, parts.map examine = findings.map .ok) ∨
      ∃ before part after failure, parts = before ++ part :: after ∧
        (∀ other ∈ before, ∃ finding, examine other = .ok finding) ∧
        examine part = .error failure := by
  induction parts with
  | nil => exact .inl ⟨[], rfl⟩
  | cons part parts ih =>
    cases hPart : examine part with
    | error failure => exact .inr ⟨[], part, parts, failure, rfl, by simp, hPart⟩
    | ok finding =>
      rcases ih with ⟨findings, hFindings⟩ | ⟨before, first, after, failure, rfl, hBefore, hFirst⟩
      · exact .inl ⟨finding :: findings, by simp [hPart, hFindings]⟩
      · exact .inr ⟨part :: before, first, after, failure, rfl,
          List.forall_mem_cons.2 ⟨⟨finding, hPart⟩, hBefore⟩, hFirst⟩

/-- Files are gathered exactly if something can be made of every part. -/
theorem exists_result_gather_iff {parts : List α} :
    (∃ files, (gather examine parts).result = .ok files) ↔
      ∀ part ∈ parts, ∃ finding, examine part = .ok finding := by
  rcases exists_findings_or_first_error examine parts with
    ⟨findings, hFindings⟩ | ⟨before, part, after, failure, rfl, hBefore, hPart⟩
  · refine iff_of_true ⟨_, congrArg result (gather_of_ok hFindings)⟩ fun part hMem => ?_
    have hMapped := List.mem_map_of_mem (f := examine) hMem
    rw [hFindings] at hMapped
    obtain ⟨finding, -, hFinding⟩ := List.mem_map.1 hMapped
    exact ⟨finding, hFinding.symm⟩
  · refine iff_of_false ?_ fun hAll => ?_
    · rintro ⟨files, hFiles⟩
      cases hFiles.symm.trans (result_gather_of_error hBefore hPart)
    · obtain ⟨finding, hFinding⟩ := hAll part (by simp)
      cases hFinding.symm.trans hPart

/-- Parts of which nothing is made can be left out. -/
theorem gather_filter {parts : List α} (keep : α → Bool)
    (h : ∀ part ∈ parts, keep part = false → examine part = .ok .skipped) :
    gather examine (parts.filter keep) = gather examine parts := by
  induction parts with
  | nil => rfl
  | cons part parts ih =>
    obtain ⟨hPart, hParts⟩ := List.forall_mem_cons.1 h
    have hRest := ih hParts
    by_cases hKeep : keep part
    · rw [List.filter_cons_of_pos hKeep, gather, gather, hRest]
    · rw [List.filter_cons_of_neg hKeep, gather, hPart (by simpa using hKeep), hRest]

/-- Every file that is gathered is selected for some part. -/
theorem exists_examine_of_mem_gather {parts : List α} {files : List String} {path : String}
    (h : (gather examine parts).result = .ok files) (hPath : path ∈ files) :
    ∃ part ∈ parts, examine part = .ok (.selected path) := by
  rcases exists_findings_or_first_error examine parts with
    ⟨findings, hFindings⟩ | ⟨before, part, after, failure, rfl, hBefore, hPart⟩
  · rw [gather_of_ok hFindings] at h
    obtain rfl := Except.ok.inj h
    obtain ⟨finding, hFinding, hSelected⟩ := List.mem_filterMap.1 hPath
    have hMapped : .ok finding ∈ parts.map examine := hFindings ▸ List.mem_map_of_mem hFinding
    obtain ⟨part, hPart, hExamine⟩ := List.mem_map.1 hMapped
    obtain rfl : finding = .selected path := by
      cases finding <;> simp_all [Finding.path?]
    exact ⟨part, hPart, hExamine⟩
  · cases h.symm.trans (result_gather_of_error hBefore hPart)

theorem result_gather_eq_error_iff {parts : List α} {failure : Failure} :
    (gather examine parts).result = .error failure ↔
      ∃ before part after, parts = before ++ part :: after ∧
        (∀ other ∈ before, ∃ finding, examine other = .ok finding) ∧
        examine part = .error failure := by
  constructor
  · intro hError
    rcases exists_findings_or_first_error examine parts with
      ⟨findings, hFindings⟩ | ⟨before, part, after, first, rfl, hBefore, hPart⟩
    · rw [gather_of_ok hFindings] at hError
      cases hError
    · have hFirst : (gather examine (before ++ part :: after)).result = .error first :=
        result_gather_of_error hBefore hPart
      cases hFirst.symm.trans hError
      exact ⟨before, part, after, rfl, hBefore, hPart⟩
  · rintro ⟨before, part, after, rfl, hBefore, hPart⟩
    exact result_gather_of_error hBefore hPart

end Gather

/-! ## What is made of an entry -/

/-- Whether a location below the root of a project, which leads to `directory`, is that of a file
    that passes the tests, whatever its size. -/
structure IsCandidate (fs : FileSystem) (config : Config) (accepts : String → Bool) (root : String)
    (directory relative : Location) : Prop where
  file : ∃ node, fs.Leads directory relative node ∧ node.isRegular
  selects : config.selects (relativePath relative)
  accepts : accepts (pathBelow root relative)

/-- What a scan reads below the root of a project, which leads to `directory`. -/
structure IsSelected (fs : FileSystem) (config : Config) (accepts : String → Bool) (root : String)
    (directory relative : Location) : Prop where
  file : ∃ node size, fs.Leads directory relative node ∧ node.size? = some size ∧
    size ≤ config.sizeLimit.toNat
  selects : config.selects (relativePath relative)
  accepts : accepts (pathBelow root relative)

/-- Why a part of the walk below the root of a project, which leads to `directory`, ends a visit. -/
inductive Breaks (fs : FileSystem) (config : Config) (accepts : String → Bool) (root : String)
    (directory : Location) : Except FileSystem.WalkError (Location × Node) → Failure → Prop
  /-- It cannot be told what stands at a place. -/
  | untold (place : Location) (error : FileError) : Breaks fs config accepts root directory
      (.error ⟨some place, error⟩) (.walk error (walkPath root place))
  /-- Not even a name can be told. -/
  | nameless (error : FileError) : Breaks fs config accepts root directory
      (.error ⟨none, error⟩) (.file error root)
  /-- The size of a file that passes the tests cannot be told. -/
  | unsized {relative : Location} {node : Node} {error : FileError}
      (hCandidate : IsCandidate fs config accepts root directory relative)
      (hSize : fs.troubles.unsized? (directory ++ relative) = some error) :
    Breaks fs config accepts root directory (.ok (relative, node))
      (.walk error (pathBelow root relative))

/-- The size of an entry below a root, if it is a file that passes the tests. -/
def candidate? (config : Config) (accepts : String → Bool) (root : String) :
    Location × Node → Option Nat
  | (relative, node) =>
    if config.selects (relativePath relative) ∧ accepts (pathBelow root relative) then node.size?
    else none

/-- The location of an entry below a root, if it is a file to be read. -/
def select? (config : Config) (accepts : String → Bool) (root : String)
    (entry : Location × Node) : Option Location :=
  match candidate? config accepts root entry with
  | some size => if size ≤ config.sizeLimit.toNat then some entry.1 else none
  | none => none

/-- The warning about an entry below a root, if it is a file that is left out for its size. -/
def overLimit? (config : Config) (accepts : String → Bool) (root : String)
    (entry : Location × Node) : Option Warning :=
  match candidate? config accepts root entry with
  | some size =>
    if config.sizeLimit.toNat < size then
      some (.overLimit (relativePath entry.1) size config.sizeLimit.toNat)
    else none
  | none => none

/-- What is made of an entry below a root whose size can be told. -/
def finding (config : Config) (accepts : String → Bool) (root : String)
    (entry : Location × Node) : Finding :=
  match candidate? config accepts root entry with
  | some size =>
    if config.sizeLimit.toNat < size then
      .warned (.overLimit (relativePath entry.1) size config.sizeLimit.toNat)
    else .selected (pathBelow root entry.1)
  | none => .skipped

section

variable {fs : FileSystem} {config : Config} {accepts : String → Bool} {root : String}
  {directory : Location}

theorem candidate?_eq_some_iff {entry : Location × Node} {size : Nat} :
    candidate? config accepts root entry = some size ↔ entry.2.size? = some size ∧
      config.selects (relativePath entry.1) ∧ accepts (pathBelow root entry.1) := by
  simp only [candidate?, Option.ite_none_right_eq_some]
  exact and_comm

theorem select?_eq_some_iff {entry : Location × Node} {relative : Location} :
    select? config accepts root entry = some relative ↔ entry.1 = relative ∧
      ∃ size, entry.2.size? = some size ∧ config.selects (relativePath relative) ∧
        accepts (pathBelow root relative) ∧ size ≤ config.sizeLimit.toNat := by
  have hSelect : select? config accepts root entry = some relative ↔
      ∃ size, candidate? config accepts root entry = some size ∧
        size ≤ config.sizeLimit.toNat ∧ entry.1 = relative := by
    unfold select?
    cases candidate? config accepts root entry <;> simp
  rw [hSelect]
  simp only [candidate?_eq_some_iff]
  constructor
  · rintro ⟨size, ⟨hSize, hSelects, hAccepts⟩, hLimit, rfl⟩
    exact ⟨rfl, size, hSize, hSelects, hAccepts, hLimit⟩
  · rintro ⟨rfl, size, hSize, hSelects, hAccepts, hLimit⟩
    exact ⟨size, ⟨hSize, hSelects, hAccepts⟩, hLimit, rfl⟩

theorem path?_finding (entry : Location × Node) : (finding config accepts root entry).path? =
    (select? config accepts root entry).map (pathBelow root) := by
  unfold finding select?
  cases candidate? config accepts root entry with
  | none => rfl
  | some size =>
    by_cases hLimit : config.sizeLimit.toNat < size
    · simp [hLimit, Nat.not_le.2 hLimit, Finding.path?]
    · simp [hLimit, Nat.not_lt.1 hLimit, Finding.path?]

theorem warning?_finding (entry : Location × Node) :
    (finding config accepts root entry).warning? = overLimit? config accepts root entry := by
  unfold finding overLimit?
  cases candidate? config accepts root entry with
  | none => rfl
  | some size => by_cases hLimit : config.sizeLimit.toNat < size <;>
      simp [hLimit, Finding.warning?]

/-- An entry that the walk tells of is judged by its path below the root. -/
theorem examine_ok (hTree : fs.IsTree) {relative : Location} {node : Node}
    (hLeads : fs.Leads directory relative node) :
    examine fs config accepts root directory (.ok (relative, node)) =
      match candidate? config accepts root (relative, node),
        fs.troubles.unsized? (directory ++ relative) with
      | some _, some error => .error (.walk error (pathBelow root relative))
      | _, _ => .ok (finding config accepts root (relative, node)) := by
  simp only [examine, finding, candidate?]
  cases hSize : node.size? with
  | none => simp
  | some size =>
    simp only [walkPath_of_ne_nil root hLeads.nodeAt?.1,
      stripPrefix?_pathBelow (hLeads.isEntryName hTree), judge, ← relativePath.eq_def]
    by_cases hSelects : config.selects (relativePath relative) <;>
      by_cases hAccepts : accepts (pathBelow root relative) <;>
      cases hUnsized : fs.troubles.unsized? (directory ++ relative) <;>
      simp [hSelects, hAccepts, apply_ite]

/-- Where nothing goes wrong, something can be made of all that the walk tells of. -/
theorem exists_examine_ok_of_troubles (hTroubles : fs.troubles = {}) (entry : Location × Node) :
    ∃ finding, examine fs config accepts root directory (.ok entry) = .ok finding := by
  simp only [examine, judge, hTroubles]
  repeat' split
  all_goals exact ⟨_, rfl⟩

/-- What is selected passes the test for paths. -/
theorem accepts_of_examine {part : Except FileSystem.WalkError (Location × Node)} {path : String}
    (h : examine fs config accepts root directory part = .ok (.selected path)) : accepts path := by
  obtain ⟨_ | place, error⟩ | ⟨place, node⟩ := part
  · cases h
  · cases h
  · simp only [examine, judge] at h
    repeat' split at h
    all_goals simp_all

/-- A file that passes the tests ends a visit if its size cannot be told; nothing else that the walk
    tells of does. -/
theorem examine_ok_eq_error_iff (hTree : fs.IsTree) {relative : Location} {node : Node}
    (hLeads : fs.Leads directory relative node) {failure : Failure} :
    examine fs config accepts root directory (.ok (relative, node)) = .error failure ↔
      Breaks fs config accepts root directory (.ok (relative, node)) failure := by
  rw [examine_ok hTree hLeads]
  constructor
  · intro hError
    split at hError
    · next size error hCandidate hUnsized =>
      cases hError
      obtain ⟨hSize, hSelects, hAccepts⟩ := candidate?_eq_some_iff.1 hCandidate
      have hRegular : node.isRegular := by simp [Node.isRegular, hSize]
      exact .unsized ⟨⟨node, hLeads, hRegular⟩, hSelects, hAccepts⟩ hUnsized
    · cases hError
  · rintro (_ | _ | ⟨⟨⟨node', hLeads', hRegular⟩, hSelects, hAccepts⟩, hUnsized⟩)
    obtain rfl := Option.some.inj (hLeads.nodeAt?.2.symm.trans hLeads'.nodeAt?.2)
    obtain ⟨size, hSize⟩ := Option.isSome_iff_exists.1 hRegular
    have hCandidate : candidate? config accepts root (relative, node) = some size :=
      candidate?_eq_some_iff.2 ⟨hSize, hSelects, hAccepts⟩
    simp only [hCandidate, hUnsized]

/-- What a visit fails on is what ends it. -/
theorem examine_eq_error_iff (hTree : fs.IsTree)
    {part : Except FileSystem.WalkError (Location × Node)}
    (hPart : part ∈ fs.walkBelow directory []) {failure : Failure} :
    examine fs config accepts root directory part = .error failure ↔
      Breaks fs config accepts root directory part failure := by
  obtain ⟨_ | place, error⟩ | ⟨relative, node⟩ := part
  · constructor
    · rintro ⟨⟩
      exact .nameless error
    · rintro ⟨⟩
      rfl
  · constructor
    · rintro ⟨⟩
      exact .untold place error
    · rintro ⟨⟩
      rfl
  · exact examine_ok_eq_error_iff hTree
      (FileSystem.leads_of_mem_toldBelow (FileSystem.mem_toldBelow_iff.2 hPart))

/-! ## All files -/

/-- Whether all can be told that a visit below a directory asks for: what lies there, and the size
    of the files that pass the tests. -/
structure IsTold (fs : FileSystem) (config : Config) (accepts : String → Bool) (root : String)
    (directory : Location) : Prop where
  listable : fs.IsListable directory
  sized {relative : Location} : IsCandidate fs config accepts root directory relative →
    fs.troubles.unsized? (directory ++ relative) = none

theorem isTold_of_troubles (hTroubles : fs.troubles = {}) :
    IsTold fs config accepts root directory :=
  ⟨FileSystem.isListable_of_troubles hTroubles directory, fun _ => by rw [hTroubles]⟩

/-- All can be told exactly if no part of the walk ends a visit. -/
theorem isTold_iff : IsTold fs config accepts root directory ↔
    ∀ part ∈ fs.walkBelow directory [], ∀ failure,
      ¬ Breaks fs config accepts root directory part failure := by
  have hListable : fs.IsListable directory ↔
      ∀ trouble, .error trouble ∉ fs.walkBelow directory [] := by
    rw [← FileSystem.isListable_iff, List.append_nil]
  constructor
  · rintro ⟨hListed, hSized⟩ part hPart failure (⟨place, error⟩ | error | ⟨hCandidate, hUnsized⟩)
    · exact hListable.1 hListed _ hPart
    · exact hListable.1 hListed _ hPart
    · cases (hSized hCandidate).symm.trans hUnsized
  · intro hNone
    have hListed : fs.IsListable directory := by
      refine hListable.2 ?_
      rintro ⟨_ | place, error⟩ hMem
      · exact hNone _ hMem _ (.nameless error)
      · exact hNone _ hMem _ (.untold place error)
    refine ⟨hListed, fun {relative} hCandidate => ?_⟩
    obtain ⟨node, hLeads, -⟩ := hCandidate.file
    have hMem := FileSystem.mem_toldBelow_iff.1 (hListed.mem_toldBelow_iff.2 hLeads)
    rw [Option.eq_none_iff_forall_ne_some]
    exact fun error hUnsized => hNone _ hMem _ (.unsized hCandidate hUnsized)

/-- If all can be told, a visit gathers the files and the warnings from what the walk comes to. -/
theorem ofProject_of_isTold (hTree : fs.IsTree) (hRoot : fs.directory? root = some directory)
    (h : IsTold fs config accepts root directory) : ofProject fs config accepts root =
      ⟨(fs.toldBelow directory).filterMap (overLimit? config accepts root),
        .ok (((fs.toldBelow directory).filterMap (select? config accepts root)).map
          (pathBelow root))⟩ := by
  have hExamine : (fs.walkBelow directory []).map (examine fs config accepts root directory) =
      ((fs.toldBelow directory).map (finding config accepts root)).map .ok := by
    rw [h.listable.walkBelow_eq, List.map_map, List.map_map]
    refine List.map_congr_left fun ⟨relative, node⟩ hMem => ?_
    have hLeads := FileSystem.leads_of_mem_toldBelow hMem
    rw [Function.comp_apply, Function.comp_apply, examine_ok hTree hLeads]
    split
    · next size error hCandidate hUnsized =>
      obtain ⟨hSize, hSelects, hAccepts⟩ := candidate?_eq_some_iff.1 hCandidate
      have hRegular : node.isRegular := by simp [Node.isRegular, hSize]
      cases (h.sized ⟨⟨node, hLeads, hRegular⟩, hSelects, hAccepts⟩).symm.trans hUnsized
    · rfl
  rw [ofProject, hRoot]
  simp only [gather_of_ok hExamine, List.filterMap_map, List.map_filterMap]
  congr 1
  · exact List.filterMap_congr fun entry _ => warning?_finding entry
  · exact congrArg Except.ok (List.filterMap_congr fun entry _ => path?_finding entry)

/-- All files that a visit finds pass the test for paths. -/
theorem accepts_of_mem_ofProject {files : List String} {path : String}
    (h : (ofProject fs config accepts root).result = .ok files) (hPath : path ∈ files) :
    accepts path := by
  unfold ofProject at h
  split at h
  · cases h
  · obtain ⟨part, -, hPart⟩ := exists_examine_of_mem_gather h hPath
    exact accepts_of_examine hPart

/-- A visit below a directory finds its files exactly if all can be told. -/
theorem exists_result_ofProject_iff (hTree : fs.IsTree)
    (hRoot : fs.directory? root = some directory) :
    (∃ files, (ofProject fs config accepts root).result = .ok files) ↔
      IsTold fs config accepts root directory := by
  rw [ofProject, hRoot, exists_result_gather_iff, isTold_iff]
  refine forall₂_congr fun part hPart => ?_
  simp only [← examine_eq_error_iff hTree hPart]
  cases examine fs config accepts root directory part <;> simp

/-- The first part of the walk that ends a visit is why there are no files. -/
theorem result_ofProject_eq_error_iff (hTree : fs.IsTree)
    (hRoot : fs.directory? root = some directory) {failure : Failure} :
    (ofProject fs config accepts root).result = .error failure ↔
      ∃ before part after, fs.walkBelow directory [] = before ++ part :: after ∧
        (∀ other ∈ before, ∀ cause, ¬ Breaks fs config accepts root directory other cause) ∧
        Breaks fs config accepts root directory part failure := by
  rw [ofProject, hRoot, result_gather_eq_error_iff]
  refine exists_congr fun before => exists_congr fun part => exists_congr fun after =>
    and_congr_right fun hParts => ?_
  have hMem {other : Except FileSystem.WalkError (Location × Node)}
      (hOther : other ∈ before ++ part :: after) : other ∈ fs.walkBelow directory [] :=
    hParts ▸ hOther
  rw [examine_eq_error_iff hTree (hMem (by simp))]
  refine and_congr_left fun _ => forall₂_congr fun other hOther => ?_
  simp only [← examine_eq_error_iff hTree (hMem (List.mem_append_left _ hOther))]
  cases examine fs config accepts root directory other <;> simp

theorem mem_filterMap_select?_iff (hListable : fs.IsListable directory) {relative : Location} :
    relative ∈ (fs.toldBelow directory).filterMap (select? config accepts root) ↔
      IsSelected fs config accepts root directory relative := by
  simp only [List.mem_filterMap, select?_eq_some_iff]
  constructor
  · rintro ⟨⟨relative, node⟩, hMem, rfl, size, hSize, hSelects, hAccepts, hLimit⟩
    exact ⟨⟨node, size, hListable.mem_toldBelow_iff.1 hMem, hSize, hLimit⟩, hSelects, hAccepts⟩
  · rintro ⟨⟨node, size, hLeads, hSize, hLimit⟩, hSelects, hAccepts⟩
    exact ⟨(relative, node), hListable.mem_toldBelow_iff.2 hLeads, rfl, size, hSize, hSelects,
      hAccepts, hLimit⟩

/-- The files that a visit finds are those to be read. -/
theorem mem_result_ofProject_iff (hTree : fs.IsTree) (hRoot : fs.directory? root = some directory)
    {files : List String} (h : (ofProject fs config accepts root).result = .ok files)
    {path : String} : path ∈ files ↔ ∃ relative, path = pathBelow root relative ∧
      IsSelected fs config accepts root directory relative := by
  have hTold := (exists_result_ofProject_iff hTree hRoot).1 ⟨files, h⟩
  rw [ofProject_of_isTold hTree hRoot hTold] at h
  rw [← Except.ok.inj h, List.mem_map]
  simp only [mem_filterMap_select?_iff hTold.listable, and_comm, eq_comm]

theorem pairwise_filterMap_select? (fs : FileSystem) (directory : Location) :
    ((fs.toldBelow directory).filterMap (select? config accepts root)).Pairwise
      fun a b => compare a b = .lt := by
  refine List.pairwise_filterMap.2 ((fs.pairwise_toldBelow directory).imp ?_)
  intro a b hLess relative hRelative other hOther
  obtain ⟨rfl, -⟩ := select?_eq_some_iff.1 hRelative
  obtain ⟨rfl, -⟩ := select?_eq_some_iff.1 hOther
  exact hLess

/-- Locations in order have paths of their own. -/
theorem nodup_map_pathBelow {relatives : List Location}
    (hNames : ∀ relative ∈ relatives, ∀ name ∈ relative, FileSystem.IsEntryName name)
    (hOrder : relatives.Pairwise fun a b => compare a b = .lt) :
    (relatives.map (pathBelow root)).Nodup := by
  refine List.pairwise_map.2 (hOrder.imp_of_mem ?_)
  intro relative other hRelative hOther hLess hSame
  obtain rfl := pathBelow_inj (hNames relative hRelative) (hNames other hOther) hSame
  have hSelf : compare relative relative = .eq := Std.compare_self
  rw [hSelf] at hLess
  cases hLess

end

/-- A scan reads exactly the files it is to read, each once, in the order of their locations, if all
    that it asks for can be told, as it can where nothing goes wrong. If not, the first part of the
    walk that cannot be told is the error, and a root that leads to no directory is one. -/
theorem ofProject_spec {fs : FileSystem} (hTree : fs.IsTree) (config : Config)
    (accepts : String → Bool) (root : String) :
    (fs.directory? root = none →
      (ofProject fs config accepts root).result = .error (.noProject root)) ∧
    ∀ directory, fs.directory? root = some directory →
      -- when there are files
      (((∃ files, (ofProject fs config accepts root).result = .ok files) ↔
          IsTold fs config accepts root directory) ∧
        (fs.troubles = {} → ∃ files, (ofProject fs config accepts root).result = .ok files)) ∧
      -- which files, and in which order
      (∀ files, (ofProject fs config accepts root).result = .ok files →
        (∀ path, path ∈ files ↔ ∃ relative, path = pathBelow root relative ∧
          IsSelected fs config accepts root directory relative) ∧
        files.Nodup ∧
        ∃ relatives : List Location, files = relatives.map (pathBelow root) ∧
          (∀ relative ∈ relatives, IsSelected fs config accepts root directory relative) ∧
          relatives.Pairwise (List.Lex fun a b => Text.bytes a < Text.bytes b)) ∧
      -- why there are none
      ∀ failure, (ofProject fs config accepts root).result = .error failure ↔
        ∃ before part after, fs.walkBelow directory [] = before ++ part :: after ∧
          (∀ other ∈ before, ∀ cause, ¬ Breaks fs config accepts root directory other cause) ∧
          Breaks fs config accepts root directory part failure := by
  refine ⟨fun hNone => by rw [ofProject, hNone], fun directory hRoot => ?_⟩
  have hExists : (∃ files, (ofProject fs config accepts root).result = .ok files) ↔
      IsTold fs config accepts root directory := exists_result_ofProject_iff hTree hRoot
  refine ⟨⟨hExists, fun hTroubles => hExists.2 (isTold_of_troubles hTroubles)⟩, ?_,
    fun failure => result_ofProject_eq_error_iff hTree hRoot⟩
  intro files hFiles
  have hTold := hExists.1 ⟨files, hFiles⟩
  let relatives := (fs.toldBelow directory).filterMap (select? config accepts root)
  obtain rfl : relatives.map (pathBelow root) = files := by
    have hSame := hFiles
    rw [ofProject_of_isTold hTree hRoot hTold] at hSame
    exact Except.ok.inj hSame
  have hMem {relative : Location} : relative ∈ relatives ↔
      IsSelected fs config accepts root directory relative :=
    mem_filterMap_select?_iff hTold.listable
  have hOrder : relatives.Pairwise fun a b => compare a b = .lt :=
    pairwise_filterMap_select? fs directory
  refine ⟨fun path => mem_result_ofProject_iff hTree hRoot hFiles, ?_, relatives, rfl,
    fun _ => hMem.1, hOrder.imp Text.lex_bytes_of_compare⟩
  · refine nodup_map_pathBelow (fun relative hRelative => ?_) hOrder
    obtain ⟨node, size, hLeads, -⟩ := (hMem.1 hRelative).file
    exact hLeads.isEntryName hTree

section Sample

/-- Files in two directories, one of them too large, and a link that leads back up. -/
private def nestedFiles : FileSystem :=
  (((((FileSystem.bare.put ["p"] .directory).put ["p", "a"] .directory).put ["p", "a", "x.java"]
    (.file "1".toUTF8)).put ["p", "a.java"] (.file "22".toUTF8)).put ["p", "loop"]
    (.link "/p")).put ["p", "z.java"] (.file "333".toUTF8)

private theorem isTree_nestedFiles : nestedFiles.IsTree :=
  (((((FileSystem.isTree_bare.put [] (by decide) rfl (by decide +kernel) .directory).put
    ["p"] (by decide) (by decide +kernel) (by decide +kernel) .directory).put
    ["p", "a"] (by decide) (by decide +kernel) (by decide +kernel) (.file "1".toUTF8)).put
    ["p"] (by decide) (by decide +kernel) (by decide +kernel) (.file "22".toUTF8)).put
    ["p"] (by decide) (by decide +kernel) (by decide +kernel) (.link "/p")).put
    ["p"] (by decide) (by decide +kernel) (by decide +kernel) (.file "333".toUTF8)

/-- The file in the directory comes first, although its path is the larger text. -/
theorem ofProject_spec_nested :
    nestedFiles.directory? "/p" = some ["p"] ∧
    (ofProject nestedFiles { sizeLimit := 2 } (fun _ => true) "/p").result =
      .ok ["/p/a/x.java", "/p/a.java"] ∧
    "/p/a.java" < "/p/a/x.java" ∧
    (∀ path, path ∈ ["/p/a/x.java", "/p/a.java"] ↔ ∃ relative, path = pathBelow "/p" relative ∧
      IsSelected nestedFiles { sizeLimit := 2 } (fun _ => true) "/p" ["p"] relative) := by
  have hPath : FileSystem.IsTopPath "/p" "p" := by decide
  have hNode : nestedFiles.nodeAt? ["p"] = some .directory := by decide +kernel
  have hDirectory : nestedFiles.directory? "/p" = some ["p"] := by
    have hPlace : nestedFiles.resolve true "/p" = .ok ⟨["p"], nestedFiles.nodeAt? ["p"]⟩ :=
      hPath.resolve (by simp [hNode])
    rw [hNode] at hPlace
    simp [FileSystem.directory?, FileSystem.find_eq_ok_iff.2 hPlace]
  have hTold : IsTold nestedFiles { sizeLimit := 2 } (fun _ => true) "/p" ["p"] :=
    isTold_of_troubles rfl
  have hFiles : (ofProject nestedFiles { sizeLimit := 2 } (fun _ => true) "/p").result =
      .ok ["/p/a/x.java", "/p/a.java"] := by
    rw [ofProject_of_isTold isTree_nestedFiles hDirectory hTold,
      hTold.listable.toldBelow_eq isTree_nestedFiles]
    decide +kernel
  have hSpec := ofProject_spec isTree_nestedFiles { sizeLimit := 2 } (fun _ => true) "/p"
  exact ⟨hDirectory, hFiles, by decide, ((hSpec.2 _ hDirectory).2.1 _ hFiles).1⟩

end Sample

end Selection

end JavaImports
