-- SUMMARY: What a scan does not see.
import JavaImports.Proofs.FileSystem.Contents
import JavaImports.Proofs.PathBelow
import JavaImports.Proofs.Scan
import JavaImports.Proofs.Selection

/-! # Scanning among files that changed

A scan sees the files that a project accepts and nothing else below its root. Files that are written
or removed elsewhere leave the selection as it is, and so the import map and the warnings. -/

namespace JavaImports

/-! ## Walks and paths -/

namespace FileSystem

section Walks

variable {fs after : FileSystem} {touched : Location → Prop} {directory : Location}

/-- A way leads to the same node in both file systems if that is not touched. -/
theorem AgreeBut.leads (h : fs.AgreeBut after touched) {relative : Location} {node : Node}
    (hOther : ¬ touched (directory ++ relative)) (hLeads : fs.Leads directory relative node) :
    after.Leads directory relative node := by
  induction hLeads with
  | entry hEntry => exact .entry (by rw [h.node hOther, hEntry])
  | enter hDirectory _ ih =>
    exact .enter (h.nodeAt?_eq_some hDirectory nofun) (ih (by simpa using hOther))

theorem AgreeBut.leads_iff (h : fs.AgreeBut after touched) {relative : Location} {node : Node}
    (hOther : ¬ touched (directory ++ relative)) :
    after.Leads directory relative node ↔ fs.Leads directory relative node :=
  ⟨h.symm.leads hOther, h.leads hOther⟩

/-- The directories below a directory are the same, so if everything can be told in one, it can be
    told in the other. -/
theorem AgreeBut.isListable (h : fs.AgreeBut after touched) (hListable : fs.IsListable directory) :
    after.IsListable directory := by
  have hWay {way : Location} (hThere : way = [] ∨ after.Leads directory way .directory) :
      way = [] ∨ fs.Leads directory way .directory := by
    refine hThere.imp_right fun hLeads => h.symm.leads (fun hTouched => ?_) hLeads
    exact (h.isFree_after hTouched).ne hLeads.nodeAt?.2 nofun rfl
  constructor <;> intro way hThere <;> rw [h.troubles]
  · exact hListable.listed (hWay hThere)
  · exact hListable.told (hWay hThere)

/-- A walk comes to the same entries in both, but for those that are left out at touched
    locations. -/
theorem AgreeBut.filter_toldBelow (h : fs.AgreeBut after touched)
    (hListable : fs.IsListable directory) (keep : Location × Node → Bool)
    (hKeep : ∀ entry, touched (directory ++ entry.1) → ¬ keep entry) :
    (after.toldBelow directory).filter keep = (fs.toldBelow directory).filter keep := by
  refine SortedMap.StrictlySorted.eq_of_mem_iff ((after.pairwise_toldBelow directory).filter keep)
    ((fs.pairwise_toldBelow directory).filter keep) fun ⟨file, node⟩ => ?_
  simp only [List.mem_filter, (h.isListable hListable).mem_toldBelow_iff,
    hListable.mem_toldBelow_iff]
  exact and_congr_left fun hEntry => h.leads_iff fun hTouched => hKeep _ hTouched hEntry

end Walks

theorem IsTree.location?_pathBelow {fs : FileSystem} (hTree : fs.IsTree) {root : String}
    {here file location : Location} {node : Node} (hRoot : fs.directory? root = some here)
    (hFile : fs.Leads here file node) (hRegular : node.isRegular)
    (h : fs.location? (pathBelow root file) = some location) : location = here ++ file := by
  rw [location?, hTree.resolve_pathBelow hRoot hFile hRegular] at h
  split at h
  · cases h
  · split at h
    · cases h
    · exact (Option.some.inj h).symm

end FileSystem

/-! ## Scans -/

/-- Files with the same units have the same scan. -/
theorem Scan.ofFiles_congr {fs after : FileSystem} {languages : Languages} {filter : SymbolFilter}
    {paths : List String} (h : ∀ path ∈ paths, unit? after languages path = unit? fs languages path)
    (imports : ImportMap) :
    ofFiles after languages filter imports paths = ofFiles fs languages filter imports paths := by
  induction paths generalizing imports with
  | nil => rfl
  | cons path paths ih =>
    obtain ⟨hPath, hPaths⟩ := List.forall_mem_cons.1 h
    simp only [ofFiles, hPath, ih hPaths]

namespace Project

variable {project : Project} {fs after : FileSystem} {touched : Location → Prop} {here : Location}

/-- The locations below the root of a project whose files are scanned, whatever they hold. -/
def Accepts (project : Project) (file : Location) : Prop :=
  ((Path.stripPrefix? project.root (walkPath project.root file)).any fun relative =>
      project.config.selects (withSlashes relative)) ∧
    (project.languages.forFile? (walkPath project.root file)).isSome

instance (project : Project) (file : Location) : Decidable (project.Accepts file) :=
  inferInstanceAs (Decidable (_ ∧ _))

/-- What is accepted at a location with proper names goes by these names. -/
theorem accepts_iff {file : Location} (hNonempty : file ≠ [])
    (hNames : ∀ name ∈ file, FileSystem.IsEntryName name) : project.Accepts file ↔
      project.config.selects (relativePath file) ∧
        (project.languages.forFile? (pathBelow project.root file)).isSome := by
  simp [Accepts, walkPath_of_ne_nil _ hNonempty, stripPrefix?_pathBelow hNames, relativePath]

/-- A visit makes nothing of what is not accepted. -/
theorem examine_of_not_accepts {file : Location} {node : Node} (h : ¬ project.Accepts file) :
    project.examine fs here (.ok (file, node)) = .ok .skipped := by
  simp only [examine, Selection.examine, Selection.judge]
  cases node.size? with
  | none => rfl
  | some size =>
    cases hStrip : Path.stripPrefix? project.root (walkPath project.root file) with
    | none => rfl
    | some relative =>
      have hRefused : ¬ (project.config.selects (withSlashes relative) = true ∧
          (project.languages.forFile? (walkPath project.root file)).isSome = true) := by
        simpa only [Accepts, hStrip, Option.any_some] using h
      rcases not_and_or.1 hRefused with hRefused | hRefused <;> simp [hRefused]

/-- A visit that finds its files finds the same ones, with the same warnings, wherever files were
    changed that are not accepted. -/
theorem visit_of_agreeBut (h : fs.AgreeBut after touched)
    (hRoot : fs.directory? project.root = some here)
    (hOther : ∀ file, touched (here ++ file) → ¬ project.Accepts file) {files : List String}
    (hVisits : project.Visits fs files) : project.visit after = project.visit fs := by
  have hRootAfter : after.directory? project.root = some here := by rw [h.directory?_eq, hRoot]
  have hListable := hVisits.isListable hRoot
  have hExamine : project.examine after here = project.examine fs here := by
    funext part
    simp only [examine, Selection.examine, h.troubles]
  -- what is not accepted is skipped, and the rest is the same
  have hKept (entries : List (Location × Node)) :
      Selection.gather (project.examine fs here) (entries.map .ok) =
        Selection.gather (project.examine fs here)
          ((entries.filter fun entry => project.Accepts entry.1).map .ok) := by
    let keep (found : Except FileSystem.WalkError (Location × Node)) : Bool :=
      found.toOption.all fun entry => project.Accepts entry.1
    rw [← Selection.gather_filter keep, List.filter_map]
    · rfl
    · refine List.forall_mem_map.2 fun entry _ hEntry => examine_of_not_accepts ?_
      simpa [keep, Except.toOption] using hEntry
  rw [visit_eq_gather hRootAfter, visit_eq_gather hRoot, hExamine, hListable.walkBelow_eq,
    (h.isListable hListable).walkBelow_eq, hKept,
    h.filter_toldBelow hListable _ fun entry hTouched => by simpa using hOther _ hTouched, ← hKept]

/-- A scan that finds an import map finds the same one, with the same warnings, wherever files were
    changed that are not accepted. -/
theorem scan_of_agreeBut (hTree : fs.IsTree) (h : fs.AgreeBut after touched)
    (hOther : ∀ here file, fs.directory? project.root = some here → touched (here ++ file) →
      ¬ project.Accepts file) {pattern : String} {imports : ImportMap}
    (hResult : (project.scan fs pattern).result = .ok imports) :
    project.scan after pattern = project.scan fs pattern := by
  cases hFilter : SymbolFilter.ofText pattern with
  | error error => simp [scan_of_ofText_eq_error hFilter] at hResult
  | ok filter =>
    obtain ⟨files, hVisits, hDeclares⟩ := (exists_result_scan_iff hFilter).1 ⟨imports, hResult⟩
    obtain ⟨here, hRoot⟩ := hVisits.exists_directory?
    have hVisit := visit_of_agreeBut h hRoot (hOther here · hRoot) hVisits
    have hVisitsAfter : project.Visits after files := by rw [Visits, hVisit, hVisits]
    rw [scan_of_visits hFilter hVisits, scan_of_visits hFilter hVisitsAfter, hVisit,
      Scan.ofFiles_congr]
    intro path hPath
    obtain ⟨declarations, hBefore⟩ := hDeclares path hPath
    rw [Scan.unit?_of_declares hBefore]
    obtain ⟨file, rfl, hSelected⟩ :=
      (Selection.mem_result_ofProject_iff hTree hRoot hVisits).1 hPath
    obtain ⟨node, size, hLeads, hSize, -⟩ := hSelected.file
    have hRegular : node.isRegular := by simp [Node.isRegular, hSize]
    have hAccepts : project.Accepts file :=
      (accepts_iff hLeads.nodeAt?.1 (hLeads.isEntryName hTree)).2
        ⟨hSelected.selects, hSelected.accepts⟩
    have hSame : fs.SameBytes after (pathBelow project.root file) := by
      refine h.sameBytes fun location hLocation hTouched => ?_
      obtain rfl := hTree.location?_pathBelow hRoot hLeads hRegular hLocation
      exact hOther here file hRoot hTouched hAccepts
    obtain ⟨language, source, hLanguage, hSource, hRead⟩ := hBefore
    exact Scan.unit?_of_declares ⟨language, source, hLanguage, hSame.readText hSource, hRead⟩

end Project

end JavaImports
