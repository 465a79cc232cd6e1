-- SUMMARY: A project carries nothing from one build to the next.
import JavaImports.Proofs.Scan
import JavaImports.Proofs.SymbolFilter

/-! # Builds one after another

A project is built again and again while its files change. What it shows after a build is what this
build gave, or nothing if it failed; earlier builds leave no trace, whether they failed or not. The
reason is the order of the stages of a build: the project is cleared before anything can fail, what
is left of it then is what no build writes, and imports are kept only when nothing can fail any
more. -/

namespace JavaImports.Project

/-! ## Calls -/

/-- A call of one of the functions that build a project. -/
inductive Call where
  | build (pattern : String)
  | all
  | allWith (pattern : String)
deriving DecidableEq, Repr

namespace Call

/-- The pattern whose matches a call keeps. -/
def pattern : Call → String
  | build pattern => pattern
  | all => Config.keepAll
  | allWith pattern => pattern

/-- The project after a call, and what came of it. -/
def perform (project : Project) (fs : FileSystem) : Call → Project × Scan
  | build pattern => project.build fs pattern
  | all => project.buildAll fs
  | allWith pattern => project.build fs pattern

end Call

/-- A project as it was when it was made. -/
def fresh (project : Project) : Project :=
  (withConfig project.root project.config).withLanguages project.languages

/-- Whether two projects have the same root, configuration and languages. -/
structure Agrees (a b : Project) : Prop where
  root : a.root = b.root
  config : a.config = b.config
  languages : a.languages = b.languages

theorem Agrees.refl (project : Project) : project.Agrees project :=
  ⟨rfl, rfl, rfl⟩

theorem Agrees.trans {a b c : Project} (h : a.Agrees b) (hNext : b.Agrees c) : a.Agrees c :=
  ⟨h.root.trans hNext.root, h.config.trans hNext.config, h.languages.trans hNext.languages⟩

theorem agrees_fresh (project : Project) : project.Agrees project.fresh :=
  ⟨rfl, rfl, rfl⟩

variable {a b project : Project} {fs : FileSystem}

/-- Once they are cleared, such projects are the same. -/
theorem Agrees.clear_eq (h : a.Agrees b) : a.clear = b.clear := by
  rw [clear, clear, h.root, h.config, h.languages]

/-- A build starts from what is left of a project when it is cleared. -/
theorem build_clear (project : Project) (fs : FileSystem) (pattern : String) :
    project.clear.build fs pattern = project.build fs pattern :=
  rfl

/-- So nothing else of a project tells in a build. -/
theorem Agrees.build_eq (h : a.Agrees b) (fs : FileSystem) (pattern : String) :
    a.build fs pattern = b.build fs pattern := by
  rw [← a.build_clear, h.clear_eq, b.build_clear]

/-- A build writes nothing but the imports. -/
theorem agrees_build (project : Project) (fs : FileSystem) (pattern : String) :
    (project.build fs pattern).1.Agrees project := by
  have hBuild := project.build_eq_of_result fs pattern
  cases hResult : (project.build fs pattern).2.result with
  | ok imports => exact hBuild.1 imports hResult ▸ ⟨rfl, rfl, rfl⟩
  | error failure => exact hBuild.2 failure hResult ▸ ⟨rfl, rfl, rfl⟩

namespace Call

theorem perform_eq (project : Project) (fs : FileSystem) (call : Call) :
    call.perform project fs = project.build fs call.pattern := by
  cases call <;> rfl

theorem agrees_perform (project : Project) (fs : FileSystem) (call : Call) :
    (call.perform project fs).1.Agrees project := by
  rw [perform_eq]
  exact project.agrees_build fs call.pattern

/-- What a call makes of a project, and what comes of it, does not depend on what the project
    holds. -/
theorem perform_eq_of_agrees (h : a.Agrees b) (fs : FileSystem) (call : Call) :
    call.perform a fs = call.perform b fs := by
  rw [perform_eq, perform_eq]
  exact h.build_eq fs call.pattern

/-- After a call a project holds the imports that came of it. -/
theorem imports_perform_of_ok {project : Project} {fs : FileSystem} {call : Call}
    {imports : ImportMap} (h : (call.perform project fs).2.result = .ok imports) :
    (call.perform project fs).1.imports = imports := by
  rw [perform_eq] at h ⊢
  rw [(project.build_eq_of_result fs call.pattern).1 imports h]

/-- After a call that failed a project holds no imports. -/
theorem imports_perform_of_error {project : Project} {fs : FileSystem} {call : Call}
    {failure : Failure} (h : (call.perform project fs).2.result = .error failure) :
    (call.perform project fs).1.imports = ImportMap.empty := by
  rw [perform_eq] at h ⊢
  rw [(project.build_eq_of_result fs call.pattern).2 failure h, clear]

end Call

/-! ## Where a build stops -/

/-- The places at which a build can stop, and what it reports there. -/
inductive Stops (project : Project) (fs : FileSystem) (pattern : String) : Failure → Prop where
  /-- The pattern makes no filter. -/
  | atPattern {error : PatternError} (hError : SymbolFilter.ofText pattern = .error error) :
    Stops project fs pattern (.badPattern error pattern)
  /-- The root is no directory. -/
  | atRoot {filter : SymbolFilter} (hFilter : SymbolFilter.ofText pattern = .ok filter)
    (hRoot : fs.directory? project.root = none) : Stops project fs pattern (.noProject project.root)
  /-- Of this part of the walk it cannot be told what is there or, if it is a file to be read, how
      large; something could be made of all parts before it. -/
  | atEntry {filter : SymbolFilter} {directory : Location}
    {before after : List (Except FileSystem.WalkError (Location × Node))}
    {part : Except FileSystem.WalkError (Location × Node)} {failure : Failure}
    (hFilter : SymbolFilter.ofText pattern = .ok filter)
    (hRoot : fs.directory? project.root = some directory)
    (hWalk : fs.walkBelow directory [] = before ++ part :: after)
    (hBefore : ∀ other ∈ before, ∃ finding, project.examine fs directory other = .ok finding)
    (hPart : project.examine fs directory part = .error failure) : Stops project fs pattern failure
  /-- All files before this one could be read. -/
  | atFile {filter : SymbolFilter} {before after : List String} {path : String} {failure : Failure}
    (hFilter : SymbolFilter.ofText pattern = .ok filter)
    (hVisits : project.Visits fs (before ++ path :: after))
    (hBefore : ∀ other ∈ before, ∃ declarations,
      Scan.Declares fs project.languages other declarations)
    (hFails : Scan.FailsWith fs project.languages path failure) : Stops project fs pattern failure

theorem result_scan_eq_error_iff_stops {pattern : String} {failure : Failure} :
    (project.scan fs pattern).result = .error failure ↔ project.Stops fs pattern failure := by
  cases hText : SymbolFilter.ofText pattern with
  | error error =>
    rw [scan_of_ofText_eq_error hText]
    constructor
    · intro hFailure
      exact Except.error.inj hFailure ▸ .atPattern hText
    · intro hStops
      cases hStops with
      | atPattern hError => rw [Except.error.inj (hText.symm.trans hError)]
      | atRoot hFilter => cases hText.symm.trans hFilter
      | atEntry hFilter => cases hText.symm.trans hFilter
      | atFile hFilter => cases hText.symm.trans hFilter
  | ok filter =>
    rw [result_scan_eq_error_iff hText, result_visit_eq_error_iff]
    constructor
    · rintro ((⟨hRoot, rfl⟩ | ⟨directory, before, part, after, hRoot, hWalk, hBefore, hPart⟩) |
        ⟨before, path, after, hVisits, hBefore, hFails⟩)
      · exact .atRoot hText hRoot
      · exact .atEntry hText hRoot hWalk hBefore hPart
      · exact .atFile hText hVisits hBefore hFails
    · intro hStops
      cases hStops with
      | atPattern hError => cases hText.symm.trans hError
      | atRoot _ hRoot => exact .inl (.inl ⟨hRoot, rfl⟩)
      | atEntry _ hRoot hWalk hBefore hPart =>
        exact .inl (.inr ⟨_, _, _, _, hRoot, hWalk, hBefore, hPart⟩)
      | atFile _ hVisits hBefore hFails => exact .inr ⟨_, _, _, hVisits, hBefore, hFails⟩

/-! ## Runs -/

/-- What can happen to a project: it is built, or its files change in any way. -/
inductive Event where
  | call (call : Call)
  | change (files : FileSystem)

/-- A project among the files there are. -/
structure State where
  files : FileSystem
  project : Project

namespace State

/-- The state after an event. -/
def step (state : State) : Event → State
  | .call call => { state with project := (call.perform state.project state.files).1 }
  | .change files => { state with files }

/-- The state after a sequence of events. -/
def run : State → List Event → State
  | state, [] => state
  | state, event :: events => run (state.step event) events

variable {state : State} {events : List Event}

theorem run_append (state : State) (events more : List Event) :
    state.run (events ++ more) = (state.run events).run more := by
  induction events generalizing state with
  | nil => rfl
  | cons event events ih => exact ih (state.step event)

/-- No event changes the root, the configuration or the languages. -/
theorem agrees_step (state : State) (event : Event) :
    (state.step event).project.Agrees state.project := by
  cases event with
  | call call => exact Call.agrees_perform state.project state.files call
  | change files => exact .refl state.project

theorem agrees_run (state : State) (events : List Event) :
    (state.run events).project.Agrees state.project := by
  induction events generalizing state with
  | nil => exact .refl state.project
  | cons event events ih => exact (ih (state.step event)).trans (agrees_step state event)

/-- Changes of the files leave the project alone. -/
theorem project_run_changes (state : State) (changes : List FileSystem) :
    (state.run (changes.map .change)).project = state.project := by
  induction changes generalizing state with
  | nil => rfl
  | cons files changes ih => exact ih { state with files }

/-- Until it is called again, a project holds what came of the last call. -/
theorem project_run_call (state : State) (events : List Event) (call : Call)
    (changes : List FileSystem) :
    (state.run (events ++ .call call :: changes.map .change)).project =
      (call.perform (state.run events).project (state.run events).files).1 := by
  rw [run_append]
  exact project_run_changes ((state.run events).step (.call call)) changes

end State

/-- A project shows what a project made afresh would show after its last call: the imports that this
    call gave on the files there were then, and none if it failed at any stage, whatever was called
    and whatever failed before. Its root, its configuration and its languages never change. -/
theorem run_forgets (start : State) (events : List Event) (call : Call)
    (changes : List FileSystem) :
    let reached := start.run events
    let after := (start.run (events ++ .call call :: changes.map .change)).project
    let outcome := (call.perform start.project.fresh reached.files).2
    (call.perform reached.project reached.files).2 = outcome ∧
    (∀ imports, outcome.result = .ok imports → after.imports = imports) ∧
    (∀ failure, outcome.result = .error failure → after.imports = ImportMap.empty) ∧
    -- where the call can have failed
    (∀ failure, outcome.result = .error failure ↔
      start.project.Stops reached.files call.pattern failure) ∧
    after.root = start.project.root ∧ after.config = start.project.config ∧
      after.languages = start.project.languages := by
  intro reached after outcome
  have hReached := start.agrees_run events
  have hPerform : call.perform reached.project reached.files =
      call.perform start.project.fresh reached.files :=
    Call.perform_eq_of_agrees (hReached.trans (agrees_fresh _)) reached.files call
  have hAfter : after = (call.perform start.project.fresh reached.files).1 := by
    rw [← hPerform]
    exact start.project_run_call events call changes
  refine ⟨congrArg Prod.snd hPerform, fun imports hResult => ?_, fun failure hResult => ?_,
    fun failure => ?_, ?_⟩
  · rw [hAfter, Call.imports_perform_of_ok hResult]
  · rw [hAfter, Call.imports_perform_of_error hResult]
  · have hScan : outcome = start.project.scan reached.files call.pattern := by
      rw [scan, (agrees_fresh start.project).build_eq]
      exact congrArg Prod.snd (Call.perform_eq _ _ call)
    rw [hScan]
    exact result_scan_eq_error_iff_stops
  · have hAgrees := start.agrees_run (events ++ .call call :: changes.map .change)
    exact ⟨hAgrees.root, hAgrees.config, hAgrees.languages⟩

end JavaImports.Project
