-- SUMMARY: The steps of paths that are made from others.
import JavaImports.FileSystem.Resolve

/-! # Steps of paths

What is written behind a path that does not end in a slash becomes part of its last step, and what
is joined to a path comes after its steps. Names that are joined by slashes come back as the steps
of the path, so no two lists of names make the same path below a root. -/

namespace JavaImports

namespace Text

theorem parts_of_notMem {separator : Char} {text : List Char} (h : separator ∉ text) :
    parts separator text = [text] := by
  induction text with
  | nil => rfl
  | cons c rest ih =>
    have hHead : c ≠ separator := fun heq => h (heq ▸ List.mem_cons_self ..)
    rw [parts, if_neg hHead, ih fun hRest => h (List.mem_cons_of_mem _ hRest)]

theorem parts_ne_nil (separator : Char) (text : List Char) : parts separator text ≠ [] := by
  cases text with
  | nil => exact List.cons_ne_nil _ _
  | cons c rest =>
    rw [parts]
    split
    · exact List.cons_ne_nil _ _
    · split <;> exact List.cons_ne_nil _ _

/-- A separator stands between the parts before it and the parts behind it. -/
theorem parts_append_separator (separator : Char) (text rest : List Char) :
    parts separator (text ++ separator :: rest) = parts separator text ++ parts separator rest := by
  induction text with
  | nil => exact if_pos rfl
  | cons c text ih =>
    rw [List.cons_append, parts, parts]
    by_cases hSeparator : c = separator
    · rw [if_pos hSeparator, if_pos hSeparator, ih, List.cons_append]
    · rw [if_neg hSeparator, if_neg hSeparator, ih]
      obtain ⟨part, more, hParts⟩ := List.exists_cons_of_ne_nil (parts_ne_nil separator text)
      rw [hParts]
      rfl

/-- Each separator ends one part, and one more part comes after the last of them. -/
theorem length_parts (separator : Char) (text : List Char) :
    (parts separator text).length = text.count separator + 1 := by
  induction text with
  | nil => rfl
  | cons c rest ih =>
    rw [parts]
    split
    · next hSeparator => rw [hSeparator, List.length_cons, ih, List.count_cons_self]
    · next hOther =>
      rw [List.count_cons_of_ne hOther, ← ih]
      obtain ⟨part, more, hParts⟩ := List.exists_cons_of_ne_nil (parts_ne_nil separator rest)
      rw [hParts]
      rfl

/-- A text is its parts with the separator between them. -/
theorem intercalate_parts (separator : Char) (text : List Char) :
    [separator].intercalate (parts separator text) = text := by
  induction text with
  | nil => rfl
  | cons c rest ih =>
    obtain ⟨part, more, hParts⟩ := List.exists_cons_of_ne_nil (parts_ne_nil separator rest)
    rw [hParts] at ih
    rw [parts, hParts]
    split
    · next hSeparator =>
      rw [List.intercalate_cons_cons, ih, hSeparator]
      rfl
    · cases more <;> simp_all [List.intercalate]

/-- What is put behind a text without a separator becomes part of its last part, which is empty
    only behind a separator or in the empty text. -/
theorem exists_parts_append {separator : Char} {ending : List Char} (h : separator ∉ ending)
    (text : List Char) : ∃ front last,
      parts separator text = front ++ [last] ∧
      parts separator (text ++ ending) = front ++ [last ++ ending] ∧
      (last = [] → text = [] ∨ text.getLast? = some separator) := by
  induction text with
  | nil => exact ⟨[], [], rfl, parts_of_notMem h, fun _ => .inl rfl⟩
  | cons c rest ih =>
    obtain ⟨front, last, hRest, hWhole, hEmpty⟩ := ih
    by_cases hSeparator : c = separator
    · refine ⟨[] :: front, last, ?_, ?_, fun hLast => .inr ?_⟩
      · rw [parts, if_pos hSeparator, hRest, List.cons_append]
      · rw [List.cons_append, parts, if_pos hSeparator, hWhole, List.cons_append]
      · rcases hEmpty hLast with rfl | hGetLast
        · rw [hSeparator]; rfl
        · rw [List.getLast?_cons, hGetLast]; rfl
    · rcases front with _ | ⟨part, front⟩
      · refine ⟨[], c :: last, ?_, ?_, nofun⟩
        · rw [parts, if_neg hSeparator, hRest]; rfl
        · rw [List.cons_append, parts, if_neg hSeparator, hWhole]; rfl
      · refine ⟨(c :: part) :: front, last, ?_, ?_, fun hLast => .inr ?_⟩
        · rw [parts, if_neg hSeparator, hRest]; rfl
        · rw [List.cons_append, parts, if_neg hSeparator, hWhole]; rfl
        · rcases hEmpty hLast with rfl | hGetLast
          · simp [parts] at hRest
          · rw [List.getLast?_cons, hGetLast]; rfl

theorem notMem_of_mem_parts {separator : Char} {text part : List Char}
    (h : part ∈ parts separator text) : separator ∉ part := by
  induction text generalizing part with
  | nil =>
    obtain rfl : part = [] := by simpa [parts] using h
    exact List.not_mem_nil
  | cons c rest ih =>
    rw [parts] at h
    split at h
    · rcases List.mem_cons.1 h with rfl | hRest
      · exact List.not_mem_nil
      · exact ih hRest
    · next hSeparator =>
      obtain ⟨first, more, hParts⟩ := List.exists_cons_of_ne_nil (parts_ne_nil separator rest)
      rw [hParts] at h ih
      rcases List.mem_cons.1 h with rfl | hMore
      · simpa [Ne.symm hSeparator] using ih List.mem_cons_self
      · exact ih (List.mem_cons_of_mem _ hMore)

end Text

namespace Path

/-- A path with an ending put behind it does not end in a separator. -/
theorem getLast?_append_ne {ending : String} (hEnding : '/' ∉ ending.toList)
    (hNonempty : ending ≠ "") (path : String) : (path ++ ending).toList.getLast? ≠ some '/' := by
  intro hLast
  have hSome : ending.toList.getLast?.isSome := by
    rw [List.getLast?_isSome]
    exact fun hEmpty => hNonempty (String.toList_eq_nil_iff.1 hEmpty)
  rw [String.toList_append, List.getLast?_append, Option.or_of_isSome hSome] at hLast
  exact hEnding (List.mem_of_getLast? hLast)

/-- What is put behind a path becomes part of its last step. -/
theorem exists_steps_append {path ending : String} (hEnding : '/' ∉ ending.toList)
    (hNonempty : path ≠ "") (hSlash : path.toList.getLast? ≠ some '/') :
    ∃ init name, steps path = init ++ [name] ∧ steps (path ++ ending) = init ++ [name ++ ending] := by
  obtain ⟨front, last, hParts, hWhole, hEmpty⟩ := Text.exists_parts_append hEnding path.toList
  have hLast : last ≠ [] := by
    intro hLast
    rcases hEmpty hLast with hText | hGetLast
    · exact hNonempty (String.toList_eq_nil_iff.1 hText)
    · exact hSlash hGetLast
  have hStep (part : List Char) (hPart : part ≠ []) :
      (!(String.ofList part).isEmpty) = true := by
    simpa using hPart
  refine ⟨(front.map String.ofList).filter fun step => !step.isEmpty, String.ofList last, ?_, ?_⟩
  · rw [steps, hParts, List.map_append, List.filter_append]
    simp [hStep last hLast]
  · rw [steps, String.toList_append, hWhole, List.map_append, List.filter_append]
    simp [hLast]

/-- The first step is written first, so a path stays absolute or relative. -/
theorem isAbsolute_append {path : String} (hNonempty : path ≠ "") (ending : String) :
    isAbsolute (path ++ ending) = isAbsolute path := by
  have hText : path.toList ≠ [] := fun h => hNonempty (String.toList_eq_nil_iff.1 h)
  obtain ⟨c, rest, hChars⟩ := List.exists_cons_of_ne_nil hText
  rw [isAbsolute, isAbsolute, String.toList_append, hChars]
  rfl

theorem steps_name {name : String} (hNonempty : name ≠ "") (hSlash : '/' ∉ name.toList) :
    steps name = [name] := by
  rw [steps, Text.parts_of_notMem hSlash]
  simp [hNonempty]

/-- Steps are names: they are not empty, and no slash is left in them. -/
theorem name_of_mem_steps {path step : String} (h : step ∈ steps path) :
    step ≠ "" ∧ '/' ∉ step.toList := by
  obtain ⟨hStep, hNonempty⟩ := List.mem_filter.1 h
  obtain ⟨part, hPart, rfl⟩ := List.mem_map.1 hStep
  refine ⟨by simpa using hNonempty, ?_⟩
  rw [String.toList_ofList]
  exact Text.notMem_of_mem_parts hPart

/-- A slash stands between the steps before it and the steps behind it. -/
theorem steps_append_slash (path rest : String) :
    steps (path ++ "/" ++ rest) = steps path ++ steps rest := by
  have hText : (path ++ "/" ++ rest).toList = path.toList ++ '/' :: rest.toList := by simp
  rw [steps, steps, steps, hText, Text.parts_append_separator, List.map_append,
    List.filter_append]

/-- Names that are joined by slashes are the steps of the path. -/
theorem steps_intercalate {names : List String}
    (h : ∀ name ∈ names, name ≠ "" ∧ '/' ∉ name.toList) :
    steps ("/".intercalate names) = names := by
  induction names with
  | nil => rfl
  | cons name rest ih =>
    obtain ⟨⟨hNonempty, hSlash⟩, hRest⟩ := List.forall_mem_cons.1 h
    cases rest with
    | nil => rw [String.intercalate_singleton, steps_name hNonempty hSlash]
    | cons next rest =>
      rw [String.intercalate_cons_cons, steps_append_slash, steps_name hNonempty hSlash, ih hRest,
        List.singleton_append]

theorem not_isAbsolute_of_notMem {path : String} (h : '/' ∉ path.toList) : ¬ isAbsolute path := by
  intro hAbsolute
  rw [isAbsolute, decide_eq_true_iff] at hAbsolute
  exact h (List.mem_of_mem_head? hAbsolute)

/-- A path of names is relative. -/
theorem not_isAbsolute_intercalate {names : List String}
    (h : ∀ name ∈ names, name ≠ "" ∧ '/' ∉ name.toList) :
    ¬ isAbsolute ("/".intercalate names) := by
  have hHead (name : String) (hName : name ≠ "" ∧ '/' ∉ name.toList) (rest : String) :
      ¬ isAbsolute (name ++ rest) := by
    rw [isAbsolute_append hName.1]
    exact not_isAbsolute_of_notMem hName.2
  cases names with
  | nil => decide
  | cons name rest =>
    obtain ⟨hName, -⟩ := List.forall_mem_cons.1 h
    cases rest with
    | nil =>
      rw [String.intercalate_singleton]
      have hAlone := hHead name hName ""
      rwa [String.append_empty] at hAlone
    | cons next rest =>
      rw [String.intercalate_cons_cons, String.append_assoc]
      exact hHead name hName _

/-- The path of names, from the top or not, has these as its steps. -/
theorem steps_ofNames {names : List String} (h : ∀ name ∈ names, name ≠ "" ∧ '/' ∉ name.toList)
    (absolute : Bool) :
    steps ((if absolute then "/" else "") ++ "/".intercalate names) = names ∧
      isAbsolute ((if absolute then "/" else "") ++ "/".intercalate names) = absolute := by
  cases absolute with
  | false =>
    rw [if_neg Bool.false_ne_true, String.empty_append]
    exact ⟨steps_intercalate h, Bool.eq_false_iff.2 (not_isAbsolute_intercalate h)⟩
  | true =>
    rw [if_pos rfl]
    constructor
    · have hSteps := steps_append_slash "" ("/".intercalate names)
      rw [String.empty_append] at hSteps
      rw [hSteps, steps_intercalate h]
      rfl
    · rw [isAbsolute_append (by decide)]
      rfl

/-! ## Joined paths -/

/-- What stands before a relative path that is joined to a base. -/
def above (base : String) : String :=
  if base.isEmpty || base.toList.getLast? = some '/' then base else base ++ "/"

/-- A relative path is joined to a base by putting it behind the same text as any other. -/
theorem join_eq_above {path : String} (hPath : ¬ isAbsolute path) (base : String) :
    join base path = above base ++ path := by
  by_cases hEmpty : base = ""
  · subst hEmpty
    simp [join, above]
  · by_cases hSlash : base.toList.getLast? = some '/' <;> simp [join, above, hPath, hEmpty, hSlash]

/-- Different relative paths stay different below a root. -/
theorem join_inj {root path other : String} (hPath : ¬ isAbsolute path)
    (hOther : ¬ isAbsolute other) (h : join root path = join root other) : path = other := by
  rw [join_eq_above hPath, join_eq_above hOther] at h
  exact String.append_right_inj _ |>.1 h

/-- A joined path starts where its base does. -/
theorem isAbsolute_join {path : String} (hPath : ¬ isAbsolute path) (base : String) :
    isAbsolute (join base path) = isAbsolute base := by
  by_cases hEmpty : base = ""
  · subst hEmpty
    have hTop : isAbsolute "" = false := rfl
    simpa [join, hTop] using hPath
  · rw [join_eq_above hPath, above]
    split
    · exact isAbsolute_append hEmpty _
    · rw [String.append_assoc]
      exact isAbsolute_append hEmpty _

/-- Joining adds no characters but slashes. -/
theorem mem_join {path : String} (hPath : ¬ isAbsolute path) (base : String) {c : Char}
    (hSlash : c ≠ '/') : c ∈ (join base path).toList ↔ c ∈ base.toList ∨ c ∈ path.toList := by
  rw [join_eq_above hPath, above]
  split <;> simp [hSlash]

/-- The steps of a joined path are those of its base and then its own. -/
theorem steps_join {path : String} (hPath : ¬ isAbsolute path) (base : String) :
    steps (join base path) = steps base ++ steps path := by
  rw [join_eq_above hPath, above]
  by_cases hEmpty : base = ""
  · subst hEmpty
    rfl
  · by_cases hSlash : base.toList.getLast? = some '/'
    · obtain ⟨front, hFront⟩ := List.getLast?_eq_some_iff.1 hSlash
      have hBase : base = String.ofList front ++ "/" := by
        rw [← String.toList_inj, hFront]
        simp
      have hSteps := steps_append_slash (String.ofList front) ""
      rw [String.append_empty, ← hBase] at hSteps
      rw [if_pos (by simp [hSlash]), hSteps, hBase, steps_append_slash]
      simp [steps, Text.parts]
    · rw [if_neg (by simp [hEmpty, hSlash]), steps_append_slash]

/-- A relative path that is joined to a base adds its segments to the components, unless it begins
    with a dot. -/
theorem components_join {path : String} (hPath : ¬ isAbsolute path)
    (hDot : (steps path).head? ≠ some ".") (base : String) :
    components (join base path) = components base ++ segments path := by
  have hSegments : segments (join base path) = segments base ++ segments path := by
    rw [segments, steps_join hPath, List.filter_append, segments, segments]
  rw [components, components, isAbsolute_join hPath, hSegments, steps_join hPath, List.head?_append]
  split
  · rfl
  · cases hHead : (steps base).head? with
    | some step =>
      rw [Option.some_or]
      split <;> rfl
    | none =>
      rw [Option.none_or, if_neg hDot, if_neg (by simp)]

/-- What remains of a joined path behind its base are the segments that were joined. -/
theorem stripPrefix?_join {path : String} (hPath : ¬ isAbsolute path)
    (hDot : (steps path).head? ≠ some ".") (base : String) :
    stripPrefix? base (join base path) = some ("/".intercalate (segments path)) := by
  rw [stripPrefix?, components_join hPath hDot, if_pos (by simp), List.drop_left]

end Path

namespace FileSystem

/-- A path that does not end in a slash has no steps but those that are written. -/
theorem pathSteps_eq {path : String} (h : path.toList.getLast? ≠ some '/') :
    pathSteps path = Path.steps path :=
  if_neg h

end FileSystem

end JavaImports
