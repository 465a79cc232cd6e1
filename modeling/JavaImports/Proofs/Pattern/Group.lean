-- SUMMARY: A written pattern is read the same way within a group between anchors.
import JavaImports.Proofs.Pattern.Continuation
import JavaImports.Proofs.Pattern.Matches
import JavaImports.SymbolFilter

/-! # Patterns within a group

A reader that has more groups open does what it does without them, step by step: it only looks at a
group around the others when it closes it, and a text that is a pattern by itself closes what it
opens and no more. So flags that are set in the pattern end with the group around it, and
alternatives stay within. If the text also is a pattern between anchors, what is read is the pattern
of the text between the anchors for the start and the end. -/

namespace JavaImports.Written

variable {state next : State} (outer : List (Level × Flags))

/-- A reader with more groups around all others. -/
def State.within (state : State) (outer : List (Level × Flags)) : State :=
  { state with around := state.around ++ outer }

@[simp] theorem State.flags_within : (state.within outer).flags = state.flags := rfl

@[simp] theorem State.level_within : (state.within outer).level = state.level := rfl

@[simp] theorem State.names_within : (state.within outer).names = state.names := rfl

@[simp] theorem State.around_within : (state.within outer).around = state.around ++ outer := rfl

@[simp] theorem State.within_nil : state.within [] = state := by
  simp [State.within]

/-! ## Steps -/

theorem State.closeGroup_within (h : state.closeGroup = .ok next) :
    (state.within outer).closeGroup = .ok (next.within outer) := by
  obtain ⟨flags, level, around, names⟩ := state
  cases around with
  | nil => cases h
  | cons inner around =>
    cases h
    rfl

theorem State.repeatLast_within {least : Nat} {most? : Option Nat}
    (h : state.repeatLast least most? = .ok next) :
    (state.within outer).repeatLast least most? = .ok (next.within outer) := by
  obtain ⟨flags, ⟨branches, parts⟩, around, names⟩ := state
  match parts, h with
  | some part :: parts, h =>
    cases h
    rfl

/-- No mark of a look-around ends within the closing. -/
theorem isPrefixOf_append_closing {mark : List Char} (hMark : ')' ∉ mark) (text : List Char) :
    mark.isPrefixOf (text ++ closing) = mark.isPrefixOf text := by
  induction mark generalizing text with
  | nil => simp
  | cons m mark ih =>
    simp only [List.mem_cons, not_or] at hMark
    cases text with
    | nil => simp [closing, List.isPrefixOf, Ne.symm hMark.1]
    | cons c text => simp [List.isPrefixOf, ih hMark.2]

theorem isLookAround_closes {text closed : List Char} (h : Closes text closed) :
    isLookAround closed = isLookAround text := by
  rcases h with rfl | ⟨rfl, rfl⟩
  · have hMarks : ∀ mark ∈ ["?=", "?!", "?<=", "?<!"], ')' ∉ mark.toList := by decide
    have hMark : ∀ mark ∈ ["?=", "?!", "?<=", "?<!"],
        mark.toList.isPrefixOf (text ++ closing) = mark.toList.isPrefixOf text :=
      fun mark hMark => isPrefixOf_append_closing (hMarks mark hMark) text
    simp only [List.mem_cons, List.not_mem_nil, or_false, forall_eq_or_imp, forall_eq] at hMark
    simp only [isLookAround, List.any_cons, List.any_nil, hMark]
  · rfl

theorem State.openNamed_within {text closed rest : List Char} (hText : Closes text closed)
    (h : state.openNamed text = .ok (next, rest)) :
    ∃ restClosed, (∀ outer, (state.within outer).openNamed closed =
      .ok (next.within outer, restClosed)) ∧ Closes rest restClosed := by
  unfold State.openNamed at h ⊢
  obtain ⟨⟨name, after⟩, hName, h⟩ := bind_eq_ok.1 h
  obtain ⟨afterClosed, hNameClosed, hAfter⟩ := groupName_readsOn true hText hName
  simp only [hNameClosed, ok_bind, State.names_within]
  simp only at h
  split at h
  · cases h
  · next hNew =>
    obtain ⟨rfl, rfl⟩ := Prod.mk.inj (Except.ok.inj h)
    exact ⟨afterClosed, fun outer => (if_neg hNew).trans rfl, hAfter⟩

/-- Puts flags in force for the rest of the group, or opens a group of their own: whatever stands
    after the flags says which. `length` is the length of the text from the flags on. -/
def State.withFlags (state : State) (length : Nat) (flags : Flags) :
    List Char → Outcome (State × List Char)
  | ')' :: after =>
    if after.length + 1 = length then .error .nothingToRepeat
    else return ({ state with
      flags
      level := { state.level with parts := none :: state.level.parts } }, after)
  | _ :: after => return (state.openGroup flags, after)
  | [] => .error .unclosedFlags

/-- Reads flags after a parenthesis and a question mark. -/
def State.setFlags (state : State) (text : List Char) : Outcome (State × List Char) := do
  let (flags, after) ← Written.flags state.flags [] false text
  state.withFlags text.length flags after

/-- After a question mark that begins neither a look-around nor a name, flags are read. -/
theorem State.group_eq_setFlags {text more : List Char}
    (hPast : skip state.flags.spaced text = '?' :: more)
    (hLook : isLookAround ('?' :: more) = false) (hLong : ∀ name, more ≠ 'P' :: '<' :: name)
    (hShort : ∀ name, more ≠ '<' :: name) (hEnd : more ≠ []) :
    state.group text = state.setFlags more := by
  unfold State.group
  simp only [hPast, hLook, Bool.false_eq_true, if_false]
  rfl

/-- If nothing that is asked for stands after a parenthesis, it begins a group without a name. -/
theorem State.group_eq_openGroup {text : List Char}
    (hLook : isLookAround (skip state.flags.spaced text) = false)
    (hMark : ∀ more, skip state.flags.spaced text ≠ '?' :: more) :
    state.group text = .ok (state.openGroup state.flags, skip state.flags.spaced text) := by
  unfold State.group
  simp only [hLook, Bool.false_eq_true, if_false]
  split
  · next heq => exact absurd heq (hMark _)
  · next heq => exact absurd heq (hMark _)
  · next heq => exact absurd heq (hMark _)
  · next heq => exact absurd heq (hMark _)
  · rfl

/-- What a parenthesis begins is the same with the closing after the text, whatever groups are
    around: nothing, a group with a name, flags, or a group without either. -/
theorem State.group_closes (state : State) {text closed : List Char} (hText : Closes text closed) :
    ((∃ error, state.group text = .error error) ∧
        ∀ outer, ∃ error, (state.within outer).group closed = .error error) ∨
      (∃ name nameClosed, Closes name nameClosed ∧ state.group text = state.openNamed name ∧
        ∀ outer, (state.within outer).group closed = (state.within outer).openNamed nameClosed) ∨
      (∃ more, state.group text = state.setFlags more ∧
        ∀ outer, (state.within outer).group closed =
          (state.within outer).setFlags (more ++ closing)) ∨
      ∃ inner innerClosed, Closes inner innerClosed ∧
        state.group text = .ok (state.openGroup state.flags, inner) ∧
        ∀ outer, (state.within outer).group closed =
          .ok ((state.openGroup state.flags).within outer, innerClosed) := by
  have hSkip := skip_closes hText state.flags.spaced
  have hLookClosed := isLookAround_closes hSkip
  cases hLook : isLookAround (skip state.flags.spaced text) with
  | true =>
    rw [hLook] at hLookClosed
    exact .inl ⟨⟨.lookAround, if_pos hLook⟩, fun outer => ⟨.lookAround, if_pos hLookClosed⟩⟩
  | false =>
    rw [hLook] at hLookClosed
    by_cases hMark : ∃ more, skip state.flags.spaced text = '?' :: more
    · obtain ⟨more, hPast⟩ := hMark
      obtain ⟨moreClosed, hPastClosed, hSkip, hMore⟩ := skip_closes_cons hText hPast
      rw [hPast] at hLook
      rw [hPastClosed] at hLookClosed
      by_cases hLong : ∃ name, more = 'P' :: '<' :: name
      · obtain ⟨name, rfl⟩ := hLong
        obtain ⟨_, rfl, hAngle⟩ := hMore.cons
        obtain ⟨nameClosed, rfl, hName⟩ := hAngle.cons
        refine .inr (.inl ⟨name, nameClosed, hName, ?_, fun outer => ?_⟩) <;> unfold State.group
        · simp only [hPast, hLook, Bool.false_eq_true, if_false]
        · simp only [State.flags_within, hPastClosed, hLookClosed, Bool.false_eq_true, if_false]
      by_cases hShort : ∃ name, more = '<' :: name
      · obtain ⟨name, rfl⟩ := hShort
        obtain ⟨nameClosed, rfl, hName⟩ := hMore.cons
        refine .inr (.inl ⟨name, nameClosed, hName, ?_, fun outer => ?_⟩) <;> unfold State.group
        · simp only [hPast, hLook, Bool.false_eq_true, if_false]
        · simp only [State.flags_within, hPastClosed, hLookClosed, Bool.false_eq_true, if_false]
      obtain rfl := hSkip.cons_eq
      cases more with
      | nil =>
        refine .inl ⟨⟨.unclosedGroup, ?_⟩, fun outer => ⟨.nothingToRepeat, ?_⟩⟩
        · unfold State.group
          simp only [hPast, hLook, Bool.false_eq_true, if_false]
        · unfold State.group
          simp only [State.flags_within, hPastClosed, hLookClosed, Bool.false_eq_true, if_false]
          rfl
      | cons c more =>
        refine .inr (.inr (.inl ⟨c :: more, ?_, fun outer => ?_⟩))
        · exact State.group_eq_setFlags hPast hLook (not_exists.1 hLong) (not_exists.1 hShort)
            (by simp)
        · refine State.group_eq_setFlags hPastClosed hLookClosed ?_ ?_ (by simp)
          · intro name heq
            rw [heq] at hMore
            exact hLong (hMore.of_cons_cons (by decide) (by decide))
          · intro name heq
            rw [heq] at hMore
            exact hShort (hMore.of_cons (by decide))
    · have hMarkClosed : ∀ more, skip state.flags.spaced closed ≠ '?' :: more := by
        intro more hPastClosed
        rw [hPastClosed] at hSkip
        exact hMark (hSkip.of_cons (by decide))
      exact .inr (.inr (.inr ⟨_, _, hSkip, State.group_eq_openGroup hLook (not_exists.1 hMark),
        fun outer => State.group_eq_openGroup hLookClosed hMarkClosed⟩))

theorem State.withFlags_within {text after afterClosed rest : List Char} {flags : Flags}
    (hAfter : Closes after afterClosed)
    (h : state.withFlags text.length flags after = .ok (next, rest)) :
    ∃ restClosed, (∀ outer, (state.within outer).withFlags (text ++ closing).length flags
      afterClosed = .ok (next.within outer, restClosed)) ∧ Closes rest restClosed := by
  cases after with
  | nil => cases h
  | cons c tail =>
    obtain ⟨tailClosed, rfl, hTail⟩ := hAfter.cons
    by_cases hClose : c = ')'
    · subst hClose
      obtain rfl := hAfter.cons_eq
      simp only [State.withFlags, List.length_append, Nat.add_right_cancel_iff,
        Nat.add_right_comm _ _ 1] at h ⊢
      split at h
      · cases h
      · next hLength =>
        obtain ⟨rfl, rfl⟩ := Prod.mk.inj (Except.ok.inj h)
        exact ⟨_, fun outer => (if_neg hLength).trans rfl, hTail⟩
    · simp only [State.withFlags] at h ⊢
      obtain ⟨rfl, rfl⟩ := Prod.mk.inj (Except.ok.inj h)
      exact ⟨tailClosed, fun outer => rfl, hTail⟩

theorem State.setFlags_within {text rest : List Char}
    (h : state.setFlags text = .ok (next, rest)) :
    ∃ restClosed, (∀ outer, (state.within outer).setFlags (text ++ closing) =
      .ok (next.within outer, restClosed)) ∧ Closes rest restClosed := by
  obtain ⟨⟨flags, after⟩, hFlags, h⟩ := bind_eq_ok.1 h
  obtain ⟨afterClosed, hFlagsClosed, hAfter⟩ :=
    flags_readsOn state.flags [] false (closes_closing text) hFlags
  obtain ⟨restClosed, hClosed, hRest⟩ := State.withFlags_within hAfter h
  exact ⟨restClosed, fun outer => bind_eq_ok.2 ⟨_, hFlagsClosed, hClosed outer⟩, hRest⟩

theorem State.group_within {text closed rest : List Char} (hText : Closes text closed)
    (h : state.group text = .ok (next, rest)) :
    ∃ restClosed, (∀ outer, (state.within outer).group closed =
      .ok (next.within outer, restClosed)) ∧ Closes rest restClosed := by
  rcases state.group_closes hText with ⟨⟨error, hError⟩, -⟩ |
    ⟨name, nameClosed, hName, hGroup, hClosed⟩ | ⟨more, hGroup, hClosed⟩ |
    ⟨inner, innerClosed, hInner, hGroup, hClosed⟩
  · rw [hError] at h
    cases h
  · rw [hGroup] at h
    simp only [hClosed]
    exact State.openNamed_within hName h
  · rw [hGroup] at h
    simp only [hClosed]
    exact State.setFlags_within h
  · rw [hGroup] at h
    cases h
    exact ⟨innerClosed, hClosed, hInner⟩

theorem dropPreference_closes {text closed : List Char} (h : Closes text closed) :
    Closes (dropPreference text) (dropPreference closed) := by
  cases text with
  | nil => rcases h.nil with rfl | rfl <;> exact h
  | cons c rest =>
    obtain ⟨restClosed, rfl, hRest⟩ := h.cons
    by_cases hMark : c = '?'
    · subst hMark
      exact hRest
    · simpa [dropPreference, hMark] using h

/-- One part is read the same way within more groups. -/
theorem State.next_within {c : Char} {text closed rest : List Char} (hText : Closes text closed)
    (h : state.next c text = .ok (next, rest)) :
    ∃ restClosed, (∀ outer, (state.within outer).next c closed =
      .ok (next.within outer, restClosed)) ∧ Closes rest restClosed := by
  have hRepeat {least : Nat} {most? : Option Nat} {text closed : List Char}
      (hText : Closes text closed)
      (h : (do return (← state.repeatLast least most?, text)) = (.ok (next, rest) : Outcome _)) :
      ∃ restClosed, (∀ outer, (do return (← (state.within outer).repeatLast least most?, closed)) =
        (.ok (next.within outer, restClosed) : Outcome _)) ∧ Closes rest restClosed := by
    obtain ⟨repeated, hRepeated, h⟩ := bind_eq_ok.1 h
    obtain ⟨rfl, rfl⟩ := Prod.mk.inj (Except.ok.inj h)
    exact ⟨closed, fun outer =>
      bind_eq_ok.2 ⟨_, State.repeatLast_within outer hRepeated, rfl⟩, hText⟩
  unfold State.next at h ⊢
  simp only [State.flags_within]
  simp only at h
  split at h
  case h_1 => exact State.group_within hText h
  case h_2 =>
    obtain ⟨left, hLeft, h⟩ := bind_eq_ok.1 h
    obtain ⟨rfl, rfl⟩ := Prod.mk.inj (Except.ok.inj h)
    exact ⟨closed, fun outer =>
      bind_eq_ok.2 ⟨_, State.closeGroup_within outer hLeft, rfl⟩, hText⟩
  case h_3 =>
    obtain ⟨rfl, rfl⟩ := Prod.mk.inj (Except.ok.inj h)
    exact ⟨closed, fun outer => rfl, hText⟩
  case h_4 =>
    obtain ⟨⟨cls, after⟩, hClass, h⟩ := bind_eq_ok.1 h
    obtain ⟨rfl, rfl⟩ := Prod.mk.inj (Except.ok.inj h)
    obtain ⟨afterClosed, hClassClosed, hAfter⟩ := bracketed_readsOn state.flags hText hClass
    exact ⟨afterClosed, fun outer => bind_eq_ok.2 ⟨_, hClassClosed, rfl⟩, hAfter⟩
  case h_5 => exact hRepeat (dropPreference_closes hText) h
  case h_6 => exact hRepeat (dropPreference_closes hText) h
  case h_7 => exact hRepeat (dropPreference_closes hText) h
  case h_8 =>
    obtain ⟨_, hCan, h⟩ := bind_eq_ok.1 h
    obtain ⟨⟨⟨least, most?⟩, after⟩, hBounds, h⟩ := bind_eq_ok.1 h
    obtain ⟨afterClosed, hBoundsClosed, hAfter⟩ := bounds_readsOn state.flags.spaced hText hBounds
    obtain ⟨restClosed, hRepeated, hRest⟩ :=
      hRepeat (dropPreference_closes (skip_closes hAfter state.flags.spaced)) h
    exact ⟨restClosed, fun outer =>
      bind_eq_ok.2 ⟨_, hCan, bind_eq_ok.2 ⟨_, hBoundsClosed, hRepeated outer⟩⟩, hRest⟩
  case h_9 =>
    obtain ⟨⟨found, after⟩, hEscape, h⟩ := bind_eq_ok.1 h
    obtain ⟨pattern, hPattern, h⟩ := bind_eq_ok.1 h
    obtain ⟨rfl, rfl⟩ := Prod.mk.inj (Except.ok.inj h)
    obtain ⟨afterClosed, hEscapeClosed, hAfter⟩ := escape_readsOn state.flags.spaced hText hEscape
    exact ⟨afterClosed, fun outer =>
      bind_eq_ok.2 ⟨_, hEscapeClosed, bind_eq_ok.2 ⟨_, hPattern, rfl⟩⟩, hAfter⟩
  case h_10 =>
    obtain ⟨pattern, hPattern, h⟩ := bind_eq_ok.1 h
    obtain ⟨rfl, rfl⟩ := Prod.mk.inj (Except.ok.inj h)
    exact ⟨closed, fun outer => bind_eq_ok.2 ⟨_, hPattern, rfl⟩, hText⟩
  all_goals
    obtain ⟨rfl, rfl⟩ := Prod.mk.inj (Except.ok.inj h)
    exact ⟨closed, fun outer => rfl, hText⟩

/-! ## Runs -/

/-- A text that is read to its end is read the same way within more groups. What then is left is
    the closing, unless a comment has swallowed it, whatever the groups are. -/
theorem State.readAll_within {fuel : Nat} {text closed : List Char} {last : State}
    (hText : Closes text closed) (h : state.readAll fuel text = .ok last) :
    (∀ extra outer,
      (state.within outer).readAll (fuel + extra + 2) closed = .ok (last.within outer)) ∨
    ∀ extra, ∃ more, ∀ outer,
      (state.within outer).readAll (fuel + extra + 2) closed =
        (last.within outer).readAll (more + 3) closing := by
  induction fuel generalizing state text closed with
  | zero => cases h
  | succ fuel ih =>
    have hFuel (extra : Nat) : fuel + 1 + extra + 2 = (fuel + extra + 2) + 1 := by omega
    simp only [hFuel]
    have hSkip := skip_closes hText state.flags.spaced
    simp only [State.readAll] at h
    cases hPast : skip state.flags.spaced text with
    | nil =>
      simp only [hPast] at h
      obtain rfl := Except.ok.inj h
      rw [hPast] at hSkip
      rcases hSkip.nil with hClosed | hClosed
      · refine .inr fun extra => ⟨fuel + extra, fun outer => ?_⟩
        simp only [State.readAll, State.flags_within, hClosed, skip_closing]
      · refine .inl fun extra outer => ?_
        simp only [State.readAll, State.flags_within, hClosed]
    | cons c rest =>
      obtain ⟨restClosed, hPastClosed, -, hRest⟩ := skip_closes_cons hText hPast
      simp only [hPast] at h
      obtain ⟨⟨next, after⟩, hNext, h⟩ := bind_eq_ok.1 h
      obtain ⟨afterClosed, hNextClosed, hAfter⟩ := State.next_within hRest hNext
      have hStep (fuel : Nat) (outer : List (Level × Flags)) :
          (state.within outer).readAll (fuel + 1) closed =
            (next.within outer).readAll fuel afterClosed := by
        simp only [State.readAll, State.flags_within, hPastClosed, hNextClosed, ok_bind]
      simp only [hStep]
      exact ih hAfter h

/-- The group around a pattern, with the sign for the start before it. -/
def anchoredGroup : Level × Flags :=
  (⟨[], [some (.anchor .textStart)]⟩, {})

/-- Reading the beginning of a group between anchors. -/
theorem readAll_opening (fuel : Nat) (text : List Char) :
    (⟨{}, .empty, [], []⟩ : State).readAll (fuel + 2) ('^' :: '(' :: '?' :: ':' :: text) =
      ((⟨{}, .empty, [], []⟩ : State).within [anchoredGroup]).readAll fuel text := by
  rfl

/-- Reading the end of a group between anchors. -/
theorem readAll_closing (fuel : Nat) {last : State} (h : last.around = []) :
    (last.within [anchoredGroup]).readAll (fuel + 3) closing =
      .ok ⟨{}, ⟨[], [some (.anchor .textEnd), some last.level.pattern,
        some (.anchor .textStart)]⟩, [], last.names⟩ := by
  obtain ⟨flags, level, around, names⟩ := last
  subst h
  rw [State.readAll, State.flags_within, skip_closing]
  rfl

/-- A text between anchors is read as the text with the closing, within a group. -/
theorem readAll_anchored (text : String) :
    (⟨{}, .empty, [], []⟩ : State).readAll ((SymbolFilter.anchored text).toList.length + 1)
      (SymbolFilter.anchored text).toList =
    ((⟨{}, .empty, [], []⟩ : State).within [anchoredGroup]).readAll
      (text.toList.length + 1 + 2 + 2) (text.toList ++ closing) := by
  have hChars : (SymbolFilter.anchored text).toList =
      '^' :: '(' :: '?' :: ':' :: (text.toList ++ closing) := by
    simp [SymbolFilter.anchored, closing]
  have hLength : (SymbolFilter.anchored text).toList.length + 1 =
      text.toList.length + 1 + 2 + 2 + 2 := by
    rw [hChars]
    simp [closing]
  rw [hLength, hChars, readAll_opening]

end JavaImports.Written

namespace JavaImports

open Written

/-- What is read between anchors is the pattern of the text, between anchors. -/
theorem Pattern.eq_betweenAnchors_of_ofWritten {text : String} {pattern found : Pattern}
    (hText : Pattern.ofWritten text = .ok pattern)
    (h : Pattern.ofWritten (SymbolFilter.anchored text) = .ok found) :
    found = pattern.betweenAnchors := by
  unfold Pattern.ofWritten at hText h
  obtain ⟨last, hLast, hText⟩ := bind_eq_ok.1 hText
  obtain ⟨lastFound, hFound, h⟩ := bind_eq_ok.1 h
  split at hText
  · next hAround =>
    obtain rfl := Except.ok.inj hText
    rw [readAll_anchored] at hFound
    rcases State.readAll_within (closes_closing _) hLast with hSwallowed | hClosing
    · -- a comment has swallowed the closing, and the group is left open
      rw [hSwallowed 2] at hFound
      obtain rfl := Except.ok.inj hFound
      simp at h
    · obtain ⟨more, hClosing⟩ := hClosing 2
      rw [hClosing, readAll_closing more (List.isEmpty_iff.1 hAround)] at hFound
      obtain rfl := Except.ok.inj hFound
      exact (Except.ok.inj h).symm
  · cases hText

end JavaImports
