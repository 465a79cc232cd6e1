-- SUMMARY: Between anchors only patterns are read, and texts that close one group too many.
import JavaImports.Proofs.Pattern.Failure
import JavaImports.Proofs.Pattern.Group

/-! # Reading between anchors

Not every text that can be read between anchors is a pattern by itself, and not every pattern can be
read between anchors. A pattern cannot be read if a comment at its end swallows the closing, and
then it still is a pattern with the closing after it. A text that is no pattern can only be read if
it closes a group that it has not opened: everything else that is wrong with it stays wrong, or the
closing is taken for a part of the text and the group around the text is left open. -/

namespace JavaImports.Written

variable {state next : State} {outer : List (Level × Flags)}

/-! ## Groups that are left open -/

/-- Whether a text cannot be read from here so that all groups are closed at its end. -/
def State.IsLost (state : State) (text : List Char) : Prop :=
  ∀ fuel last, state.readAll fuel text = .ok last → last.around ≠ []

theorem State.isLost_of_skip_nil {text : List Char} (hPast : skip state.flags.spaced text = [])
    (h : state.around ≠ []) : state.IsLost text := by
  intro fuel last hRead
  cases fuel with
  | zero => cases hRead
  | succ fuel =>
    simp only [State.readAll, hPast] at hRead
    obtain rfl := Except.ok.inj hRead
    exact h

theorem State.isLost_of_next {c : Char} {text more : List Char}
    (hPast : skip state.flags.spaced text = c :: more)
    (h : ∀ next rest, state.next c more = .ok (next, rest) → next.IsLost rest) :
    state.IsLost text := by
  intro fuel last hRead
  cases fuel with
  | zero => cases hRead
  | succ fuel =>
    simp only [State.readAll, hPast] at hRead
    obtain ⟨⟨next, rest⟩, hNext, hRead⟩ := bind_eq_ok.1 hRead
    exact h next rest hNext fuel last hRead

/-- The sign for the end closes no group. -/
theorem State.isLost_closingEnd (h : state.around ≠ []) : state.IsLost closingEnd := by
  refine State.isLost_of_next (skip_closingEnd _) fun next rest hNext => ?_
  obtain ⟨rfl, rfl⟩ := Prod.mk.inj (Except.ok.inj hNext)
  exact State.isLost_of_skip_nil (skip_nil _) h

/-- The closing closes one group only. -/
theorem State.isLost_closing (h : 2 ≤ state.around.length) : state.IsLost closing := by
  refine State.isLost_of_next (skip_closing _) fun next rest hNext => ?_
  obtain ⟨left, hLeft, hNext⟩ := bind_eq_ok.1 hNext
  obtain ⟨rfl, rfl⟩ := Prod.mk.inj (Except.ok.inj hNext)
  obtain ⟨flags, level, around, names⟩ := state
  match around, h, hLeft with
  | inner :: middle :: around, h, hLeft =>
    cases hLeft
    exact State.isLost_closingEnd (by simp)

/-- A repetition whose numbers are missing is not read. -/
theorem State.isLost_brace {more : List Char} (h : skip state.flags.spaced more = closing) :
    state.IsLost ('\x7b' :: more) := by
  refine State.isLost_of_next (skip_brace _ more) fun next rest hNext => ?_
  obtain ⟨_, hCan, hNext⟩ := bind_eq_ok.1 hNext
  obtain ⟨found, hBounds, -⟩ := bind_eq_ok.1 hNext
  rw [bounds_closing _ h] at hBounds
  cases hBounds

/-! ## Steps -/

theorem State.repeatLast_within_fails {least : Nat} {most? : Option Nat} {error : PatternError}
    (outer : List (Level × Flags)) (h : state.repeatLast least most? = .error error) :
    (state.within outer).repeatLast least most? = .error error := by
  unfold State.repeatLast at h ⊢
  rw [State.level_within]
  split at h
  · cases h
  · exact h

theorem State.openNamed_fails {text closed : List Char} {error : PatternError}
    (outer : List (Level × Flags)) (hText : Closes text closed)
    (h : state.openNamed text = .error error) :
    ∃ error, (state.within outer).openNamed closed = .error error := by
  unfold State.openNamed at h ⊢
  rcases bind_eq_error.1 h with hName | ⟨⟨name, after⟩, hName, h⟩
  · obtain ⟨error, hClosed⟩ := groupName_failsOn true hText hName
    exact ⟨error, by rw [hClosed]; rfl⟩
  · obtain ⟨afterClosed, hNameClosed, -⟩ := groupName_readsOn true hText hName
    simp only [hNameClosed, ok_bind, State.names_within]
    simp only at h
    split at h
    · next hKnown => exact ⟨_, if_pos hKnown⟩
    · cases h

/-- Flags before the closing are set in the group around the text, and the parenthesis that would
    close this group is taken for their end. -/
theorem State.withFlags_closing {length : Nat} {flags : Flags} {rest : List Char}
    (h : state.withFlags length flags closing = .ok (next, rest)) :
    rest = closingEnd ∧ next.around = state.around := by
  simp only [State.withFlags, closing] at h
  split at h
  · cases h
  · obtain ⟨rfl, rfl⟩ := Prod.mk.inj (Except.ok.inj h)
    exact ⟨rfl, rfl⟩

theorem State.withFlags_fails {text after afterClosed rest : List Char} {flags : Flags}
    {error : PatternError} (hAfter : Closes after afterClosed)
    (h : state.withFlags text.length flags after = .error error)
    (hClosed : (state.within outer).withFlags (text ++ closing).length flags afterClosed =
      .ok (next, rest)) :
    rest = closingEnd ∧ next.around = state.around ++ outer := by
  cases after with
  | nil =>
    rcases hAfter.nil with rfl | rfl
    · exact State.withFlags_closing hClosed
    · cases hClosed
  | cons c tail =>
    obtain ⟨tailClosed, rfl, hTail⟩ := hAfter.cons
    by_cases hClose : c = ')'
    · subst hClose
      obtain rfl := hAfter.cons_eq
      simp only [State.withFlags, List.length_append, Nat.add_right_cancel_iff,
        Nat.add_right_comm _ _ 1] at h hClosed
      split at h
      · next hLength =>
        rw [if_pos hLength] at hClosed
        cases hClosed
      · cases h
    · simp only [State.withFlags] at h
      cases h

theorem State.setFlags_fails {text rest : List Char} {error : PatternError}
    (h : state.setFlags text = .error error)
    (hClosed : (state.within outer).setFlags (text ++ closing) = .ok (next, rest)) :
    rest = closingEnd ∧ next.around = state.around ++ outer := by
  obtain ⟨⟨flagsClosed, afterClosed⟩, hFlagsClosed, hClosed⟩ := bind_eq_ok.1 hClosed
  rw [State.flags_within] at hFlagsClosed
  rcases bind_eq_error.1 h with hFlags | ⟨⟨flags, after⟩, hFlags, h⟩
  · rcases flags_fails (closes_closing text) hFlags with ⟨error, hFails⟩ | ⟨flags, hEnd⟩
    · rw [hFails] at hFlagsClosed
      cases hFlagsClosed
    · rw [hEnd] at hFlagsClosed
      cases hFlagsClosed
      exact State.withFlags_closing hClosed
  · obtain ⟨afterRead, hFlagsRead, hAfter⟩ :=
      flags_readsOn state.flags [] false (closes_closing text) hFlags
    rw [hFlagsRead] at hFlagsClosed
    cases hFlagsClosed
    exact State.withFlags_fails hAfter h hClosed

theorem State.group_fails {text closed rest : List Char} {error : PatternError}
    (hText : Closes text closed) (h : state.group text = .error error)
    (hClosed : (state.within outer).group closed = .ok (next, rest)) :
    rest = closingEnd ∧ next.around = state.around ++ outer := by
  rcases state.group_closes hText with ⟨-, hFails⟩ |
    ⟨name, nameClosed, hName, hGroup, hGroupClosed⟩ | ⟨more, hGroup, hGroupClosed⟩ |
    ⟨inner, innerClosed, hInner, hGroup, hGroupClosed⟩
  · obtain ⟨error, hError⟩ := hFails outer
    rw [hError] at hClosed
    cases hClosed
  · rw [hGroup] at h
    rw [hGroupClosed] at hClosed
    obtain ⟨error, hError⟩ := State.openNamed_fails outer hName h
    rw [hError] at hClosed
    cases hClosed
  · rw [hGroup] at h
    rw [hGroupClosed] at hClosed
    exact State.setFlags_fails h hClosed
  · rw [hGroup] at h
    cases h

theorem State.next_repeat_fails {least : Nat} {most? : Option Nat} {text closed : List Char}
    {error : PatternError} (outer : List (Level × Flags))
    (h : (do return (← state.repeatLast least most?, text)) =
      (.error error : Outcome (State × List Char))) :
    (do return (← (state.within outer).repeatLast least most?, closed)) =
      (.error error : Outcome (State × List Char)) := by
  rcases bind_eq_error.1 h with hRepeat | ⟨repeated, hRepeat, h⟩
  · rw [State.repeatLast_within_fails outer hRepeat]
    rfl
  · cases h

theorem State.next_brace_fails {text closed : List Char} {error : PatternError}
    (outer : List (Level × Flags)) (hText : Closes text closed)
    (h : state.next '\x7b' text = .error error) :
    ∃ error, (state.within outer).next '\x7b' closed = .error error := by
  have hCanClosed : (state.within outer).canRepeat = state.canRepeat := rfl
  simp only [State.next, hCanClosed, State.flags_within] at h ⊢
  rcases bind_eq_error.1 h with hCan | ⟨_, hCan, h⟩
  · exact ⟨error, by rw [hCan]; rfl⟩
  rcases bind_eq_error.1 h with hBounds | ⟨⟨bounds, after⟩, hBounds, h⟩
  · obtain ⟨error, hFails⟩ := bounds_failsOn state.flags.spaced hText hBounds
    exact ⟨error, by rw [hCan, hFails]; rfl⟩
  · obtain ⟨afterClosed, hRead, -⟩ := bounds_readsOn state.flags.spaced hText hBounds
    simp only [hCan, hRead, ok_bind]
    exact ⟨error, State.next_repeat_fails outer h⟩

theorem State.next_escape_fails {text closed rest : List Char} {error : PatternError}
    (hOuter : outer ≠ []) (hText : Closes text closed)
    (h : state.next '\\' text = .error error)
    (hClosed : (state.within outer).next '\\' closed = .ok (next, rest)) : next.IsLost rest := by
  simp only [State.next, State.flags_within] at h hClosed
  obtain ⟨⟨foundClosed, afterClosed⟩, hEscapeClosed, hClosed⟩ := bind_eq_ok.1 hClosed
  obtain ⟨pattern, hPatternClosed, hClosed⟩ := bind_eq_ok.1 hClosed
  obtain ⟨rfl, rfl⟩ := Prod.mk.inj (Except.ok.inj hClosed)
  rcases bind_eq_error.1 h with hEscape | ⟨⟨found, after⟩, hEscape, h⟩
  · rcases escape_fails hText hEscape with ⟨error, hFails⟩ | ⟨value, hValue⟩ | ⟨more, hMore, hEdge⟩
    · rw [hFails] at hEscapeClosed
      cases hEscapeClosed
    · rw [hValue] at hEscapeClosed
      cases hEscapeClosed
      exact State.isLost_closingEnd (List.append_ne_nil_of_right_ne_nil _ hOuter)
    · rw [hEdge] at hEscapeClosed
      cases hEscapeClosed
      exact State.isLost_brace hMore
  · obtain ⟨afterRead, hEscapeRead, -⟩ := escape_readsOn state.flags.spaced hText hEscape
    rw [hEscapeRead] at hEscapeClosed
    cases hEscapeClosed
    rcases bind_eq_error.1 h with hPattern | ⟨found, -, h⟩
    · rw [hPattern] at hPatternClosed
      cases hPatternClosed
    · cases h

/-- A part that is not read in the text is not read with the closing after it either, or what
    follows it is not, unless a group is closed that is not open. -/
theorem State.next_fails {c : Char} {text closed rest : List Char} {error : PatternError}
    (hOuter : outer ≠ []) (hText : Closes text closed) (h : state.next c text = .error error)
    (hClosed : (state.within outer).next c closed = .ok (next, rest)) :
    error = .unopenedGroup ∨ next.IsLost rest := by
  have hRepeat {least : Nat} {most? : Option Nat} {text closed : List Char}
      (h : (do return (← state.repeatLast least most?, text)) =
        (.error error : Outcome (State × List Char)))
      (hClosed : (do return (← (state.within outer).repeatLast least most?, closed)) =
        (.ok (next, rest) : Outcome _)) : error = .unopenedGroup ∨ next.IsLost rest := by
    rw [State.next_repeat_fails outer h] at hClosed
    cases hClosed
  unfold State.next at h hClosed
  simp only at h
  split at h
  case h_1 =>
    obtain ⟨rfl, hNext⟩ := State.group_fails hText h hClosed
    have hAround : next.around ≠ [] := hNext ▸ List.append_ne_nil_of_right_ne_nil _ hOuter
    exact .inr (State.isLost_closingEnd hAround)
  case h_2 =>
    left
    rcases bind_eq_error.1 h with hLeft | ⟨left, hLeft, h⟩
    · unfold State.closeGroup at hLeft
      split at hLeft <;> cases hLeft
      rfl
    · cases h
  case h_3 => cases h
  case h_4 =>
    rcases bind_eq_error.1 h with hClass | ⟨⟨cls, after⟩, hClass, h⟩
    · obtain ⟨error, hFails⟩ := bracketed_failsOn state.flags hText hClass
      simp only [State.flags_within, hFails] at hClosed
      cases hClosed
    · cases h
  case h_5 => exact hRepeat h hClosed
  case h_6 => exact hRepeat h hClosed
  case h_7 => exact hRepeat h hClosed
  case h_8 =>
    obtain ⟨error, hFails⟩ := State.next_brace_fails outer hText h
    exact nomatch hFails.symm.trans hClosed
  case h_9 => exact .inr (State.next_escape_fails hOuter hText h hClosed)
  case h_10 =>
    rcases bind_eq_error.1 h with hPattern | ⟨pattern, -, h⟩
    · simp only [State.flags_within, hPattern] at hClosed
      cases hClosed
    · cases h
  all_goals cases h

/-! ## Runs -/

/-- The closing closes no group outside of all groups. -/
theorem State.readAll_closing_outside (fuel : Nat) (h : state.around = []) :
    state.readAll (fuel + 1) closing = .error .unopenedGroup := by
  obtain ⟨flags, level, around, names⟩ := state
  subst h
  rw [State.readAll, skip_closing]
  rfl

/-- A text that is not read to its end is not read with the closing after it either so that all
    groups are closed, unless a group is closed that is not open. -/
theorem State.readAll_fails {fuel : Nat} {text closed : List Char} {error : PatternError}
    (hOuter : outer ≠ []) (hFuel : text.length < fuel) (hText : Closes text closed)
    (h : state.readAll fuel text = .error error) :
    error = .unopenedGroup ∨ (state.within outer).IsLost closed := by
  induction fuel generalizing state text closed with
  | zero => cases hFuel
  | succ fuel ih =>
    cases hPast : skip state.flags.spaced text with
    | nil =>
      simp only [State.readAll, hPast] at h
      cases h
    | cons c rest =>
      obtain ⟨restClosed, hPastClosed, -, hRest⟩ := skip_closes_cons hText hPast
      have hShorter : rest.length < fuel :=
        (length_lt_of_skip hPast).trans_le (Nat.le_of_lt_succ hFuel)
      simp only [State.readAll, hPast] at h
      rcases bind_eq_error.1 h with hNext | ⟨⟨next, after⟩, hNext, h⟩
      · by_cases hGroup : error = .unopenedGroup
        · exact .inl hGroup
        refine .inr (State.isLost_of_next hPastClosed fun next after hClosed => ?_)
        exact (State.next_fails hOuter hRest hNext hClosed).resolve_left hGroup
      · obtain ⟨afterClosed, hNextClosed, hAfter⟩ := State.next_within hRest hNext
        have hLength := (next_leavesEnd state c hNext).length_le.trans_lt hShorter
        refine (ih hLength hAfter h).imp_right fun hLost => ?_
        refine State.isLost_of_next hPastClosed fun found last hFound => ?_
        rw [hNextClosed] at hFound
        cases hFound
        exact hLost

end JavaImports.Written

namespace JavaImports.Pattern

open Written

/-- Whether a text is the written form of a pattern. -/
def IsWritten (text : String) : Prop :=
  ∃ pattern, ofWritten text = .ok pattern

variable {text : String}

theorem isWritten_iff : IsWritten text ↔ ∃ last,
    (⟨{}, .empty, [], []⟩ : State).readAll (text.toList.length + 1) text.toList = .ok last ∧
      last.around = [] := by
  unfold IsWritten ofWritten
  constructor
  · rintro ⟨pattern, h⟩
    obtain ⟨last, hLast, h⟩ := bind_eq_ok.1 h
    split at h
    · next hAround => exact ⟨last, hLast, List.isEmpty_iff.1 hAround⟩
    · cases h
  · rintro ⟨last, hLast, hAround⟩
    refine ⟨last.level.pattern, bind_eq_ok.2 ⟨last, hLast, ?_⟩⟩
    simp only [hAround]
    rfl

theorem isWritten_anchored_iff_readAll : IsWritten (SymbolFilter.anchored text) ↔ ∃ last,
    ((⟨{}, .empty, [], []⟩ : State).within [anchoredGroup]).readAll
      (text.toList.length + 1 + 2 + 2) (text.toList ++ closing) = .ok last ∧ last.around = [] := by
  rw [isWritten_iff, readAll_anchored]

/-- A pattern can be read between anchors unless it swallows the closing. If it does, it also is a
    pattern with the closing after it, and else it is not, since the closing then closes a group
    that is not open. -/
theorem isWritten_anchored_iff (h : IsWritten text) :
    IsWritten (SymbolFilter.anchored text) ↔ ¬ IsWritten (text ++ ")$") := by
  obtain ⟨last, hLast, hAround⟩ := isWritten_iff.1 h
  have hChars : (text ++ ")$").toList = text.toList ++ closing := by simp [closing]
  have hLength : (text ++ ")$").toList.length + 1 = text.toList.length + 1 + 0 + 2 := by
    simp [hChars, closing]
  rw [isWritten_anchored_iff_readAll, isWritten_iff, hLength, hChars]
  rcases State.readAll_within (closes_closing _) hLast with hSwallowed | hClosing
  · have hAlone := hSwallowed 0 []
    simp only [State.within_nil] at hAlone
    refine iff_of_false ?_ (not_not.2 ⟨last, hAlone, hAround⟩)
    rintro ⟨found, hFound, hNil⟩
    rw [hSwallowed 2] at hFound
    obtain rfl := Except.ok.inj hFound
    simp at hNil
  · refine iff_of_true ?_ ?_
    · obtain ⟨more, hClosing⟩ := hClosing 2
      exact ⟨_, (hClosing _).trans (readAll_closing more hAround), rfl⟩
    · rintro ⟨found, hFound, -⟩
      obtain ⟨more, hClosing⟩ := hClosing 0
      have hAlone := hClosing []
      simp only [State.within_nil] at hAlone
      rw [hAlone, State.readAll_closing_outside _ hAround] at hFound
      cases hFound

/-- A text that is no pattern can be read between anchors only if it closes a group that it has not
    opened. -/
theorem unopenedGroup_of_isWritten_anchored (h : ¬ IsWritten text)
    (hAnchored : IsWritten (SymbolFilter.anchored text)) :
    ofWritten text = .error .unopenedGroup := by
  obtain ⟨found, hFound, hNil⟩ := isWritten_anchored_iff_readAll.1 hAnchored
  cases hRead : (⟨{}, .empty, [], []⟩ : State).readAll (text.toList.length + 1) text.toList with
  | error error =>
    rcases State.readAll_fails (List.cons_ne_nil anchoredGroup []) (Nat.lt_succ_self _)
      (closes_closing _) hRead with rfl | hLost
    · unfold ofWritten
      simp only [hRead]
      rfl
    · exact absurd hNil (hLost _ found hFound)
  | ok last =>
    have hAround : last.around ≠ [] := fun hAround => h (isWritten_iff.2 ⟨last, hRead, hAround⟩)
    rcases State.readAll_within (closes_closing _) hRead with hSwallowed | hClosing
    · rw [hSwallowed 2] at hFound
      obtain rfl := Except.ok.inj hFound
      simp at hNil
    · obtain ⟨more, hClosing⟩ := hClosing 2
      rw [hClosing] at hFound
      have hOpen : 2 ≤ (last.within [anchoredGroup]).around.length := by
        simp only [State.around_within, List.length_append, List.length_singleton]
        have := List.length_pos_iff.2 hAround
        omega
      exact absurd hNil (State.isLost_closing hOpen _ found hFound)

end JavaImports.Pattern
