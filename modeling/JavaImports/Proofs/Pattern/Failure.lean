-- SUMMARY: What cannot be read of a text cannot be read with a closing after the text either.
import JavaImports.Proofs.Pattern.Remainder

/-! # Reading in vain

A reader that fails on a text fails with the closing after it, too, unless it comes to the closing.
There it takes the parenthesis, and the sign for the end is all that is left; or it stops before the
closing, or at a brace before it, and what has to follow is not there. Numbers, names and whole
classes fail in any case. -/

namespace JavaImports.Written

/-- Whether a reader that fails on a text also fails with the closing after it. -/
def FailsOn (read : List Char → Outcome (α × List Char)) : Prop :=
  ∀ {text closed : List Char} {error : PatternError}, Closes text closed →
    read text = .error error → ∃ error, read closed = .error error

/-- What is left of the closing after its parenthesis. -/
def closingEnd : List Char := ['$']

@[simp] theorem skip_closingEnd (spaced : Bool) : skip spaced closingEnd = closingEnd := by
  cases spaced <;> rfl

theorem skip_brace (spaced : Bool) (text : List Char) :
    skip spaced ('\x7b' :: text) = '\x7b' :: text := by
  cases spaced <;> rfl

theorem bind_eq_error {x : Outcome α} {f : α → Outcome β} {error : PatternError} :
    x >>= f = .error error ↔ x = .error error ∨ ∃ a, x = .ok a ∧ f a = .error error := by
  cases x <;> simp [bind, Except.bind]

/-- A text that is all gap leaves the closing, or nothing if a comment swallows it. -/
theorem skip_closes_nil {spaced : Bool} {text closed : List Char} (h : Closes text closed)
    (hPast : skip spaced text = []) : skip spaced closed = closing ∨ skip spaced closed = [] := by
  have hSkip := skip_closes h spaced
  rw [hPast] at hSkip
  exact hSkip.nil

/-! ## Numbers -/

theorem number?_failsOn (spaced : Bool) : FailsOn (number? spaced) := by
  intro text closed error hText h
  unfold number? at h ⊢
  simp only [digits_eq_takeGapped] at h ⊢
  rcases hDigits : takeGapped Char.isDigit spaced text.length (text.dropWhile Unicode.isBlank) with
    ⟨ds, after⟩
  obtain ⟨afterClosed, hDigitsClosed, -⟩ :=
    takeGapped_closes (by decide) spaced (dropBlanks_closes hText)
      (List.dropWhile_sublist ..).length_le (List.dropWhile_sublist ..).length_le hDigits
  simp only [hDigits] at h
  simp only [hDigitsClosed]
  split at h
  · cases h
  · next hSome =>
    rw [if_neg hSome]
    split at h
    · next hLimit => exact ⟨_, if_pos hLimit⟩
    · cases h

theorem upperCount_failsOn (spaced : Bool) (first : Option Nat) :
    FailsOn (upperCount spaced first) := by
  intro text closed error hText h
  unfold upperCount at h ⊢
  cases hPast : skip spaced text with
  | nil =>
    rcases skip_closes_nil hText hPast with hClosed | hClosed <;> simp only [hClosed]
    · cases first with
      | none => exact ⟨_, rfl⟩
      | some n => exact ⟨.missingCount, by cases spaced <;> rfl⟩
    · exact ⟨_, rfl⟩
  | cons c more =>
    obtain ⟨moreClosed, hPastClosed, hSkip, -⟩ := skip_closes_cons hText hPast
    simp only [hPast] at h
    simp only [hPastClosed]
    by_cases hBrace : c = '\x7d'
    · subst hBrace
      simp only at h ⊢
      rcases bind_eq_error.1 h with hCount | ⟨n, hCount, h⟩
      · exact ⟨_, by rw [hCount]; rfl⟩
      · cases h
    · simp only [List.cons.injEq, hBrace, false_and, imp_self, implies_true] at h ⊢
      rcases bind_eq_error.1 h with hLeast | ⟨least, hLeast, h⟩
      · exact ⟨_, by rw [hLeast]; rfl⟩
      simp only [hLeast, ok_bind]
      rcases bind_eq_error.1 h with hSecond | ⟨⟨second, last⟩, hSecond, h⟩
      · obtain ⟨error, hClosed⟩ := number?_failsOn spaced hSkip hSecond
        exact ⟨error, by rw [hClosed]; rfl⟩
      obtain ⟨lastClosed, hSecondClosed, -⟩ := number?_readsOn spaced hSkip hSecond
      simp only [hSecondClosed, ok_bind]
      rcases bind_eq_error.1 h with hMost | ⟨most, hMost, h⟩
      · exact ⟨_, by rw [hMost]; rfl⟩
      · cases h

/-- A repetition that is not closed in the text may get up to the closing. -/
theorem countRange_fails {spaced : Bool} {text closed : List Char} {error : PatternError}
    (hText : Closes text closed) (h : countRange spaced text = .error error) :
    (∃ error, countRange spaced closed = .error error) ∨
      ∃ range, countRange spaced closed = .ok (range, closing) := by
  rw [countRange_eq] at h ⊢
  rcases bind_eq_error.1 h with hFirst | ⟨⟨first, after⟩, hFirst, h⟩
  · obtain ⟨error, hClosed⟩ := number?_failsOn spaced hText hFirst
    exact .inl ⟨error, by rw [hClosed]; rfl⟩
  obtain ⟨afterClosed, hFirstClosed, hAfter⟩ := number?_readsOn spaced hText hFirst
  simp only [hFirstClosed, ok_bind]
  cases after with
  | nil =>
    rcases hAfter.nil with rfl | rfl
    · cases first with
      | none => exact .inl ⟨_, rfl⟩
      | some n => exact .inr ⟨_, rfl⟩
    · exact .inl ⟨_, rfl⟩
  | cons c more =>
    obtain ⟨moreClosed, rfl, hMore⟩ := hAfter.cons
    by_cases hComma : c = ','
    · subst hComma
      exact .inl (upperCount_failsOn spaced first hMore h)
    · simp only [List.cons.injEq, hComma, false_and, imp_self, implies_true] at h ⊢
      rcases bind_eq_error.1 h with hCount | ⟨n, hCount, h⟩
      · exact .inl ⟨_, by rw [hCount]; rfl⟩
      · cases h

theorem bounds_closing (spaced : Bool) {text : List Char} (h : skip spaced text = closing) :
    bounds spaced text = .error .missingCount := by
  unfold bounds
  rw [h]
  cases spaced <;> rfl

theorem bounds_failsOn (spaced : Bool) : FailsOn (bounds spaced) := by
  intro text closed error hText h
  cases hPast : skip spaced text with
  | nil =>
    rcases skip_closes_nil hText hPast with hClosed | hClosed
    · exact ⟨_, bounds_closing spaced hClosed⟩
    · exact ⟨.unclosedRepetition, by simp [bounds, hClosed]⟩
  | cons c more =>
    obtain ⟨moreClosed, hPastClosed, hSkip, hMore⟩ := skip_closes_cons hText hPast
    unfold bounds at h ⊢
    simp only [hPast, List.isEmpty_cons, Bool.false_eq_true, if_false] at h
    simp only [hPastClosed, List.isEmpty_cons, Bool.false_eq_true, if_false]
    rcases bind_eq_error.1 h with hRange | ⟨⟨range, after⟩, hRange, h⟩
    · rcases countRange_fails hSkip hRange with ⟨error, hClosed⟩ | ⟨range, hClosed⟩
      · exact ⟨error, by rw [hClosed]; rfl⟩
      · exact ⟨.unclosedRepetition, by rw [hClosed]; rfl⟩
    obtain ⟨afterClosed, hRangeClosed, hAfter⟩ := countRange_readsOn spaced hSkip hRange
    simp only [hRangeClosed, ok_bind]
    cases after with
    | nil =>
      rcases hAfter.nil with rfl | rfl <;> exact ⟨_, rfl⟩
    | cons d last =>
      obtain ⟨lastClosed, rfl, hLast⟩ := hAfter.cons
      by_cases hBrace : d = '\x7d'
      · subst hBrace
        simp only at h ⊢
        split at h
        · cases h
        · next hBounds => exact ⟨_, if_neg hBounds⟩
      · simp only [List.cons.injEq, hBrace, false_and, imp_self, implies_true]
        exact ⟨_, rfl⟩

/-! ## Escapes -/

theorem fixedHex_failsOn (spaced : Bool) (n value : Nat) : FailsOn (fixedHex spaced n value) := by
  intro text closed error hText h
  induction n generalizing text closed value with
  | zero => cases h
  | succ n ih =>
    cases text with
    | nil => rcases hText.nil with rfl | rfl <;> exact ⟨_, rfl⟩
    | cons c more =>
      obtain ⟨moreClosed, rfl, hMore⟩ := hText.cons
      simp only [fixedHex] at h ⊢
      split at h
      · exact ih _ (skip_closes hMore spaced) h
      · exact ⟨_, rfl⟩

/-- What stands behind a gap is shorter than a text with the gap. -/
theorem length_lt_of_skip {spaced : Bool} {c : Char} {text more : List Char}
    (h : skip spaced text = c :: more) : more.length < text.length := by
  have hLength := (skip_suffix spaced text).length_le
  rw [h, List.length_cons] at hLength
  exact hLength

theorem bracedHex_fails {spaced : Bool} {fuel fuelClosed read value : Nat}
    {text closed : List Char} {error : PatternError} (hFuel : text.length < fuel)
    (hText : Closes text closed) (h : bracedHex spaced fuel read value text = .error error) :
    ∃ error, bracedHex spaced fuelClosed read value closed = .error error := by
  induction fuel generalizing fuelClosed read value text closed with
  | zero => cases hFuel
  | succ fuel ih =>
    cases fuelClosed with
    | zero => exact ⟨_, rfl⟩
    | succ fuelClosed =>
      simp only [bracedHex] at h ⊢
      cases hPast : skip spaced text with
      | nil =>
        rcases skip_closes_nil hText hPast with hClosed | hClosed <;>
          simp only [hClosed] <;> exact ⟨_, rfl⟩
      | cons c more =>
        obtain ⟨moreClosed, hPastClosed, -, hMore⟩ := skip_closes_cons hText hPast
        have hShorter := length_lt_of_skip hPast
        simp only [hPast] at h
        simp only [hPastClosed]
        by_cases hBrace : c = '\x7d'
        · subst hBrace
          simp only at h ⊢
          split at h
          · next hRead => exact ⟨_, if_pos hRead⟩
          · cases h
        · simp only at h ⊢
          split at h
          · exact ih (by omega) hMore h
          · exact ⟨_, rfl⟩

theorem hexEscape_failsOn (spaced : Bool) (width : Nat) :
    FailsOn (hexEscape spaced (width + 1)) := by
  intro text closed error hText h
  unfold hexEscape at h ⊢
  cases hPast : skip spaced text with
  | nil =>
    rcases skip_closes_nil hText hPast with hClosed | hClosed <;>
      simp only [hClosed] <;> exact ⟨_, rfl⟩
  | cons c more =>
    obtain ⟨moreClosed, hPastClosed, hSkip, hMore⟩ := skip_closes_cons hText hPast
    simp only [hPast] at h
    simp only [hPastClosed]
    by_cases hBrace : c = '\x7b'
    · subst hBrace
      simp only at h ⊢
      rcases bind_eq_error.1 h with hCode | ⟨⟨code, after⟩, hCode, h⟩
      · obtain ⟨error, hClosed⟩ := bracedHex_fails (Nat.lt_succ_self _) hMore hCode
        exact ⟨error, by rw [hClosed]; rfl⟩
      have hFuel := Nat.succ_le_succ hMore.length_le
      obtain ⟨afterClosed, hCodeClosed, -⟩ := bracedHex_readsOn spaced hFuel hMore hCode
      simp only [hCodeClosed, ok_bind]
      rcases bind_eq_error.1 h with hChar | ⟨char, hChar, h⟩
      · exact ⟨_, by rw [hChar]; rfl⟩
      · cases h
    · simp only [List.cons.injEq, hBrace, false_and, imp_self, implies_true] at h ⊢
      rcases bind_eq_error.1 h with hCode | ⟨⟨code, after⟩, hCode, h⟩
      · obtain ⟨error, hClosed⟩ := fixedHex_failsOn spaced _ 0 hSkip hCode
        exact ⟨error, by rw [hClosed]; rfl⟩
      obtain ⟨afterClosed, hCodeClosed, -⟩ := fixedHex_readsOn spaced _ 0 hSkip hCode
      simp only [hCodeClosed, ok_bind]
      rcases bind_eq_error.1 h with hChar | ⟨char, hChar, h⟩
      · exact ⟨_, by rw [hChar]; rfl⟩
      · cases h

/-- A name ends at a brace. -/
theorem brace_mem_of_untilBrace {spaced : Bool} {fuel : Nat} {text name rest : List Char}
    (h : untilBrace spaced fuel text = .ok (name, rest)) : '\x7d' ∈ skip spaced text := by
  induction fuel generalizing text name with
  | zero => cases h
  | succ fuel ih =>
    simp only [untilBrace] at h
    split at h
    · cases h
    · next more hPast => simp [hPast]
    · next c more hBrace hPast =>
      obtain ⟨⟨chars, after⟩, hChars, h⟩ := bind_eq_ok.1 h
      obtain ⟨rfl, rfl⟩ := Prod.mk.inj (Except.ok.inj h)
      rw [hPast]
      exact List.mem_cons_of_mem c ((skip_suffix spaced more).subset (ih hChars))

theorem untilBrace_fails {spaced : Bool} {fuel fuelClosed : Nat} {text closed : List Char}
    {error : PatternError} (hFuel : text.length < fuel) (hText : Closes text closed)
    (h : untilBrace spaced fuel text = .error error) :
    ∃ error, untilBrace spaced fuelClosed closed = .error error := by
  induction fuel generalizing fuelClosed text closed error with
  | zero => cases hFuel
  | succ fuel ih =>
    cases hPast : skip spaced text with
    | nil =>
      cases hRead : untilBrace spaced fuelClosed closed with
      | error error => exact ⟨error, rfl⟩
      | ok found =>
        have hBrace := brace_mem_of_untilBrace hRead
        rcases skip_closes_nil hText hPast with hClosed | hClosed <;>
          simp [hClosed, closing] at hBrace
    | cons c more =>
      obtain ⟨moreClosed, hPastClosed, -, hMore⟩ := skip_closes_cons hText hPast
      have hShorter := length_lt_of_skip hPast
      cases fuelClosed with
      | zero => exact ⟨_, rfl⟩
      | succ fuelClosed =>
        simp only [untilBrace, hPast] at h
        simp only [untilBrace, hPastClosed]
        by_cases hBrace : c = '\x7d'
        · subst hBrace
          cases h
        · simp only at h ⊢
          rcases bind_eq_error.1 h with hChars | ⟨⟨chars, after⟩, hChars, h⟩
          · obtain ⟨error, hClosed⟩ := @ih fuelClosed more moreClosed _ (by omega) hMore hChars
            exact ⟨error, by rw [hClosed]; rfl⟩
          · cases h

/-- The name of a set that is missing in the text may be taken from the closing. -/
theorem propertyEscape_fails {spaced outside : Bool} {text closed : List Char}
    {error : PatternError} (hText : Closes text closed)
    (h : propertyEscape spaced outside text = .error error) :
    (∃ error, propertyEscape spaced outside closed = .error error) ∨
      ∃ value, propertyEscape spaced outside closed = .ok (value, closingEnd) := by
  unfold propertyEscape at h ⊢
  cases hPast : skip spaced text with
  | nil =>
    rcases skip_closes_nil hText hPast with hClosed | hClosed
    · have hEnd : skip spaced ['$'] = closingEnd := skip_closingEnd spaced
      simp only [hClosed, closing, Char.reduceEq, imp_self, hEnd]
      cases Unicode.setNamed? (String.ofList [')']) with
      | none => exact .inl ⟨_, rfl⟩
      | some set => exact .inr ⟨.property set outside, rfl⟩
    · simp only [hClosed]
      exact .inl ⟨_, rfl⟩
  | cons c more =>
    obtain ⟨moreClosed, hPastClosed, hSkip, hMore⟩ := skip_closes_cons hText hPast
    refine .inl ?_
    simp only [hPast] at h
    simp only [hPastClosed]
    by_cases hBrace : c = '\x7b'
    · subst hBrace
      simp only at h ⊢
      rcases bind_eq_error.1 h with hName | ⟨⟨name, after⟩, hName, h⟩
      · obtain ⟨error, hClosed⟩ := untilBrace_fails (Nat.lt_succ_self _) hMore hName
        exact ⟨error, by rw [hClosed]; rfl⟩
      have hFuel := Nat.succ_le_succ hMore.length_le
      obtain ⟨afterClosed, hNameClosed, -⟩ := untilBrace_readsOn spaced hFuel hMore hName
      simp only [hNameClosed, ok_bind]
      rcases bind_eq_error.1 h with hSet | ⟨⟨set, other⟩, hSet, h⟩
      · exact ⟨_, by rw [hSet]; rfl⟩
      · cases h
    · by_cases hBackslash : c = '\\'
      · subst hBackslash
        exact ⟨_, rfl⟩
      · simp only at h ⊢
        split at h
        · cases h
        · exact ⟨_, rfl⟩

theorem namedEdge_failsOn (spaced : Bool) : FailsOn (namedEdge spaced) := by
  intro text closed error hText h
  unfold namedEdge at h ⊢
  rcases hName : edgeName spaced text.length text with ⟨name, after⟩
  obtain ⟨afterClosed, hNameClosed, hAfter⟩ := edgeName_closes spaced hText hName
  simp only [hName] at h
  simp only [hNameClosed]
  cases after with
  | nil => rcases hAfter.nil with rfl | rfl <;> exact ⟨_, rfl⟩
  | cons c last =>
    obtain ⟨lastClosed, rfl, -⟩ := hAfter.cons
    by_cases hEnd : c = '\x7d'
    · subst hEnd
      simp only at h ⊢
      rcases bind_eq_error.1 h with hEdge | ⟨edge, hEdge, h⟩
      · exact ⟨_, by rw [hEdge]; rfl⟩
      · cases h
    · simp only [List.cons.injEq, hEnd, false_and, imp_self, implies_true]
      exact ⟨_, rfl⟩

/-- A brace after the sign of a word edge may be taken for the beginning of a repetition. -/
theorem wordEdge_fails {spaced : Bool} {text closed : List Char} {error : PatternError}
    (hText : Closes text closed) (h : wordEdge spaced text = .error error) :
    (∃ error, wordEdge spaced closed = .error error) ∨
      ∃ more, skip spaced more = closing ∧
        wordEdge spaced closed = .ok (.wordEdge, '\x7b' :: more) := by
  rw [wordEdge_eq] at h ⊢
  cases text with
  | nil => cases h
  | cons c more =>
    obtain ⟨moreClosed, rfl, hMore⟩ := hText.cons
    by_cases hBrace : c = '\x7b'
    · subst hBrace
      cases hPast : skip spaced more with
      | nil =>
        rcases skip_closes_nil hMore hPast with hClosed | hClosed
        · exact .inr ⟨moreClosed, hClosed, by simp only [hClosed, closing]; rfl⟩
        · exact .inl ⟨.unclosedWordEdge, by simp only [hClosed]⟩
      | cons d inner =>
        obtain ⟨innerClosed, hPastClosed, hSkip, -⟩ := skip_closes_cons hMore hPast
        refine .inl ?_
        simp only [hPast] at h
        simp only [hPastClosed]
        split at h
        · next hLetter =>
          rw [if_pos hLetter]
          exact namedEdge_failsOn spaced hSkip h
        · cases h
    · simp only [List.cons.injEq, hBrace, false_and, imp_self, implies_true] at h
      cases h

/-- What may become of an escape that the text breaks off: the parenthesis may be escaped or taken
    for a name, or a brace may be left for a repetition. -/
theorem escape_fails {spaced : Bool} {text closed : List Char} {error : PatternError}
    (hText : Closes text closed) (h : escape spaced text = .error error) :
    (∃ error, escape spaced closed = .error error) ∨
      (∃ value, escape spaced closed = .ok (value, closingEnd)) ∨
      ∃ more, skip spaced more = closing ∧
        escape spaced closed = .ok (.wordEdge, '\x7b' :: more) := by
  cases text with
  | nil =>
    rcases hText.nil with rfl | rfl
    · exact .inr (.inl ⟨_, rfl⟩)
    · exact .inl ⟨_, rfl⟩
  | cons c more =>
    obtain ⟨moreClosed, rfl, hMore⟩ := hText.cons
    simp only [escape] at h ⊢
    split at h
    · next hDigit => exact .inl ⟨_, if_pos hDigit⟩
    · next hDigit =>
      rw [if_neg hDigit]
      split at h
      · cases h
      · next hEscapable =>
        rw [if_neg hEscapable]
        split at h
        · exact .inl (hexEscape_failsOn spaced 1 hMore h)
        · exact .inl (hexEscape_failsOn spaced 3 hMore h)
        · exact .inl (hexEscape_failsOn spaced 7 hMore h)
        · exact (propertyEscape_fails hMore h).imp_right .inl
        · exact (propertyEscape_fails hMore h).imp_right .inl
        case h_20 => exact (wordEdge_fails hMore h).imp_right .inr
        case h_24 => exact .inl ⟨_, rfl⟩
        all_goals cases h

/-! ## Flags and names -/

/-- Flags that end with the text are ended by the closing. -/
theorem flags_fails {current : Flags} {seen : List Char} {dangling : Bool}
    {text closed : List Char} {error : PatternError} (hText : Closes text closed)
    (h : flags current seen dangling text = .error error) :
    (∃ error, flags current seen dangling closed = .error error) ∨
      ∃ next, flags current seen dangling closed = .ok (next, closing) := by
  induction text generalizing closed current seen dangling with
  | nil =>
    rcases hText.nil with rfl | rfl
    · cases dangling with
      | false => exact .inr ⟨_, rfl⟩
      | true => exact .inl ⟨_, rfl⟩
    · exact .inl ⟨_, rfl⟩
  | cons c more ih =>
    obtain ⟨moreClosed, rfl, hMore⟩ := hText.cons
    simp only [flags] at h ⊢
    split at h
    · next hEnd =>
      rw [if_pos hEnd]
      split at h
      · next hDangling => exact .inl ⟨_, if_pos hDangling⟩
      · cases h
    · next hEnd =>
      rw [if_neg hEnd]
      split at h
      · next hDash =>
        rw [if_pos hDash]
        split at h
        · next hSeen => exact .inl ⟨_, if_pos hSeen⟩
        · next hSeen =>
          rw [if_neg hSeen]
          exact ih hMore h
      · next hDash =>
        rw [if_neg hDash]
        split at h
        · exact .inl ⟨_, rfl⟩
        · split at h
          · next hSeen => exact .inl ⟨_, if_pos hSeen⟩
          · next hSeen =>
            rw [if_neg hSeen]
            exact ih hMore h

theorem groupName_failsOn (first : Bool) : FailsOn (groupName first) := by
  intro text closed error hText h
  induction text generalizing closed first error with
  | nil =>
    rcases hText.nil with rfl | rfl
    · cases first <;> exact ⟨.invalidGroupName, by decide +kernel⟩
    · exact ⟨_, rfl⟩
  | cons c more ih =>
    obtain ⟨moreClosed, rfl, hMore⟩ := hText.cons
    simp only [groupName] at h ⊢
    split at h
    · next hAngle =>
      rw [if_pos hAngle]
      split at h
      · next hFirst => exact ⟨_, if_pos hFirst⟩
      · cases h
    · next hAngle =>
      rw [if_neg hAngle]
      split at h
      · next hChar =>
        rw [if_pos hChar]
        rcases bind_eq_error.1 h with hName | ⟨⟨name, after⟩, hName, h⟩
        · obtain ⟨error, hClosed⟩ := ih false hMore hName
          exact ⟨error, by rw [hClosed]; rfl⟩
        · cases h
      · next hChar => exact ⟨_, if_neg hChar⟩

/-! ## Classes -/

/-- A class ends at a bracket. -/
theorem bracket_mem_of_classFrom {flags : Flags} {fuel : Nat} {current : OpenClass}
    {around : List OpenClass} {text rest : List Char} {cls : CharClass}
    (h : classFrom flags fuel current around text = .ok (cls, rest)) :
    ']' ∈ skip flags.spaced text := by
  induction fuel generalizing current around text with
  | zero => cases h
  | succ fuel ih =>
    have hLater {c : Char} {more after : List Char} (hAfter : after <:+ more)
        (hMem : ']' ∈ skip flags.spaced after) : ']' ∈ c :: more :=
      List.mem_cons_of_mem c (((skip_suffix flags.spaced after).trans hAfter).subset hMem)
    simp only [classFrom] at h
    split at h
    · cases h
    · next more hPast =>
      rw [hPast]
      split at h
      · next ranges outside after hNamed =>
        obtain ⟨named, hOutside, h⟩ := bind_eq_ok.1 h
        exact hLater (asciiClass?_suffix hNamed) (ih h)
      · obtain ⟨⟨inner, after⟩, hInner, h⟩ := bind_eq_ok.1 h
        exact hLater (openClass_leavesEnd flags.spaced hInner) (ih h)
    · next more hPast => simp [hPast]
    · next more hPast =>
      rw [hPast]
      exact hLater (List.suffix_cons ..) (ih h)
    · next more hPast =>
      rw [hPast]
      exact hLater (List.suffix_cons ..) (ih h)
    · next more hPast =>
      rw [hPast]
      exact hLater (List.suffix_cons ..) (ih h)
    · next hNil hOpen hClose hAnd hMinus hOr =>
      obtain ⟨⟨members, after⟩, hMembers, h⟩ := bind_eq_ok.1 h
      have hAfter := (classMember_leavesEnd hMembers).trans (List.tail_suffix _)
      exact ((skip_suffix flags.spaced after).trans hAfter).subset (ih h)

/-- Nothing of the closing ends a class. -/
theorem classFrom_closing (flags : Flags) (fuel : Nat) (current : OpenClass)
    (around : List OpenClass) {text : List Char} (hText : skip flags.spaced text <:+ closing) :
    ∃ error, classFrom flags fuel current around text = .error error := by
  cases hRead : classFrom flags fuel current around text with
  | error error => exact ⟨error, rfl⟩
  | ok found => exact absurd (hText.subset (bracket_mem_of_classFrom hRead)) (by decide)

theorem leadingMembers_fails {spaced : Bool} {fuel fuelClosed : Nat} {members : CharClass}
    {first : Bool} {text closed : List Char} {error : PatternError} (hFuel : text.length < fuel)
    (hText : Closes text closed)
    (h : leadingMembers spaced fuel members first text = .error error) :
    (∃ error, leadingMembers spaced fuelClosed members first closed = .error error) ∨
      ∃ found, leadingMembers spaced fuelClosed members first closed = .ok (found, closing) := by
  induction fuel generalizing fuelClosed members first text closed with
  | zero => cases hFuel
  | succ fuel ih =>
    cases fuelClosed with
    | zero => exact .inl ⟨_, rfl⟩
    | succ fuelClosed =>
      cases text with
      | nil =>
        rcases hText.nil with rfl | rfl
        · exact .inr ⟨members, rfl⟩
        · exact .inl ⟨_, rfl⟩
      | cons c more =>
        obtain ⟨moreClosed, rfl, hMore⟩ := hText.cons
        by_cases hDash : c = '-'
        · subst hDash
          have hShorter : (skip spaced more).length < fuel :=
            (skip_suffix spaced more).length_le.trans_lt (Nat.lt_of_succ_lt_succ hFuel)
          simp only [leadingMembers] at h ⊢
          exact ih hShorter (skip_closes hMore spaced) h
        · by_cases hBracket : c = ']'
          · subst hBracket
            simp only [leadingMembers] at h ⊢
            split at h
            · next hFirst =>
              rw [if_pos hFirst]
              split at h
              · next hPast =>
                rcases skip_closes_nil hMore hPast with hClosed | hClosed
                · exact .inr ⟨_, by rw [hClosed]; rfl⟩
                · exact .inl ⟨_, by rw [hClosed]⟩
              · cases h
            · cases h
          · simp only [leadingMembers, List.cons.injEq, hDash, hBracket, false_and, imp_self,
              implies_true] at h
            cases h

theorem classOpened_fails {spaced complement : Bool} {text closed : List Char}
    {error : PatternError} (hText : Closes text closed)
    (h : classOpened spaced complement text = .error error) :
    (∃ error, classOpened spaced complement closed = .error error) ∨
      ∃ cls, classOpened spaced complement closed = .ok (cls, closing) := by
  unfold classOpened at h ⊢
  rcases bind_eq_error.1 h with hFails | ⟨found, hFound, h⟩
  · rcases leadingMembers_fails (Nat.lt_succ_self _) hText hFails with
      ⟨error, hClosed⟩ | ⟨found, hClosed⟩
    · exact .inl ⟨error, by rw [hClosed]; rfl⟩
    · exact .inr ⟨_, by rw [hClosed]; rfl⟩
  · cases h

/-- The beginning of a class that goes on to the end of the text goes on to the closing. -/
theorem openClass_fails {spaced : Bool} {text closed : List Char} {error : PatternError}
    (hText : Closes text closed) (h : openClass spaced text = .error error) :
    (∃ error, openClass spaced closed = .error error) ∨
      ∃ cls, openClass spaced closed = .ok (cls, closing) := by
  obtain ⟨complement, inner, innerClosed, hInner, -, hOpen, hOpenClosed⟩ :=
    openClass_closes spaced hText
  rw [hOpen] at h
  rw [hOpenClosed]
  exact classOpened_fails hInner h

theorem classAtom_fails {flags : Flags} {text closed : List Char} {error : PatternError}
    (hText : Closes text closed) (h : classAtom flags text = .error error) :
    (∃ error, classAtom flags closed = .error error) ∨
      (∃ value, classAtom flags closed = .ok (value, closingEnd)) ∨
      ∃ more, classAtom flags closed = .ok (.wordEdge, '\x7b' :: more) := by
  cases text with
  | nil =>
    rcases hText.nil with rfl | rfl
    · exact .inr (.inl ⟨_, rfl⟩)
    · exact .inl ⟨_, rfl⟩
  | cons c more =>
    obtain ⟨moreClosed, rfl, hMore⟩ := hText.cons
    by_cases hBackslash : c = '\\'
    · subst hBackslash
      rcases escape_fails hMore h with hError | hEnd | ⟨more, -, hEdge⟩
      · exact .inl hError
      · exact .inr (.inl hEnd)
      · exact .inr (.inr ⟨more, hEdge⟩)
    · simp only [classAtom] at h
      cases h

/-- A range without an end in the text takes its end from the closing. -/
theorem rangeFrom_fails {flags : Flags} {first : Escape} {text closed rest : List Char}
    {error : PatternError} {members : CharClass} (hText : Closes text closed)
    (h : rangeFrom flags first text = .error error)
    (hClosed : rangeFrom flags first closed = .ok (members, rest)) : rest = closingEnd := by
  unfold rangeFrom at h hClosed
  cases hPast : skip flags.spaced text with
  | nil =>
    rcases skip_closes_nil hText hPast with hPastClosed | hPastClosed
    · simp only [hPastClosed, closing] at hClosed
      obtain ⟨⟨second, last⟩, hSecond, hClosed⟩ := bind_eq_ok.1 hClosed
      cases hSecond
      obtain ⟨low, hLow, hClosed⟩ := bind_eq_ok.1 hClosed
      obtain ⟨high, hHigh, hClosed⟩ := bind_eq_ok.1 hClosed
      split at hClosed
      · cases hClosed
      · cases hClosed
        rfl
    · simp only [hPastClosed] at hClosed
      cases hClosed
  | cons c more =>
    obtain ⟨moreClosed, hPastClosed, hSkip, -⟩ := skip_closes_cons hText hPast
    simp only [hPast] at h
    simp only [hPastClosed] at hClosed
    obtain ⟨⟨second, last⟩, hSecondClosed, hClosed⟩ := bind_eq_ok.1 hClosed
    obtain ⟨low, hLow, hClosed⟩ := bind_eq_ok.1 hClosed
    obtain ⟨high, hHigh, hClosed⟩ := bind_eq_ok.1 hClosed
    rcases bind_eq_error.1 h with hSecond | ⟨⟨second, after⟩, hSecond, h⟩
    · rcases classAtom_fails hSkip hSecond with ⟨error, hFails⟩ | ⟨value, hValue⟩ | ⟨more, hEdge⟩
      · rw [hFails] at hSecondClosed
        cases hSecondClosed
      · rw [hValue] at hSecondClosed
        cases hSecondClosed
        split at hClosed
        · cases hClosed
        · cases hClosed
          rfl
      · -- no edge of a word bounds a range
        rw [hEdge] at hSecondClosed
        cases hSecondClosed
        cases hHigh
    · obtain ⟨afterClosed, hSecondRead, -⟩ := classAtom_readsOn flags hSkip hSecond
      rw [hSecondRead] at hSecondClosed
      cases hSecondClosed
      simp only [hLow, hHigh, ok_bind] at h
      split at h
      · next hOrder =>
        rw [if_pos hOrder] at hClosed
        cases hClosed
      · cases h

/-- What follows an atom without an end in the text takes the closing, or leaves an end of it. -/
theorem memberFrom_fails {flags : Flags} {first : Escape} {text closed rest : List Char}
    {error : PatternError} {members : CharClass} (hText : Closes text closed)
    (h : memberFrom flags first text = .error error)
    (hClosed : memberFrom flags first closed = .ok (members, rest)) : rest <:+ closing := by
  unfold memberFrom at h hClosed
  cases hPast : skip flags.spaced text with
  | nil =>
    rcases skip_closes_nil hText hPast with hPastClosed | hPastClosed
    · simp only [hPastClosed, closing] at hClosed
      obtain ⟨found, hFound, hClosed⟩ := bind_eq_ok.1 hClosed
      cases hClosed
      exact List.suffix_refl _
    · simp only [hPastClosed] at hClosed
      cases hClosed
  | cons c more =>
    obtain ⟨moreClosed, hPastClosed, -, hMore⟩ := skip_closes_cons hText hPast
    simp only [hPast] at h
    simp only [hPastClosed] at hClosed
    by_cases hDash : c = '-'
    · subst hDash
      simp only [endsAtDash_peekPastGap flags.spaced hMore] at h hClosed
      split at h
      · next hEnds =>
        rw [if_pos hEnds] at hClosed
        rcases bind_eq_error.1 h with hMembers | ⟨found, hFound, h⟩
        · rw [hMembers] at hClosed
          cases hClosed
        · cases h
      · next hRange =>
        rw [if_neg hRange] at hClosed
        rw [rangeFrom_fails hMore h hClosed]
        exact List.suffix_cons ..
    · simp only [List.cons.injEq, hDash, false_and, imp_self, implies_true] at h hClosed
      rcases bind_eq_error.1 h with hMembers | ⟨found, hFound, h⟩
      · rw [hMembers] at hClosed
        cases hClosed
      · cases h

/-- A member that is not read in the text takes the closing with it or leaves an end of it. -/
theorem classMember_fails {flags : Flags} {text closed rest : List Char} {error : PatternError}
    {members : CharClass} (hText : Closes text closed) (h : classMember flags text = .error error)
    (hClosed : classMember flags closed = .ok (members, rest)) : rest <:+ closing := by
  rw [classMember_eq] at h hClosed
  obtain ⟨⟨firstClosed, afterClosed⟩, hFirstClosed, hClosed⟩ := bind_eq_ok.1 hClosed
  unfold memberFrom at hClosed
  rcases bind_eq_error.1 h with hFirst | ⟨⟨first, after⟩, hFirst, h⟩
  · rcases classAtom_fails hText hFirst with ⟨error, hFails⟩ | ⟨value, hValue⟩ | ⟨more, hEdge⟩
    · rw [hFails] at hFirstClosed
      cases hFirstClosed
    · rw [hValue] at hFirstClosed
      cases hFirstClosed
      simp only [skip_closingEnd] at hClosed
      obtain ⟨found, hFound, hClosed⟩ := bind_eq_ok.1 hClosed
      cases hClosed
      exact List.suffix_cons ..
    · -- no edge of a word stands in a class
      rw [hEdge] at hFirstClosed
      cases hFirstClosed
      simp only [skip_brace] at hClosed
      obtain ⟨found, hFound, hClosed⟩ := bind_eq_ok.1 hClosed
      cases hFound
  · obtain ⟨afterRead, hFirstRead, hAfter⟩ := classAtom_readsOn flags hText hFirst
    rw [hFirstRead] at hFirstClosed
    cases hFirstClosed
    exact memberFrom_fails hAfter h hClosed

theorem classFrom_fails {flags : Flags} {fuel fuelClosed : Nat} {current : OpenClass}
    {around : List OpenClass} {text closed : List Char} {error : PatternError}
    (hFuel : text.length < fuel) (hText : Closes text closed)
    (h : classFrom flags fuel current around text = .error error) :
    ∃ error, classFrom flags fuelClosed current around closed = .error error := by
  induction fuel generalizing fuelClosed current around text closed error with
  | zero => cases hFuel
  | succ fuel ih =>
    cases fuelClosed with
    | zero => exact ⟨_, rfl⟩
    | succ fuelClosed =>
      cases hPast : skip flags.spaced text with
      | nil =>
        refine classFrom_closing flags _ current around ?_
        rcases skip_closes_nil hText hPast with hClosed | hClosed
        · exact hClosed ▸ List.suffix_refl closing
        · exact hClosed ▸ List.nil_suffix
      | cons c more =>
        obtain ⟨moreClosed, hPastClosed, hSkip, hMore⟩ := skip_closes_cons hText hPast
        have hShorter : more.length < fuel :=
          (length_lt_of_skip hPast).trans_le (Nat.le_of_lt_succ hFuel)
        have hLater {after : List Char} (hAfter : after <:+ more) : after.length < fuel :=
          hAfter.length_le.trans_lt hShorter
        simp only [classFrom, hPast] at h
        split at h
        · next heq => cases heq
        · next heq =>
          cases heq
          simp only [classFrom, hPastClosed, hSkip.cons_eq, asciiClass?_append]
          cases hNamed : asciiClass? more with
          | none =>
            simp only [hNamed, Option.map_none] at h ⊢
            rcases bind_eq_error.1 h with hInner | ⟨⟨inner, after⟩, hInner, h⟩
            · rcases openClass_fails (closes_closing more) hInner with
                ⟨error, hClosed⟩ | ⟨cls, hClosed⟩ <;> simp only [hClosed]
              · exact ⟨error, rfl⟩
              · exact classFrom_closing flags _ cls _ (skip_suffix flags.spaced closing)
            · obtain ⟨afterClosed, hInnerClosed, hAfter⟩ :=
                openClass_readsOn flags.spaced (closes_closing more) hInner
              simp only [hInnerClosed, ok_bind]
              exact ih (hLater (openClass_leavesEnd flags.spaced hInner)) hAfter h
          | some found =>
            obtain ⟨ranges, outside, after⟩ := found
            simp only [hNamed, Option.map_some] at h ⊢
            rcases bind_eq_error.1 h with hOutside | ⟨named, hOutside, h⟩
            · exact ⟨_, by rw [hOutside]; rfl⟩
            · simp only [hOutside, ok_bind]
              exact ih (hLater (asciiClass?_suffix hNamed)) (closes_closing after) h
        · next heq =>
          cases heq
          simp only [classFrom, hPastClosed]
          rcases bind_eq_error.1 h with hInner | ⟨inner, hInner, h⟩
          · exact ⟨_, by rw [hInner]; rfl⟩
          · simp only [hInner, ok_bind]
            cases around with
            | nil => cases h
            | cons outer around => exact ih hShorter hMore h
        · next heq =>
          cases heq
          obtain ⟨afterClosed, rfl, hAfter⟩ := hMore.cons
          simp only [classFrom, hPastClosed]
          exact ih (hLater (List.suffix_cons ..)) hAfter h
        · next heq =>
          cases heq
          obtain ⟨afterClosed, rfl, hAfter⟩ := hMore.cons
          simp only [classFrom, hPastClosed]
          exact ih (hLater (List.suffix_cons ..)) hAfter h
        · next heq =>
          cases heq
          obtain ⟨afterClosed, rfl, hAfter⟩ := hMore.cons
          simp only [classFrom, hPastClosed]
          exact ih (hLater (List.suffix_cons ..)) hAfter h
        · next hOpen hClose hAnd hMinus hOr =>
          rw [classFrom_member hMore hPastClosed hOpen hClose hAnd hMinus hOr]
          rcases bind_eq_error.1 h with hMembers | ⟨⟨members, after⟩, hMembers, h⟩
          · cases hClosed : classMember flags (c :: moreClosed) with
            | error error => exact ⟨error, rfl⟩
            | ok found =>
              have hRest := classMember_fails hSkip hMembers hClosed
              exact classFrom_closing flags _ _ _ ((skip_suffix flags.spaced _).trans hRest)
          · obtain ⟨afterClosed, hMembersClosed, hAfter⟩ :=
              classMember_readsOn flags hSkip hMembers
            rw [hMembersClosed]
            exact ih (hLater (classMember_leavesEnd hMembers)) hAfter h

theorem bracketed_failsOn (flags : Flags) : FailsOn (bracketed flags) := by
  intro text closed error hText h
  unfold bracketed at h ⊢
  rcases bind_eq_error.1 h with hOpen | ⟨⟨cls, after⟩, hOpen, h⟩
  · rcases openClass_fails hText hOpen with ⟨error, hClosed⟩ | ⟨cls, hClosed⟩ <;>
      simp only [hClosed]
    · exact ⟨error, rfl⟩
    · exact classFrom_closing flags _ cls _ (skip_suffix flags.spaced closing)
  · obtain ⟨afterClosed, hOpenClosed, hAfter⟩ := openClass_readsOn flags.spaced hText hOpen
    simp only [hOpenClosed, ok_bind]
    exact classFrom_fails (Nat.lt_succ_self _) hAfter h

end JavaImports.Written
