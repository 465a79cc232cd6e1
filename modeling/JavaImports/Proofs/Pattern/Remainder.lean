-- SUMMARY: What a reader of patterns leaves of a text is the end of the text.
import JavaImports.Proofs.Pattern.Continuation

/-! # What is left of a text

Every reader takes something off the front of a text and leaves the rest as it is. So no reader
makes a text longer, the number of steps that a text allows is enough to read it, and a character
that is not in a text is not in what is left of it. -/

namespace JavaImports.Written

/-- Whether what a reader leaves of a text is the end of the text. -/
def LeavesEnd (read : List Char → Outcome (α × List Char)) : Prop :=
  ∀ {text : List Char} {value : α} {rest : List Char},
    read text = .ok (value, rest) → rest <:+ text

theorem suffix_cons_of_suffix {rest text : List Char} (h : rest <:+ text) (c : Char) :
    rest <:+ c :: text :=
  h.trans (List.suffix_cons c text)

/-! ## Numbers -/

theorem takeGapped_suffix (isDue : Char → Bool) (spaced : Bool) (fuel : Nat) (text : List Char) :
    (takeGapped isDue spaced fuel text).2 <:+ text := by
  induction fuel generalizing text with
  | zero => exact List.suffix_refl _
  | succ fuel ih =>
    cases text with
    | nil => exact List.suffix_refl _
    | cons c rest =>
      simp only [takeGapped]
      split
      · exact suffix_cons_of_suffix ((ih _).trans (skip_suffix spaced rest)) c
      · exact List.suffix_refl _

theorem number?_leavesEnd (spaced : Bool) : LeavesEnd (number? spaced) := by
  intro text value rest h
  unfold number? at h
  simp only [digits_eq_takeGapped] at h
  have hDigits := takeGapped_suffix Char.isDigit spaced text.length
    (text.dropWhile Unicode.isBlank)
  have hEnd := (skip_suffix spaced _).trans ((List.dropWhile_suffix Unicode.isBlank).trans
    (hDigits.trans (List.dropWhile_suffix Unicode.isBlank)))
  split at h
  · obtain ⟨-, rfl⟩ := Prod.mk.inj (Except.ok.inj h)
    exact hEnd
  · split at h
    · cases h
    · obtain ⟨-, rfl⟩ := Prod.mk.inj (Except.ok.inj h)
      exact hEnd

theorem upperCount_leavesEnd (spaced : Bool) (first : Option Nat) :
    LeavesEnd (upperCount spaced first) := by
  intro text value rest h
  have hSkip := skip_suffix spaced text
  unfold upperCount at h
  split at h
  · cases h
  · next more hPast =>
    rw [hPast] at hSkip
    obtain ⟨least, hLeast, h⟩ := bind_eq_ok.1 h
    obtain ⟨-, rfl⟩ := Prod.mk.inj (Except.ok.inj h)
    exact hSkip
  · obtain ⟨least, hLeast, h⟩ := bind_eq_ok.1 h
    obtain ⟨⟨second, last⟩, hSecond, h⟩ := bind_eq_ok.1 h
    obtain ⟨most, hMost, h⟩ := bind_eq_ok.1 h
    obtain ⟨-, rfl⟩ := Prod.mk.inj (Except.ok.inj h)
    exact (number?_leavesEnd spaced hSecond).trans hSkip

theorem countRange_leavesEnd (spaced : Bool) : LeavesEnd (countRange spaced) := by
  intro text value rest h
  rw [countRange_eq] at h
  obtain ⟨⟨first, after⟩, hFirst, h⟩ := bind_eq_ok.1 h
  have hAfter := number?_leavesEnd spaced hFirst
  simp only at h
  split at h
  · cases h
  · exact (suffix_cons_of_suffix (upperCount_leavesEnd spaced first h) _).trans hAfter
  · obtain ⟨n, hCount, h⟩ := bind_eq_ok.1 h
    obtain ⟨-, rfl⟩ := Prod.mk.inj (Except.ok.inj h)
    exact hAfter

theorem bounds_leavesEnd (spaced : Bool) : LeavesEnd (bounds spaced) := by
  intro text value rest h
  unfold bounds at h
  simp only at h
  split at h
  · cases h
  · obtain ⟨⟨range, after⟩, hRange, h⟩ := bind_eq_ok.1 h
    have hAfter := (countRange_leavesEnd spaced hRange).trans (skip_suffix spaced text)
    simp only at h
    split at h
    · split at h
      · obtain ⟨-, rfl⟩ := Prod.mk.inj (Except.ok.inj h)
        exact (List.suffix_cons ..).trans hAfter
      · cases h
    · cases h

/-! ## Escapes -/

theorem fixedHex_leavesEnd (spaced : Bool) (n value : Nat) :
    LeavesEnd (fixedHex spaced n value) := by
  intro text code rest h
  induction n generalizing text value with
  | zero =>
    obtain ⟨-, rfl⟩ := Prod.mk.inj (Except.ok.inj h)
    exact List.suffix_refl _
  | succ n ih =>
    cases text with
    | nil => cases h
    | cons c more =>
      simp only [fixedHex] at h
      split at h
      · exact suffix_cons_of_suffix ((ih _ h).trans (skip_suffix spaced more)) c
      · cases h

theorem bracedHex_leavesEnd (spaced : Bool) (fuel read value : Nat) :
    LeavesEnd (bracedHex spaced fuel read value) := by
  intro text code rest h
  induction fuel generalizing text read value with
  | zero => cases h
  | succ fuel ih =>
    have hSkip := skip_suffix spaced text
    simp only [bracedHex] at h
    split at h
    · cases h
    · next more hPast =>
      rw [hPast] at hSkip
      split at h
      · cases h
      · obtain ⟨-, rfl⟩ := Prod.mk.inj (Except.ok.inj h)
        exact (suffix_cons_of_suffix (skip_suffix spaced more) _).trans hSkip
    · next c more hBrace hPast =>
      rw [hPast] at hSkip
      split at h
      · exact (suffix_cons_of_suffix (ih _ _ h) c).trans hSkip
      · cases h

theorem hexEscape_leavesEnd (spaced : Bool) (width : Nat) : LeavesEnd (hexEscape spaced width) := by
  intro text value rest h
  have hSkip := skip_suffix spaced text
  unfold hexEscape at h
  split at h
  · cases h
  · next more hPast =>
    rw [hPast] at hSkip
    obtain ⟨⟨code, after⟩, hCode, h⟩ := bind_eq_ok.1 h
    obtain ⟨char, hChar, h⟩ := bind_eq_ok.1 h
    obtain ⟨-, rfl⟩ := Prod.mk.inj (Except.ok.inj h)
    exact (suffix_cons_of_suffix (bracedHex_leavesEnd spaced _ _ _ hCode) _).trans hSkip
  · obtain ⟨⟨code, after⟩, hCode, h⟩ := bind_eq_ok.1 h
    obtain ⟨char, hChar, h⟩ := bind_eq_ok.1 h
    obtain ⟨-, rfl⟩ := Prod.mk.inj (Except.ok.inj h)
    exact (fixedHex_leavesEnd spaced width 0 hCode).trans hSkip

theorem untilBrace_leavesEnd (spaced : Bool) (fuel : Nat) : LeavesEnd (untilBrace spaced fuel) := by
  intro text name rest h
  induction fuel generalizing text name with
  | zero => cases h
  | succ fuel ih =>
    have hSkip := skip_suffix spaced text
    simp only [untilBrace] at h
    split at h
    · cases h
    · next more hPast =>
      rw [hPast] at hSkip
      obtain ⟨-, rfl⟩ := Prod.mk.inj (Except.ok.inj h)
      exact (List.suffix_cons ..).trans hSkip
    · next c more hBrace hPast =>
      rw [hPast] at hSkip
      obtain ⟨⟨chars, after⟩, hChars, h⟩ := bind_eq_ok.1 h
      obtain ⟨-, rfl⟩ := Prod.mk.inj (Except.ok.inj h)
      exact (suffix_cons_of_suffix (ih hChars) c).trans hSkip

theorem propertyEscape_leavesEnd (spaced outside : Bool) :
    LeavesEnd (propertyEscape spaced outside) := by
  intro text value rest h
  have hSkip := skip_suffix spaced text
  unfold propertyEscape at h
  split at h
  · cases h
  · next more hPast =>
    rw [hPast] at hSkip
    obtain ⟨⟨name, after⟩, hName, h⟩ := bind_eq_ok.1 h
    obtain ⟨⟨set, other⟩, hSet, h⟩ := bind_eq_ok.1 h
    obtain ⟨-, rfl⟩ := Prod.mk.inj (Except.ok.inj h)
    exact (suffix_cons_of_suffix (untilBrace_leavesEnd spaced _ hName) _).trans hSkip
  · cases h
  · next c more hBrace hBackslash hPast =>
    rw [hPast] at hSkip
    split at h
    · obtain ⟨-, rfl⟩ := Prod.mk.inj (Except.ok.inj h)
      exact (suffix_cons_of_suffix (skip_suffix spaced more) c).trans hSkip
    · cases h

theorem namedEdge_leavesEnd (spaced : Bool) : LeavesEnd (namedEdge spaced) := by
  intro text value rest h
  have hName := takeGapped_suffix (fun c => c.isAlpha || c = '-') spaced text.length text
  unfold namedEdge at h
  rw [edgeName_eq_takeGapped] at h
  simp only at h
  split at h
  · next last hEnd =>
    rw [hEnd] at hName
    obtain ⟨edge, hEdge, h⟩ := bind_eq_ok.1 h
    obtain ⟨-, rfl⟩ := Prod.mk.inj (Except.ok.inj h)
    exact (List.suffix_cons ..).trans hName
  · cases h

theorem wordEdge_leavesEnd (spaced : Bool) : LeavesEnd (wordEdge spaced) := by
  intro text value rest h
  rw [wordEdge_eq] at h
  split at h
  · next more =>
    have hSkip := skip_suffix spaced more
    split at h
    · cases h
    · next c inner hPast =>
      rw [hPast] at hSkip
      split at h
      · exact suffix_cons_of_suffix ((namedEdge_leavesEnd spaced h).trans hSkip) _
      · obtain ⟨-, rfl⟩ := Prod.mk.inj (Except.ok.inj h)
        exact List.suffix_refl _
  · obtain ⟨-, rfl⟩ := Prod.mk.inj (Except.ok.inj h)
    exact List.suffix_refl _

/-- An escape takes at least the character after its backslash. -/
theorem escape_leavesEnd {spaced : Bool} {text rest : List Char} {value : Escape}
    (h : escape spaced text = .ok (value, rest)) : rest <:+ text.tail := by
  cases text with
  | nil => cases h
  | cons c more =>
    simp only [escape] at h
    split at h
    · cases h
    · split at h
      · obtain ⟨-, rfl⟩ := Prod.mk.inj (Except.ok.inj h)
        exact List.suffix_refl _
      · split at h
        · exact hexEscape_leavesEnd spaced 2 h
        · exact hexEscape_leavesEnd spaced 4 h
        · exact hexEscape_leavesEnd spaced 8 h
        · exact propertyEscape_leavesEnd spaced false h
        · exact propertyEscape_leavesEnd spaced true h
        case h_20 => exact wordEdge_leavesEnd spaced h
        case h_24 => cases h
        all_goals
          obtain ⟨-, rfl⟩ := Prod.mk.inj (Except.ok.inj h)
          exact List.suffix_refl _

/-! ## Flags and names -/

theorem flags_leavesEnd (current : Flags) (seen : List Char) (dangling : Bool) :
    LeavesEnd (flags current seen dangling) := by
  intro text value rest h
  induction text generalizing current seen dangling with
  | nil => cases h
  | cons c more ih =>
    simp only [flags] at h
    split at h
    · split at h
      · cases h
      · obtain ⟨-, rfl⟩ := Prod.mk.inj (Except.ok.inj h)
        exact List.suffix_refl _
    · split at h
      · split at h
        · cases h
        · exact suffix_cons_of_suffix (ih _ _ _ h) c
      · split at h
        · cases h
        · split at h
          · cases h
          · exact suffix_cons_of_suffix (ih _ _ _ h) c

theorem groupName_leavesEnd (first : Bool) : LeavesEnd (groupName first) := by
  intro text value rest h
  induction text generalizing first value with
  | nil => cases h
  | cons c more ih =>
    simp only [groupName] at h
    split at h
    · split at h
      · cases h
      · obtain ⟨-, rfl⟩ := Prod.mk.inj (Except.ok.inj h)
        exact List.suffix_cons ..
    · split at h
      · obtain ⟨⟨name, after⟩, hName, h⟩ := bind_eq_ok.1 h
        obtain ⟨-, rfl⟩ := Prod.mk.inj (Except.ok.inj h)
        exact suffix_cons_of_suffix (ih _ hName) c
      · cases h

/-! ## Classes -/

theorem classNamed?_suffix {outside : Bool} {text : List Char}
    {found : Unicode.Ranges × Bool × List Char} (h : classNamed? outside text = some found) :
    found.2.2 <:+ text := by
  unfold classNamed? at h
  rw [List.span_eq_takeWhile_dropWhile] at h
  have hDrop := List.dropWhile_suffix (fun c => c != ':') (l := text)
  simp only at h
  split at h
  · next rest hRest =>
    rw [hRest] at hDrop
    obtain ⟨entry, hEntry, rfl⟩ := Option.map_eq_some_iff.1 h
    exact (suffix_cons_of_suffix (List.suffix_cons ..) _).trans hDrop
  · cases h

theorem asciiClass?_suffix {text : List Char} {found : Unicode.Ranges × Bool × List Char}
    (h : asciiClass? text = some found) : found.2.2 <:+ text := by
  cases text with
  | nil => cases h
  | cons c rest =>
    by_cases hColon : c = ':'
    · subst hColon
      refine suffix_cons_of_suffix ?_ _
      cases rest with
      | nil =>
        have hNamed : classNamed? false [] = some found := h
        exact classNamed?_suffix hNamed
      | cons d more =>
        by_cases hCaret : d = '^'
        · subst hCaret
          have hNamed : classNamed? true more = some found := h
          exact suffix_cons_of_suffix (classNamed?_suffix hNamed) _
        · rw [asciiClass?_inside hCaret] at h
          exact classNamed?_suffix h
    · simp [asciiClass?, hColon] at h

theorem leadingMembers_leavesEnd (spaced : Bool) (fuel : Nat) (members : CharClass)
    (first : Bool) : LeavesEnd (leadingMembers spaced fuel members first) := by
  intro text found rest h
  induction fuel generalizing text members first with
  | zero => cases h
  | succ fuel ih =>
    simp only [leadingMembers] at h
    split at h
    · cases h
    · next more => exact suffix_cons_of_suffix ((ih _ _ h).trans (skip_suffix spaced more)) _
    · next more =>
      split at h
      · split at h
        · cases h
        · obtain ⟨-, rfl⟩ := Prod.mk.inj (Except.ok.inj h)
          exact suffix_cons_of_suffix (skip_suffix spaced more) _
      · obtain ⟨-, rfl⟩ := Prod.mk.inj (Except.ok.inj h)
        exact List.suffix_refl _
    · obtain ⟨-, rfl⟩ := Prod.mk.inj (Except.ok.inj h)
      exact List.suffix_refl _

theorem classOpened_leavesEnd (spaced complement : Bool) :
    LeavesEnd (classOpened spaced complement) := by
  intro text value rest h
  obtain ⟨⟨members, after⟩, hMembers, h⟩ := bind_eq_ok.1 h
  obtain ⟨-, rfl⟩ := Prod.mk.inj (Except.ok.inj h)
  exact leadingMembers_leavesEnd spaced _ _ _ hMembers

theorem openClass_leavesEnd (spaced : Bool) : LeavesEnd (openClass spaced) := by
  intro text value rest h
  obtain ⟨complement, inner, -, -, hInner, hOpen, -⟩ :=
    openClass_closes spaced (closes_closing text)
  rw [hOpen] at h
  exact (classOpened_leavesEnd spaced complement h).trans hInner

/-- An atom takes at least one character. -/
theorem classAtom_leavesEnd {flags : Flags} {text rest : List Char} {value : Escape}
    (h : classAtom flags text = .ok (value, rest)) : rest <:+ text.tail := by
  unfold classAtom at h
  split at h
  · cases h
  · next more => exact (escape_leavesEnd h).trans (List.tail_suffix more)
  · obtain ⟨-, rfl⟩ := Prod.mk.inj (Except.ok.inj h)
    exact List.suffix_refl _

theorem rangeFrom_leavesEnd (flags : Flags) (first : Escape) :
    LeavesEnd (rangeFrom flags first) := by
  intro text value rest h
  have hSkip := skip_suffix flags.spaced text
  unfold rangeFrom at h
  split at h
  · cases h
  · obtain ⟨⟨second, after⟩, hSecond, h⟩ := bind_eq_ok.1 h
    obtain ⟨low, hLow, h⟩ := bind_eq_ok.1 h
    obtain ⟨high, hHigh, h⟩ := bind_eq_ok.1 h
    split at h
    · cases h
    · obtain ⟨-, rfl⟩ := Prod.mk.inj (Except.ok.inj h)
      exact ((classAtom_leavesEnd hSecond).trans (List.tail_suffix _)).trans hSkip

theorem memberFrom_leavesEnd (flags : Flags) (first : Escape) :
    LeavesEnd (memberFrom flags first) := by
  intro text value rest h
  have hSkip := skip_suffix flags.spaced text
  unfold memberFrom at h
  split at h
  · cases h
  · next more hPast =>
    rw [hPast] at hSkip
    split at h
    · obtain ⟨members, hMembers, h⟩ := bind_eq_ok.1 h
      obtain ⟨-, rfl⟩ := Prod.mk.inj (Except.ok.inj h)
      exact hSkip
    · exact (suffix_cons_of_suffix (rangeFrom_leavesEnd flags first h) '-').trans hSkip
  · obtain ⟨members, hMembers, h⟩ := bind_eq_ok.1 h
    obtain ⟨-, rfl⟩ := Prod.mk.inj (Except.ok.inj h)
    exact hSkip

/-- A member takes at least one character. -/
theorem classMember_leavesEnd {flags : Flags} {text rest : List Char} {value : CharClass}
    (h : classMember flags text = .ok (value, rest)) : rest <:+ text.tail := by
  rw [classMember_eq] at h
  obtain ⟨⟨first, after⟩, hFirst, h⟩ := bind_eq_ok.1 h
  exact (memberFrom_leavesEnd flags first h).trans (classAtom_leavesEnd hFirst)

theorem classFrom_leavesEnd (flags : Flags) (fuel : Nat) (current : OpenClass)
    (around : List OpenClass) : LeavesEnd (classFrom flags fuel current around) := by
  intro text cls rest h
  induction fuel generalizing text current around with
  | zero => cases h
  | succ fuel ih =>
    have hSkip := skip_suffix flags.spaced text
    simp only [classFrom] at h
    split at h
    · cases h
    · next more hPast =>
      rw [hPast] at hSkip
      split at h
      · next ranges outside after hNamed =>
        obtain ⟨named, hOutside, h⟩ := bind_eq_ok.1 h
        exact (suffix_cons_of_suffix ((ih _ _ h).trans (asciiClass?_suffix hNamed)) _).trans hSkip
      · obtain ⟨⟨inner, after⟩, hInner, h⟩ := bind_eq_ok.1 h
        have hAfter := openClass_leavesEnd flags.spaced hInner
        exact (suffix_cons_of_suffix ((ih _ _ h).trans hAfter) _).trans hSkip
    · next more hPast =>
      rw [hPast] at hSkip
      obtain ⟨inner, hInner, h⟩ := bind_eq_ok.1 h
      split at h
      · obtain ⟨-, rfl⟩ := Prod.mk.inj (Except.ok.inj h)
        exact (List.suffix_cons ..).trans hSkip
      · exact (suffix_cons_of_suffix (ih _ _ h) _).trans hSkip
    · next more hPast =>
      rw [hPast] at hSkip
      exact (suffix_cons_of_suffix (suffix_cons_of_suffix (ih _ _ h) _) _).trans hSkip
    · next more hPast =>
      rw [hPast] at hSkip
      exact (suffix_cons_of_suffix (suffix_cons_of_suffix (ih _ _ h) _) _).trans hSkip
    · next more hPast =>
      rw [hPast] at hSkip
      exact (suffix_cons_of_suffix (suffix_cons_of_suffix (ih _ _ h) _) _).trans hSkip
    · obtain ⟨⟨members, after⟩, hMembers, h⟩ := bind_eq_ok.1 h
      have hAfter := (classMember_leavesEnd hMembers).trans (List.tail_suffix _)
      exact ((ih _ _ h).trans hAfter).trans hSkip

theorem bracketed_leavesEnd (flags : Flags) : LeavesEnd (bracketed flags) := by
  intro text value rest h
  unfold bracketed at h
  obtain ⟨⟨cls, after⟩, hOpen, h⟩ := bind_eq_ok.1 h
  exact (classFrom_leavesEnd flags _ _ _ h).trans (openClass_leavesEnd flags.spaced hOpen)

/-! ## Groups and parts -/

theorem openNamed_leavesEnd (state : State) : LeavesEnd state.openNamed := by
  intro text next rest h
  unfold State.openNamed at h
  obtain ⟨⟨name, after⟩, hName, h⟩ := bind_eq_ok.1 h
  simp only at h
  split at h
  · cases h
  · obtain ⟨-, rfl⟩ := Prod.mk.inj (Except.ok.inj h)
    exact groupName_leavesEnd true hName

theorem group_leavesEnd (state : State) : LeavesEnd state.group := by
  intro text next rest h
  have hSkip := skip_suffix state.flags.spaced text
  unfold State.group at h
  simp only at h
  split at h
  · cases h
  · split at h
    · next more hPast =>
      rw [hPast] at hSkip
      have hMore := openNamed_leavesEnd state h
      exact (suffix_cons_of_suffix (suffix_cons_of_suffix (suffix_cons_of_suffix hMore _) _)
        _).trans hSkip
    · next more hPast =>
      rw [hPast] at hSkip
      have hMore := openNamed_leavesEnd state h
      exact (suffix_cons_of_suffix (suffix_cons_of_suffix hMore _) _).trans hSkip
    · cases h
    · next more hLong hShort hEnd hPast =>
      rw [hPast] at hSkip
      obtain ⟨⟨flags, after⟩, hFlags, h⟩ := bind_eq_ok.1 h
      have hAfter := flags_leavesEnd _ _ _ hFlags
      have hTail {c : Char} {tail : List Char} (hEq : after = c :: tail) : tail <:+ text := by
        rw [hEq] at hAfter
        exact (suffix_cons_of_suffix ((List.suffix_cons ..).trans hAfter) _).trans hSkip
      simp only at h
      split at h
      · split at h
        · cases h
        · obtain ⟨-, rfl⟩ := Prod.mk.inj (Except.ok.inj h)
          exact hTail rfl
      · obtain ⟨-, rfl⟩ := Prod.mk.inj (Except.ok.inj h)
        exact hTail rfl
      · cases h
    · obtain ⟨-, rfl⟩ := Prod.mk.inj (Except.ok.inj h)
      exact hSkip

theorem dropPreference_suffix (text : List Char) : dropPreference text <:+ text := by
  unfold dropPreference
  split
  · exact List.suffix_cons ..
  · exact List.suffix_refl _

theorem next_leavesEnd (state : State) (c : Char) : LeavesEnd (state.next c) := by
  intro text next rest h
  have hRepeat {least : Nat} {most? : Option Nat} {after : List Char} (hAfter : after <:+ text)
      (h : (do return (← state.repeatLast least most?, after)) = (.ok (next, rest) : Outcome _)) :
      rest <:+ text := by
    obtain ⟨repeated, hRepeated, h⟩ := bind_eq_ok.1 h
    obtain ⟨-, rfl⟩ := Prod.mk.inj (Except.ok.inj h)
    exact hAfter
  unfold State.next at h
  simp only at h
  split at h
  case h_1 => exact group_leavesEnd state h
  case h_2 =>
    obtain ⟨left, hLeft, h⟩ := bind_eq_ok.1 h
    obtain ⟨-, rfl⟩ := Prod.mk.inj (Except.ok.inj h)
    exact List.suffix_refl _
  case h_4 =>
    obtain ⟨⟨cls, after⟩, hClass, h⟩ := bind_eq_ok.1 h
    obtain ⟨-, rfl⟩ := Prod.mk.inj (Except.ok.inj h)
    exact bracketed_leavesEnd state.flags hClass
  case h_5 => exact hRepeat (dropPreference_suffix text) h
  case h_6 => exact hRepeat (dropPreference_suffix text) h
  case h_7 => exact hRepeat (dropPreference_suffix text) h
  case h_8 =>
    obtain ⟨_, hCan, h⟩ := bind_eq_ok.1 h
    obtain ⟨⟨⟨least, most?⟩, after⟩, hBounds, h⟩ := bind_eq_ok.1 h
    have hAfter := bounds_leavesEnd state.flags.spaced hBounds
    exact hRepeat ((dropPreference_suffix _).trans ((skip_suffix _ after).trans hAfter)) h
  case h_9 =>
    obtain ⟨⟨found, after⟩, hEscape, h⟩ := bind_eq_ok.1 h
    obtain ⟨pattern, hPattern, h⟩ := bind_eq_ok.1 h
    obtain ⟨-, rfl⟩ := Prod.mk.inj (Except.ok.inj h)
    exact (escape_leavesEnd hEscape).trans (List.tail_suffix text)
  case h_10 =>
    obtain ⟨pattern, hPattern, h⟩ := bind_eq_ok.1 h
    obtain ⟨-, rfl⟩ := Prod.mk.inj (Except.ok.inj h)
    exact List.suffix_refl _
  all_goals
    obtain ⟨-, rfl⟩ := Prod.mk.inj (Except.ok.inj h)
    exact List.suffix_refl _

end JavaImports.Written
