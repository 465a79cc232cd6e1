-- SUMMARY: What is read off a text does not change when a closing is put after the text.
import JavaImports.Pattern.Reader
import Mathlib.Data.List.TakeDrop
import Mathlib.Data.List.TakeWhile

/-! # Reading on

A text may go on after a pattern: with the end of a group around the pattern and an anchor. Part by
part, the same is read as if the text ended with the pattern. The closing then stands after whatever
is left of the text, unless a comment at its end has swallowed the closing. -/

namespace JavaImports.Written

/-- What goes on after a pattern: the end of a group and the sign for the end. -/
def closing : List Char := [')', '$']

/-- Whether a text with the closing after it came down to `closed` where the text alone came down to
    `text`. -/
def Closes (text closed : List Char) : Prop :=
  closed = text ++ closing ∨ (text = [] ∧ closed = [])

/-- Whether a reader reads the same of a text with the closing after it. -/
def ReadsOn (read : List Char → Outcome (α × List Char)) : Prop :=
  ∀ {text closed : List Char} {value : α} {rest : List Char}, Closes text closed →
    read text = .ok (value, rest) →
      ∃ restClosed, read closed = .ok (value, restClosed) ∧ Closes rest restClosed

theorem closes_closing (text : List Char) : Closes text (text ++ closing) :=
  .inl rfl

theorem Closes.cons {c : Char} {text closed : List Char} (h : Closes (c :: text) closed) :
    ∃ rest, closed = c :: rest ∧ Closes text rest := by
  rcases h with rfl | ⟨hNil, -⟩
  · exact ⟨text ++ closing, rfl, .inl rfl⟩
  · cases hNil

theorem Closes.nil {closed : List Char} (h : Closes [] closed) :
    closed = closing ∨ closed = [] := by
  rcases h with rfl | ⟨-, rfl⟩
  · exact .inl rfl
  · exact .inr rfl

theorem Closes.cons_eq {c : Char} {text closed : List Char} (h : Closes (c :: text) (c :: closed)) :
    closed = text ++ closing := by
  rcases h with h | ⟨hNil, -⟩
  · exact (List.cons.inj h).2
  · cases hNil

/-- Only a parenthesis can have come from the closing. -/
theorem Closes.of_cons {c : Char} {text closed : List Char} (h : Closes text (c :: closed))
    (hChar : c ≠ ')') : ∃ rest, text = c :: rest := by
  cases text with
  | nil =>
    rcases h.nil with hClosed | hClosed
    · exact absurd (List.cons.inj hClosed).1 hChar
    · cases hClosed
  | cons d rest =>
    obtain ⟨_, hClosed, -⟩ := h.cons
    exact ⟨rest, by rw [(List.cons.inj hClosed).1]⟩

theorem Closes.of_cons_cons {c d : Char} {text closed : List Char}
    (h : Closes text (c :: d :: closed)) (hFirst : c ≠ ')') (hSecond : d ≠ ')') :
    ∃ rest, text = c :: d :: rest := by
  obtain ⟨tail, rfl⟩ := h.of_cons hFirst
  obtain ⟨_, hClosed, hTail⟩ := h.cons
  obtain ⟨-, rfl⟩ := List.cons.inj hClosed
  obtain ⟨rest, rfl⟩ := hTail.of_cons hSecond
  exact ⟨rest, rfl⟩

theorem Closes.length_le {text closed : List Char} (h : Closes text closed) :
    text.length ≤ closed.length := by
  rcases h with rfl | ⟨rfl, rfl⟩ <;> simp

theorem bind_eq_ok {x : Outcome α} {f : α → Outcome β} {b : β} :
    x >>= f = .ok b ↔ ∃ a, x = .ok a ∧ f a = .ok b := by
  cases x <;> simp [bind, Except.bind]

theorem ok_bind {a : α} {f : α → Outcome β} : (.ok a : Outcome α) >>= f = f a := rfl

/-! ## Gaps -/

theorem dropGap_closes {text closed : List Char} (h : Closes text closed) (comment : Bool) :
    Closes (dropGap comment text) (dropGap comment closed) := by
  induction text generalizing closed comment with
  | nil =>
    rcases h.nil with rfl | rfl
    · cases comment
      · exact .inl rfl
      · exact .inr ⟨rfl, rfl⟩
    · exact .inr ⟨rfl, rfl⟩
  | cons c rest ih =>
    obtain ⟨more, rfl, hMore⟩ := h.cons
    simp only [dropGap]
    split
    · exact ih hMore _
    · split
      · exact ih hMore _
      · split
        · exact ih hMore _
        · exact h

theorem skip_closes {text closed : List Char} (h : Closes text closed) (spaced : Bool) :
    Closes (skip spaced text) (skip spaced closed) := by
  unfold skip
  split
  · exact dropGap_closes h false
  · exact h

@[simp] theorem skip_nil (spaced : Bool) : skip spaced [] = [] := by
  cases spaced <;> rfl

/-- The closing is no gap. -/
@[simp] theorem skip_closing (spaced : Bool) : skip spaced closing = closing := by
  cases spaced <;> rfl

/-- What stands behind a gap stands there with the closing after it, too. -/
theorem skip_closes_cons {spaced : Bool} {c : Char} {text closed more : List Char}
    (h : Closes text closed) (hPast : skip spaced text = c :: more) :
    ∃ moreClosed, skip spaced closed = c :: moreClosed ∧ Closes (c :: more) (c :: moreClosed) ∧
      Closes more moreClosed := by
  have hSkip := skip_closes h spaced
  rw [hPast] at hSkip
  obtain ⟨moreClosed, hPastClosed, hMore⟩ := hSkip.cons
  exact ⟨moreClosed, hPastClosed, hPastClosed ▸ hSkip, hMore⟩

/-- What is left behind a gap is the end of the text. -/
theorem dropGap_suffix (comment : Bool) (text : List Char) : dropGap comment text <:+ text := by
  induction text generalizing comment with
  | nil => exact List.suffix_refl _
  | cons c rest ih =>
    simp only [dropGap]
    split
    · exact (ih _).trans (List.suffix_cons ..)
    · split
      · exact (ih _).trans (List.suffix_cons ..)
      · split
        · exact (ih _).trans (List.suffix_cons ..)
        · exact List.suffix_refl _

theorem skip_suffix (spaced : Bool) (text : List Char) : skip spaced text <:+ text := by
  unfold skip
  split
  · exact dropGap_suffix false text
  · exact List.suffix_refl _

theorem dropBlanks_closes {text closed : List Char} (h : Closes text closed) :
    Closes (text.dropWhile Unicode.isBlank) (closed.dropWhile Unicode.isBlank) := by
  induction text generalizing closed with
  | nil =>
    rcases h.nil with rfl | rfl
    · exact .inl (by decide)
    · exact .inr ⟨rfl, rfl⟩
  | cons c rest ih =>
    obtain ⟨more, rfl, hMore⟩ := h.cons
    simp only [List.dropWhile_cons]
    split
    · exact ih hMore
    · exact h

/-! ## Numbers -/

/-- Reads characters as long as they are of some kind, with gaps between them if blanks do not
    count. -/
def takeGapped (isDue : Char → Bool) (spaced : Bool) : (fuel : Nat) → List Char →
    List Char × List Char
  | 0, text => ([], text)
  | _ + 1, [] => ([], [])
  | fuel + 1, c :: rest =>
    if isDue c then
      let (more, rest) := takeGapped isDue spaced fuel (skip spaced rest)
      (c :: more, rest)
    else ([], c :: rest)

theorem digits_eq_takeGapped (spaced : Bool) (fuel : Nat) (text : List Char) :
    digits spaced fuel text = takeGapped Char.isDigit spaced fuel text := by
  induction fuel generalizing text with
  | zero => rfl
  | succ fuel ih => cases text <;> simp only [digits, takeGapped, ih]

theorem takeGapped_of_closes_nil {isDue : Char → Bool} (hClosing : isDue ')' = false)
    (spaced : Bool) {closed : List Char} (h : Closes [] closed) (fuel : Nat) :
    takeGapped isDue spaced fuel closed = ([], closed) := by
  rcases h.nil with rfl | rfl <;> cases fuel <;> simp [takeGapped, closing, hClosing]

/-- If the closing is not due, the same is read, whatever the bounds on the number of characters
    are. -/
theorem takeGapped_closes {isDue : Char → Bool} (hClosing : isDue ')' = false) (spaced : Bool)
    {text closed taken rest : List Char} (hText : Closes text closed) {fuel fuelClosed : Nat}
    (hFuel : text.length ≤ fuel) (hClosed : closed.length ≤ fuelClosed)
    (h : takeGapped isDue spaced fuel text = (taken, rest)) :
    ∃ restClosed, takeGapped isDue spaced fuelClosed closed = (taken, restClosed) ∧
      Closes rest restClosed := by
  induction fuel generalizing text closed fuelClosed taken with
  | zero =>
    obtain rfl : text = [] := List.length_eq_zero_iff.1 (Nat.le_zero.1 hFuel)
    cases h
    exact ⟨closed, takeGapped_of_closes_nil hClosing spaced hText fuelClosed, hText⟩
  | succ fuel ih =>
    cases text with
    | nil =>
      cases h
      exact ⟨closed, takeGapped_of_closes_nil hClosing spaced hText fuelClosed, hText⟩
    | cons c more =>
      obtain ⟨moreClosed, rfl, hMore⟩ := hText.cons
      cases fuelClosed with
      | zero => simp at hClosed
      | succ fuelClosed =>
        have hRest := (skip_suffix spaced more).length_le.trans (Nat.le_of_succ_le_succ hFuel)
        have hRestClosed :=
          (skip_suffix spaced moreClosed).length_le.trans (Nat.le_of_succ_le_succ hClosed)
        simp only [takeGapped] at h ⊢
        split at h
        · next hDue =>
          obtain ⟨rfl, rfl⟩ := Prod.mk.inj h
          obtain ⟨after, hTake, hAfter⟩ := ih (skip_closes hMore spaced) hRest hRestClosed rfl
          exact ⟨after, by simp [hDue, hTake], hAfter⟩
        · next hDue =>
          obtain ⟨rfl, rfl⟩ := Prod.mk.inj h
          exact ⟨_, by rw [if_neg hDue], hText⟩

theorem number?_readsOn (spaced : Bool) : ReadsOn (number? spaced) := by
  intro text closed value rest hText h
  unfold number? at h ⊢
  simp only [digits_eq_takeGapped] at h ⊢
  rcases hDigits : takeGapped Char.isDigit spaced text.length (text.dropWhile Unicode.isBlank) with
    ⟨ds, after⟩
  obtain ⟨afterClosed, hDigitsClosed, hAfter⟩ :=
    takeGapped_closes (by decide) spaced (dropBlanks_closes hText)
      (List.dropWhile_sublist ..).length_le (List.dropWhile_sublist ..).length_le hDigits
  have hRest := skip_closes (dropBlanks_closes hAfter) spaced
  simp only [hDigits] at h
  simp only [hDigitsClosed]
  split at h
  · next hNone =>
    obtain ⟨rfl, rfl⟩ := Prod.mk.inj (Except.ok.inj h)
    exact ⟨_, by rw [if_pos hNone], hRest⟩
  · next hSome =>
    rw [if_neg hSome]
    split at h
    · cases h
    · next hLimit =>
      obtain ⟨rfl, rfl⟩ := Prod.mk.inj (Except.ok.inj h)
      exact ⟨_, by rw [if_neg hLimit], hRest⟩

/-- Reads what follows the comma of a counted repetition. -/
def upperCount (spaced : Bool) (first : Option Nat) (text : List Char) :
    Outcome ((Nat × Option Nat) × List Char) := do
  match skip spaced text with
  | [] => .error .unclosedRepetition
  | '\x7d' :: rest => return ((← count first, none), '\x7d' :: rest)
  | rest =>
    let least ← count first
    let (second, rest) ← number? spaced rest
    return ((least, some (← count second)), rest)

theorem countRange_eq (spaced : Bool) (text : List Char) : countRange spaced text = (do
    let (first, rest) ← number? spaced text
    match rest with
    | [] => .error .unclosedRepetition
    | ',' :: rest => upperCount spaced first rest
    | rest =>
      let n ← count first
      return ((n, some n), rest)) :=
  rfl

theorem upperCount_readsOn (spaced : Bool) (first : Option Nat) :
    ReadsOn (upperCount spaced first) := by
  intro text closed value rest hText h
  unfold upperCount at h ⊢
  cases hPast : skip spaced text with
  | nil => simp only [hPast] at h; cases h
  | cons c more =>
    obtain ⟨moreClosed, hPastClosed, hSkip, -⟩ := skip_closes_cons hText hPast
    simp only [hPast] at h
    simp only [hPastClosed]
    by_cases hBrace : c = '\x7d'
    · subst hBrace
      obtain ⟨n, hCount, h⟩ := bind_eq_ok.1 h
      obtain ⟨rfl, rfl⟩ := Prod.mk.inj (Except.ok.inj h)
      exact ⟨_, bind_eq_ok.2 ⟨n, hCount, rfl⟩, hSkip⟩
    · simp only [List.cons.injEq, hBrace, false_and, imp_self, implies_true] at h ⊢
      obtain ⟨least, hLeast, h⟩ := bind_eq_ok.1 h
      obtain ⟨⟨second, last⟩, hSecond, h⟩ := bind_eq_ok.1 h
      obtain ⟨most, hMost, h⟩ := bind_eq_ok.1 h
      obtain ⟨rfl, rfl⟩ := Prod.mk.inj (Except.ok.inj h)
      obtain ⟨lastClosed, hSecondClosed, hLast⟩ := number?_readsOn spaced hSkip hSecond
      exact ⟨lastClosed, bind_eq_ok.2 ⟨least, hLeast, bind_eq_ok.2
        ⟨(second, lastClosed), hSecondClosed, bind_eq_ok.2 ⟨most, hMost, rfl⟩⟩⟩, hLast⟩

theorem countRange_readsOn (spaced : Bool) : ReadsOn (countRange spaced) := by
  intro text closed value rest hText h
  rw [countRange_eq] at h ⊢
  obtain ⟨⟨first, after⟩, hFirst, h⟩ := bind_eq_ok.1 h
  obtain ⟨afterClosed, hFirstClosed, hAfter⟩ := number?_readsOn spaced hText hFirst
  simp only [hFirstClosed, ok_bind]
  cases after with
  | nil => cases h
  | cons c more =>
    obtain ⟨moreClosed, rfl, hMore⟩ := hAfter.cons
    by_cases hComma : c = ','
    · subst hComma
      exact upperCount_readsOn spaced first hMore h
    · simp only [List.cons.injEq, hComma, false_and, imp_self, implies_true] at h ⊢
      obtain ⟨n, hCount, h⟩ := bind_eq_ok.1 h
      obtain ⟨rfl, rfl⟩ := Prod.mk.inj (Except.ok.inj h)
      exact ⟨_, bind_eq_ok.2 ⟨n, hCount, rfl⟩, hAfter⟩

theorem bounds_readsOn (spaced : Bool) : ReadsOn (bounds spaced) := by
  intro text closed value rest hText h
  unfold bounds at h ⊢
  cases hPast : skip spaced text with
  | nil => simp only [hPast] at h; cases h
  | cons c more =>
    obtain ⟨moreClosed, hPastClosed, hSkip, hMore⟩ := skip_closes_cons hText hPast
    simp only [hPast, List.isEmpty_cons, Bool.false_eq_true, if_false] at h
    simp only [hPastClosed, List.isEmpty_cons, Bool.false_eq_true, if_false]
    obtain ⟨⟨range, after⟩, hRange, h⟩ := bind_eq_ok.1 h
    obtain ⟨afterClosed, hRangeClosed, hAfter⟩ := countRange_readsOn spaced hSkip hRange
    simp only [hRangeClosed, ok_bind]
    cases after with
    | nil => cases h
    | cons d last =>
      obtain ⟨lastClosed, rfl, hLast⟩ := hAfter.cons
      by_cases hBrace : d = '\x7d'
      · subst hBrace
        simp only at h ⊢
        split at h
        · next hBounds =>
          obtain ⟨rfl, rfl⟩ := Prod.mk.inj (Except.ok.inj h)
          exact ⟨lastClosed, by rw [if_pos hBounds]; rfl, hLast⟩
        · cases h
      · simp only [List.cons.injEq, hBrace, false_and, imp_self, implies_true] at h
        cases h

/-! ## Escapes -/

theorem fixedHex_readsOn (spaced : Bool) (n value : Nat) : ReadsOn (fixedHex spaced n value) := by
  intro text closed code rest hText h
  induction n generalizing text closed value with
  | zero =>
    obtain ⟨rfl, rfl⟩ := Prod.mk.inj (Except.ok.inj h)
    exact ⟨closed, rfl, hText⟩
  | succ n ih =>
    cases text with
    | nil => cases h
    | cons c more =>
      obtain ⟨moreClosed, rfl, hMore⟩ := hText.cons
      simp only [fixedHex] at h ⊢
      split at h
      · exact ih _ (skip_closes hMore spaced) h
      · cases h

theorem bracedHex_readsOn (spaced : Bool) {fuel fuelClosed : Nat} (hFuel : fuel ≤ fuelClosed)
    {read value : Nat} {text closed rest : List Char} {code : Nat} (hText : Closes text closed)
    (h : bracedHex spaced fuel read value text = .ok (code, rest)) :
    ∃ restClosed, bracedHex spaced fuelClosed read value closed = .ok (code, restClosed) ∧
      Closes rest restClosed := by
  induction fuel generalizing fuelClosed read value text closed with
  | zero => cases h
  | succ fuel ih =>
    obtain ⟨fuelClosed, rfl⟩ := Nat.exists_eq_add_of_lt hFuel
    simp only [bracedHex] at h ⊢
    cases hPast : skip spaced text with
    | nil => simp only [hPast] at h; cases h
    | cons c more =>
      obtain ⟨moreClosed, hPastClosed, -, hMore⟩ := skip_closes_cons hText hPast
      simp only [hPast] at h
      simp only [hPastClosed]
      by_cases hBrace : c = '\x7d'
      · subst hBrace
        simp only at h ⊢
        split at h
        · cases h
        · next hRead =>
          obtain ⟨rfl, rfl⟩ := Prod.mk.inj (Except.ok.inj h)
          exact ⟨_, by rw [if_neg hRead], skip_closes hMore spaced⟩
      · simp only at h ⊢
        split at h
        · exact ih (by omega) hMore h
        · cases h

theorem hexEscape_readsOn (spaced : Bool) (width : Nat) : ReadsOn (hexEscape spaced width) := by
  intro text closed value rest hText h
  unfold hexEscape at h ⊢
  cases hPast : skip spaced text with
  | nil => simp only [hPast] at h; cases h
  | cons c more =>
    obtain ⟨moreClosed, hPastClosed, hSkip, hMore⟩ := skip_closes_cons hText hPast
    simp only [hPast] at h
    simp only [hPastClosed]
    by_cases hBrace : c = '\x7b'
    · subst hBrace
      obtain ⟨⟨code, after⟩, hCode, h⟩ := bind_eq_ok.1 h
      obtain ⟨char, hChar, h⟩ := bind_eq_ok.1 h
      obtain ⟨rfl, rfl⟩ := Prod.mk.inj (Except.ok.inj h)
      have hFuel := Nat.succ_le_succ hMore.length_le
      obtain ⟨afterClosed, hCodeClosed, hAfter⟩ := bracedHex_readsOn spaced hFuel hMore hCode
      exact ⟨afterClosed, bind_eq_ok.2 ⟨_, hCodeClosed, bind_eq_ok.2 ⟨char, hChar, rfl⟩⟩, hAfter⟩
    · simp only [List.cons.injEq, hBrace, false_and, imp_self, implies_true] at h ⊢
      obtain ⟨⟨code, after⟩, hCode, h⟩ := bind_eq_ok.1 h
      obtain ⟨char, hChar, h⟩ := bind_eq_ok.1 h
      obtain ⟨rfl, rfl⟩ := Prod.mk.inj (Except.ok.inj h)
      obtain ⟨afterClosed, hCodeClosed, hAfter⟩ := fixedHex_readsOn spaced width 0 hSkip hCode
      exact ⟨afterClosed, bind_eq_ok.2 ⟨_, hCodeClosed, bind_eq_ok.2 ⟨char, hChar, rfl⟩⟩, hAfter⟩

theorem untilBrace_readsOn (spaced : Bool) {fuel fuelClosed : Nat} (hFuel : fuel ≤ fuelClosed)
    {text closed name rest : List Char} (hText : Closes text closed)
    (h : untilBrace spaced fuel text = .ok (name, rest)) :
    ∃ restClosed, untilBrace spaced fuelClosed closed = .ok (name, restClosed) ∧
      Closes rest restClosed := by
  induction fuel generalizing fuelClosed text closed name with
  | zero => cases h
  | succ fuel ih =>
    obtain ⟨fuelClosed, rfl⟩ := Nat.exists_eq_add_of_lt hFuel
    simp only [untilBrace] at h ⊢
    cases hPast : skip spaced text with
    | nil => simp only [hPast] at h; cases h
    | cons c more =>
      obtain ⟨moreClosed, hPastClosed, -, hMore⟩ := skip_closes_cons hText hPast
      simp only [hPast] at h
      simp only [hPastClosed]
      by_cases hBrace : c = '\x7d'
      · subst hBrace
        obtain ⟨rfl, rfl⟩ := Prod.mk.inj (Except.ok.inj h)
        exact ⟨moreClosed, rfl, hMore⟩
      · simp only at h ⊢
        obtain ⟨⟨chars, after⟩, hChars, h⟩ := bind_eq_ok.1 h
        obtain ⟨rfl, rfl⟩ := Prod.mk.inj (Except.ok.inj h)
        obtain ⟨afterClosed, hCharsClosed, hAfter⟩ := ih (Nat.le_add_right ..) hMore hChars
        exact ⟨afterClosed, bind_eq_ok.2 ⟨_, hCharsClosed, rfl⟩, hAfter⟩

theorem propertyEscape_readsOn (spaced outside : Bool) :
    ReadsOn (propertyEscape spaced outside) := by
  intro text closed value rest hText h
  unfold propertyEscape at h ⊢
  cases hPast : skip spaced text with
  | nil => simp only [hPast] at h; cases h
  | cons c more =>
    obtain ⟨moreClosed, hPastClosed, -, hMore⟩ := skip_closes_cons hText hPast
    simp only [hPast] at h
    simp only [hPastClosed]
    by_cases hBrace : c = '\x7b'
    · subst hBrace
      obtain ⟨⟨name, after⟩, hName, h⟩ := bind_eq_ok.1 h
      obtain ⟨⟨set, other⟩, hSet, h⟩ := bind_eq_ok.1 h
      obtain ⟨rfl, rfl⟩ := Prod.mk.inj (Except.ok.inj h)
      have hFuel := Nat.succ_le_succ hMore.length_le
      obtain ⟨afterClosed, hNameClosed, hAfter⟩ := untilBrace_readsOn spaced hFuel hMore hName
      exact ⟨afterClosed, bind_eq_ok.2 ⟨_, hNameClosed, bind_eq_ok.2 ⟨_, hSet, rfl⟩⟩, hAfter⟩
    · by_cases hBackslash : c = '\\'
      · subst hBackslash
        cases h
      · simp only at h ⊢
        split at h
        · next set hSet =>
          obtain ⟨rfl, rfl⟩ := Prod.mk.inj (Except.ok.inj h)
          exact ⟨_, rfl, skip_closes hMore spaced⟩
        · cases h

theorem edgeName_eq_takeGapped (spaced : Bool) (fuel : Nat) (text : List Char) :
    edgeName spaced fuel text =
      takeGapped (fun c => c.isAlpha || c = '-') spaced fuel text := by
  induction fuel generalizing text with
  | zero => rfl
  | succ fuel ih => cases text <;> simp only [edgeName, takeGapped, ih]

/-- Reads the name of a word edge and the brace that closes it. -/
def namedEdge (spaced : Bool) (text : List Char) : Outcome (Escape × List Char) := do
  let (name, rest) := edgeName spaced text.length text
  match rest with
  | '\x7d' :: rest => return (← edgeNamed (String.ofList name), rest)
  | _ => .error .unclosedWordEdge

theorem wordEdge_eq (spaced : Bool) (text : List Char) : wordEdge spaced text = (do
    match text with
    | '\x7b' :: rest =>
      match skip spaced rest with
      | [] => .error .unclosedWordEdge
      | c :: inner =>
        if c.isAlpha || c = '-' then namedEdge spaced (c :: inner) else return (.wordEdge, text)
    | _ => return (.wordEdge, text)) :=
  rfl

/-- What comes after the name of a word edge does not change with the closing. -/
theorem edgeName_closes (spaced : Bool) {text closed name rest : List Char}
    (hText : Closes text closed) (h : edgeName spaced text.length text = (name, rest)) :
    ∃ restClosed, edgeName spaced closed.length closed = (name, restClosed) ∧
      Closes rest restClosed := by
  rw [edgeName_eq_takeGapped] at h ⊢
  exact takeGapped_closes (by decide) spaced hText (Nat.le_refl _) (Nat.le_refl _) h

theorem namedEdge_readsOn (spaced : Bool) : ReadsOn (namedEdge spaced) := by
  intro text closed value rest hText h
  unfold namedEdge at h ⊢
  rcases hName : edgeName spaced text.length text with ⟨name, after⟩
  obtain ⟨afterClosed, hNameClosed, hAfter⟩ := edgeName_closes spaced hText hName
  simp only [hName] at h
  simp only [hNameClosed]
  cases after with
  | nil => cases h
  | cons c last =>
    obtain ⟨lastClosed, rfl, hLast⟩ := hAfter.cons
    by_cases hEnd : c = '\x7d'
    · subst hEnd
      obtain ⟨edge, hEdge, h⟩ := bind_eq_ok.1 h
      obtain ⟨rfl, rfl⟩ := Prod.mk.inj (Except.ok.inj h)
      exact ⟨lastClosed, bind_eq_ok.2 ⟨edge, hEdge, rfl⟩, hLast⟩
    · simp only [List.cons.injEq, hEnd, false_and, imp_self, implies_true] at h
      cases h

theorem wordEdge_readsOn (spaced : Bool) : ReadsOn (wordEdge spaced) := by
  intro text closed value rest hText h
  cases text with
  | nil =>
    obtain ⟨rfl, rfl⟩ := Prod.mk.inj (Except.ok.inj h)
    rcases hText.nil with rfl | rfl
    · exact ⟨closing, rfl, hText⟩
    · exact ⟨[], rfl, hText⟩
  | cons c more =>
    obtain ⟨moreClosed, rfl, hMore⟩ := hText.cons
    rw [wordEdge_eq] at h ⊢
    by_cases hBrace : c = '\x7b'
    · subst hBrace
      cases hPast : skip spaced more with
      | nil => simp only [hPast] at h; cases h
      | cons d inner =>
        obtain ⟨innerClosed, hPastClosed, hSkip, -⟩ := skip_closes_cons hMore hPast
        simp only [hPast] at h
        simp only [hPastClosed]
        split at h
        · next hLetter =>
          rw [if_pos hLetter]
          exact namedEdge_readsOn spaced hSkip h
        · next hLetter =>
          rw [if_neg hLetter]
          obtain ⟨rfl, rfl⟩ := Prod.mk.inj (Except.ok.inj h)
          exact ⟨_, rfl, hText⟩
    · simp only [List.cons.injEq, hBrace, false_and, imp_self, implies_true] at h ⊢
      obtain ⟨rfl, rfl⟩ := Prod.mk.inj (Except.ok.inj h)
      exact ⟨_, rfl, hText⟩

theorem escape_readsOn (spaced : Bool) : ReadsOn (escape spaced) := by
  intro text closed value rest hText h
  cases text with
  | nil => cases h
  | cons c more =>
    obtain ⟨moreClosed, rfl, hMore⟩ := hText.cons
    simp only [escape] at h ⊢
    split at h
    · cases h
    · next hDigit =>
      rw [if_neg hDigit]
      split at h
      · next hEscapable =>
        obtain ⟨rfl, rfl⟩ := Prod.mk.inj (Except.ok.inj h)
        exact ⟨moreClosed, by rw [if_pos hEscapable], hMore⟩
      · next hEscapable =>
        rw [if_neg hEscapable]
        split at h
        · exact hexEscape_readsOn spaced 2 hMore h
        · exact hexEscape_readsOn spaced 4 hMore h
        · exact hexEscape_readsOn spaced 8 hMore h
        · exact propertyEscape_readsOn spaced false hMore h
        · exact propertyEscape_readsOn spaced true hMore h
        case h_20 => exact wordEdge_readsOn spaced hMore h
        case h_24 => cases h
        all_goals
          obtain ⟨rfl, rfl⟩ := Prod.mk.inj (Except.ok.inj h)
          exact ⟨moreClosed, rfl, hMore⟩

/-! ## Flags and names -/

theorem flags_readsOn (current : Flags) (seen : List Char) (dangling : Bool) :
    ReadsOn (flags current seen dangling) := by
  intro text closed value rest hText h
  induction text generalizing closed current seen dangling with
  | nil => cases h
  | cons c more ih =>
    obtain ⟨moreClosed, rfl, hMore⟩ := hText.cons
    simp only [flags] at h ⊢
    split at h
    · next hEnd =>
      rw [if_pos hEnd]
      split at h
      · cases h
      · next hDangling =>
        obtain ⟨rfl, rfl⟩ := Prod.mk.inj (Except.ok.inj h)
        exact ⟨_, by rw [if_neg hDangling], hText⟩
    · next hEnd =>
      rw [if_neg hEnd]
      split at h
      · next hDash =>
        rw [if_pos hDash]
        split at h
        · cases h
        · next hSeen =>
          rw [if_neg hSeen]
          exact ih _ _ _ hMore h
      · next hDash =>
        rw [if_neg hDash]
        split at h
        · cases h
        · split at h
          · cases h
          · next hSeen =>
            rw [if_neg hSeen]
            exact ih _ _ _ hMore h

theorem groupName_readsOn (first : Bool) : ReadsOn (groupName first) := by
  intro text closed value rest hText h
  induction text generalizing closed first value with
  | nil => cases h
  | cons c more ih =>
    obtain ⟨moreClosed, rfl, hMore⟩ := hText.cons
    simp only [groupName] at h ⊢
    split at h
    · next hAngle =>
      rw [if_pos hAngle]
      split at h
      · cases h
      · next hFirst =>
        obtain ⟨rfl, rfl⟩ := Prod.mk.inj (Except.ok.inj h)
        exact ⟨moreClosed, by rw [if_neg hFirst], hMore⟩
    · next hAngle =>
      rw [if_neg hAngle]
      split at h
      · next hChar =>
        rw [if_pos hChar]
        obtain ⟨⟨name, after⟩, hName, h⟩ := bind_eq_ok.1 h
        obtain ⟨rfl, rfl⟩ := Prod.mk.inj (Except.ok.inj h)
        obtain ⟨afterClosed, hNameClosed, hAfter⟩ := ih false hMore hName
        exact ⟨afterClosed, bind_eq_ok.2 ⟨_, hNameClosed, rfl⟩, hAfter⟩
      · cases h

/-! ## Classes -/

/-- The class whose name ends at the first colon, if a bracket comes after that. -/
def classNamed? (outside : Bool) (text : List Char) :
    Option (Unicode.Ranges × Bool × List Char) :=
  let (name, rest) := text.span fun c => c != ':'
  match rest with
  | ':' :: ']' :: rest =>
    (asciiClasses.find? fun entry => entry.1 = String.ofList name).map fun entry =>
      (entry.2, outside, rest)
  | _ => none

theorem span_colon {name : List Char} (h : ':' ∉ name) (rest : List Char) :
    (name ++ ':' :: rest).span (fun c => c != ':') = (name, ':' :: rest) := by
  have hName : ∀ c ∈ name, (c != ':') = true := fun c hMem =>
    bne_iff_ne.2 fun heq => h (heq ▸ hMem)
  rw [List.span_eq_takeWhile_dropWhile, List.takeWhile_append_of_pos hName,
    List.dropWhile_append_of_pos hName]
  simp

theorem span_of_no_colon {text : List Char} (h : ':' ∉ text) :
    text.span (fun c => c != ':') = (text, []) := by
  have hText : ∀ c ∈ text, (c != ':') = true := fun c hMem =>
    bne_iff_ne.2 fun heq => h (heq ▸ hMem)
  rw [List.span_eq_takeWhile_dropWhile, List.takeWhile_eq_self_iff.2 hText,
    List.dropWhile_eq_nil_iff.2 hText]

/-- No name of a class ends within the closing. -/
theorem classNamed?_append (outside : Bool) (text : List Char) :
    classNamed? outside (text ++ closing) =
      (classNamed? outside text).map fun found => (found.1, found.2.1, found.2.2 ++ closing) := by
  unfold classNamed?
  by_cases hColon : ':' ∈ text
  · obtain ⟨name, rest, rfl, hName⟩ := List.eq_append_cons_of_mem hColon
    rw [List.append_assoc, List.cons_append, span_colon hName, span_colon hName]
    cases rest with
    | nil => rfl
    | cons c rest =>
      by_cases hBracket : c = ']'
      · subst hBracket
        simp [Function.comp_def]
      · simp [hBracket]
  · have hClosed : ':' ∉ text ++ closing := by simp [hColon, closing]
    rw [span_of_no_colon hColon, span_of_no_colon hClosed]
    rfl

theorem asciiClass?_inside {d : Char} (hCaret : d ≠ '^') (text : List Char) :
    asciiClass? (':' :: d :: text) = classNamed? false (d :: text) := by
  simp only [asciiClass?, List.cons.injEq, hCaret, false_and, imp_self, implies_true]
  rfl

theorem asciiClass?_append (text : List Char) : asciiClass? (text ++ closing) =
    (asciiClass? text).map fun found => (found.1, found.2.1, found.2.2 ++ closing) := by
  cases text with
  | nil => rfl
  | cons c rest =>
    by_cases hColon : c = ':'
    · subst hColon
      cases rest with
      | nil => exact classNamed?_append false []
      | cons d rest =>
        by_cases hCaret : d = '^'
        · subst hCaret
          exact classNamed?_append true rest
        · rw [List.cons_append, List.cons_append, asciiClass?_inside hCaret,
            asciiClass?_inside hCaret]
          exact classNamed?_append false (d :: rest)
    · simp [asciiClass?, hColon]

theorem leadingMembers_readsOn (spaced : Bool) {fuel fuelClosed : Nat} (hFuel : fuel ≤ fuelClosed)
    {members found : CharClass} {first : Bool} {text closed rest : List Char}
    (hText : Closes text closed)
    (h : leadingMembers spaced fuel members first text = .ok (found, rest)) :
    ∃ restClosed, leadingMembers spaced fuelClosed members first closed = .ok (found, restClosed) ∧
      Closes rest restClosed := by
  induction fuel generalizing fuelClosed members first text closed with
  | zero => cases h
  | succ fuel ih =>
    obtain ⟨fuelClosed, rfl⟩ := Nat.exists_eq_add_of_lt hFuel
    cases text with
    | nil => cases h
    | cons c more =>
      obtain ⟨moreClosed, rfl, hMore⟩ := hText.cons
      by_cases hDash : c = '-'
      · subst hDash
        exact ih (Nat.le_add_right ..) (skip_closes hMore spaced) h
      · by_cases hBracket : c = ']'
        · subst hBracket
          simp only [leadingMembers] at h ⊢
          split at h
          · next hFirst =>
            rw [if_pos hFirst]
            cases hPast : skip spaced more with
            | nil => simp only [hPast] at h; cases h
            | cons d tail =>
              obtain ⟨tailClosed, hPastClosed, hSkip, -⟩ := skip_closes_cons hMore hPast
              simp only [hPast] at h
              obtain ⟨rfl, rfl⟩ := Prod.mk.inj (Except.ok.inj h)
              exact ⟨_, by simp only [hPastClosed], hSkip⟩
          · next hFirst =>
            rw [if_neg hFirst]
            obtain ⟨rfl, rfl⟩ := Prod.mk.inj (Except.ok.inj h)
            exact ⟨_, rfl, hText⟩
        · simp only [leadingMembers, List.cons.injEq, hDash, hBracket, false_and, imp_self,
            implies_true] at h ⊢
          obtain ⟨rfl, rfl⟩ := Prod.mk.inj (Except.ok.inj h)
          exact ⟨_, rfl, hText⟩

/-- A class, or what is outside it, with the members that are read at its beginning. -/
def classOpened (spaced complement : Bool) (text : List Char) :
    Outcome (OpenClass × List Char) := do
  let (members, rest) ← leadingMembers spaced (text.length + 1) .none true text
  return (⟨complement, members, none⟩, rest)

/-- A class that goes on to the closing begins like one that ends with the text. -/
theorem openClass_closes (spaced : Bool) {text closed : List Char} (hText : Closes text closed) :
    ∃ complement inner innerClosed, Closes inner innerClosed ∧ inner <:+ text ∧
      openClass spaced text = classOpened spaced complement inner ∧
      openClass spaced closed = classOpened spaced complement innerClosed := by
  have hSkip := skip_closes hText spaced
  have hSuffix := skip_suffix spaced text
  unfold openClass
  generalize skip spaced text = inner at hSkip hSuffix ⊢
  generalize skip spaced closed = innerClosed at hSkip ⊢
  by_cases hCaret : ∃ more, inner = '^' :: more
  · obtain ⟨more, rfl⟩ := hCaret
    obtain ⟨moreClosed, rfl, hMore⟩ := hSkip.cons
    exact ⟨true, skip spaced more, skip spaced moreClosed, skip_closes hMore spaced,
      ((skip_suffix spaced more).trans (List.suffix_cons ..)).trans hSuffix, rfl, rfl⟩
  · have hCaretClosed : ∀ more, innerClosed ≠ '^' :: more := by
      rintro more rfl
      exact hCaret (hSkip.of_cons (by decide))
    refine ⟨false, inner, innerClosed, hSkip, hSuffix, ?_, ?_⟩
    · simp only [not_exists] at hCaret
      simp only
      rfl
    · simp only [ne_eq] at hCaretClosed
      simp only
      rfl

theorem classOpened_readsOn (spaced complement : Bool) :
    ReadsOn (classOpened spaced complement) := by
  intro text closed value rest hText h
  obtain ⟨⟨members, after⟩, hMembers, h⟩ := bind_eq_ok.1 h
  obtain ⟨rfl, rfl⟩ := Prod.mk.inj (Except.ok.inj h)
  have hFuel := Nat.succ_le_succ hText.length_le
  obtain ⟨afterClosed, hClosed, hAfter⟩ := leadingMembers_readsOn spaced hFuel hText hMembers
  exact ⟨afterClosed, bind_eq_ok.2 ⟨_, hClosed, rfl⟩, hAfter⟩

theorem openClass_readsOn (spaced : Bool) : ReadsOn (openClass spaced) := by
  intro text closed value rest hText h
  obtain ⟨complement, inner, innerClosed, hInner, -, hOpen, hOpenClosed⟩ :=
    openClass_closes spaced hText
  rw [hOpen] at h
  rw [hOpenClosed]
  exact classOpened_readsOn spaced complement hInner h

theorem head?_ne_of_dropBlanks {c : Char} (hBlank : Unicode.isBlank c = false) {text : List Char}
    (h : (text.dropWhile Unicode.isBlank).head? ≠ some c) : text.head? ≠ some c := by
  cases text with
  | nil => simp
  | cons d rest =>
    intro hHead
    obtain rfl : d = c := by simpa using hHead
    simp [hBlank] at h

/-- Whether what comes after a dash shows that the dash stands for itself. -/
def endsAtDash (next? : Option Char) : Bool :=
  next? = some ']' || next? = some '-'

theorem endsAtDash_head? {text : List Char}
    (h : endsAtDash (text.dropWhile Unicode.isBlank).head? = false) :
    endsAtDash text.head? = false := by
  simp only [endsAtDash, Bool.or_eq_false_iff, decide_eq_false_iff_not] at h ⊢
  exact ⟨head?_ne_of_dropBlanks (by decide) h.1, head?_ne_of_dropBlanks (by decide) h.2⟩

/-- Whether a dash stands for itself does not depend on the closing. -/
theorem endsAtDash_peekPastGap (spaced : Bool) {text closed : List Char} (h : Closes text closed) :
    endsAtDash (peekPastGap spaced closed) = endsAtDash (peekPastGap spaced text) := by
  have hHead {text closed : List Char} (h : Closes text closed) :
      endsAtDash closed.head? = endsAtDash text.head? := by
    cases text with
    | nil => rcases h.nil with rfl | rfl <;> rfl
    | cons c rest =>
      obtain ⟨restClosed, rfl, -⟩ := h.cons
      rfl
  unfold peekPastGap
  cases spaced with
  | false => exact hHead h
  | true =>
    have hBlanks := dropBlanks_closes h
    simp only [Bool.not_true, Bool.false_eq_true, if_false]
    cases hPast : text.dropWhile Unicode.isBlank with
    | nil =>
      have hText := @endsAtDash_head? text (by rw [hPast]; rfl)
      rw [hPast] at hBlanks
      rcases hBlanks.nil with hClosed | hClosed
      · simp only [hClosed, closing, hText]
        rfl
      · simp only [hClosed, hHead h]
    | cons c rest =>
      rw [hPast] at hBlanks
      obtain ⟨restClosed, hClosed, hRest⟩ := hBlanks.cons
      by_cases hComment : c = '#'
      · subst hComment
        have hText := @endsAtDash_head? text (by rw [hPast]; rfl)
        have hAfter := dropBlanks_closes hRest
        simp only [hClosed]
        cases hNext : rest.dropWhile Unicode.isBlank with
        | nil =>
          rw [hNext] at hAfter
          rcases hAfter.nil with hEnd | hEnd
          · simp [hEnd, closing, hText]; rfl
          · simp [hEnd, hHead h]
        | cons d more =>
          rw [hNext] at hAfter
          obtain ⟨moreClosed, hEnd, -⟩ := hAfter.cons
          simp [hEnd]
      · simp only [hClosed]

theorem classAtom_readsOn (flags : Flags) : ReadsOn (classAtom flags) := by
  intro text closed value rest hText h
  cases text with
  | nil => cases h
  | cons c more =>
    obtain ⟨moreClosed, rfl, hMore⟩ := hText.cons
    by_cases hBackslash : c = '\\'
    · subst hBackslash
      exact escape_readsOn flags.spaced hMore h
    · simp only [classAtom] at h ⊢
      obtain ⟨rfl, rfl⟩ := Prod.mk.inj (Except.ok.inj h)
      exact ⟨moreClosed, rfl, hMore⟩

/-- Reads the end of a range after its dash. -/
def rangeFrom (flags : Flags) (first : Escape) (text : List Char) :
    Outcome (CharClass × List Char) :=
  match skip flags.spaced text with
  | [] => .error .unclosedClass
  | after => do
    let (second, rest) ← classAtom flags after
    let low ← flags.bound first
    let high ← flags.bound second
    if high < low then .error .invalidClassRange
    else return (.ranges [⟨low.toNat, high.toNat⟩], rest)

/-- Reads what follows an atom: a range that begins with it, or nothing that belongs to it. -/
def memberFrom (flags : Flags) (first : Escape) (text : List Char) :
    Outcome (CharClass × List Char) := do
  match skip flags.spaced text with
  | [] => .error .unclosedClass
  | '-' :: after =>
    if endsAtDash (peekPastGap flags.spaced after) then
      return (← flags.atomMembers first, '-' :: after)
    else rangeFrom flags first after
  | rest => return (← flags.atomMembers first, rest)

theorem classMember_eq (flags : Flags) (text : List Char) : classMember flags text = (do
    let (first, rest) ← classAtom flags text
    memberFrom flags first rest) :=
  rfl

theorem rangeFrom_readsOn (flags : Flags) (first : Escape) : ReadsOn (rangeFrom flags first) := by
  intro text closed value rest hText h
  unfold rangeFrom at h ⊢
  cases hPast : skip flags.spaced text with
  | nil => simp only [hPast] at h; cases h
  | cons c more =>
    obtain ⟨moreClosed, hPastClosed, hSkip, -⟩ := skip_closes_cons hText hPast
    simp only [hPast] at h
    simp only [hPastClosed]
    obtain ⟨⟨second, after⟩, hSecond, h⟩ := bind_eq_ok.1 h
    obtain ⟨low, hLow, h⟩ := bind_eq_ok.1 h
    obtain ⟨high, hHigh, h⟩ := bind_eq_ok.1 h
    obtain ⟨afterClosed, hSecondClosed, hAfter⟩ := classAtom_readsOn flags hSkip hSecond
    simp only [hSecondClosed, ok_bind, hLow, hHigh]
    split at h
    · cases h
    · next hOrder =>
      obtain ⟨rfl, rfl⟩ := Prod.mk.inj (Except.ok.inj h)
      exact ⟨afterClosed, by rw [if_neg hOrder]; rfl, hAfter⟩

theorem memberFrom_readsOn (flags : Flags) (first : Escape) :
    ReadsOn (memberFrom flags first) := by
  intro text closed value rest hText h
  unfold memberFrom at h ⊢
  cases hPast : skip flags.spaced text with
  | nil => simp only [hPast] at h; cases h
  | cons c more =>
    obtain ⟨moreClosed, hPastClosed, hSkip, hMore⟩ := skip_closes_cons hText hPast
    simp only [hPast] at h
    simp only [hPastClosed]
    by_cases hDash : c = '-'
    · subst hDash
      simp only [endsAtDash_peekPastGap flags.spaced hMore] at h ⊢
      split at h
      · next hEnds =>
        rw [if_pos hEnds]
        obtain ⟨members, hMembers, h⟩ := bind_eq_ok.1 h
        obtain ⟨rfl, rfl⟩ := Prod.mk.inj (Except.ok.inj h)
        exact ⟨_, bind_eq_ok.2 ⟨members, hMembers, rfl⟩, hSkip⟩
      · next hRange =>
        rw [if_neg hRange]
        exact rangeFrom_readsOn flags first hMore h
    · simp only [List.cons.injEq, hDash, false_and, imp_self, implies_true] at h ⊢
      obtain ⟨members, hMembers, h⟩ := bind_eq_ok.1 h
      obtain ⟨rfl, rfl⟩ := Prod.mk.inj (Except.ok.inj h)
      exact ⟨_, bind_eq_ok.2 ⟨members, hMembers, rfl⟩, hSkip⟩

theorem classMember_readsOn (flags : Flags) : ReadsOn (classMember flags) := by
  intro text closed value rest hText h
  rw [classMember_eq] at h ⊢
  obtain ⟨⟨first, after⟩, hFirst, h⟩ := bind_eq_ok.1 h
  obtain ⟨afterClosed, hFirstClosed, hAfter⟩ := classAtom_readsOn flags hText hFirst
  simp only [hFirstClosed, ok_bind]
  exact memberFrom_readsOn flags first hAfter h

/-- If neither a bracket nor an operation stands at the front of a text, a member is read, with the
    closing after the text, too. -/
theorem classFrom_member {flags : Flags} {fuel : Nat} {current : OpenClass}
    {around : List OpenClass} {c : Char} {text closed before : List Char}
    (hText : Closes text closed) (hPast : skip flags.spaced before = c :: closed)
    (hOpen : ∀ rest, c :: text ≠ '[' :: rest) (hClose : ∀ rest, c :: text ≠ ']' :: rest)
    (hAnd : ∀ rest, c :: text ≠ '&' :: '&' :: rest)
    (hMinus : ∀ rest, c :: text ≠ '-' :: '-' :: rest)
    (hOr : ∀ rest, c :: text ≠ '~' :: '~' :: rest) :
    classFrom flags (fuel + 1) current around before = (do
      let (members, rest) ← classMember flags (c :: closed)
      classFrom flags fuel (current.add members) around rest) := by
  simp only [classFrom, hPast]
  split
  · next heq => cases heq
  · next heq =>
    obtain ⟨rfl, -⟩ := List.cons.inj heq
    exact (hOpen text rfl).elim
  · next heq =>
    obtain ⟨rfl, -⟩ := List.cons.inj heq
    exact (hClose text rfl).elim
  · next heq =>
    obtain ⟨rfl, rfl⟩ := List.cons.inj heq
    obtain ⟨tail, rfl⟩ := hText.of_cons (by decide)
    exact (hAnd tail rfl).elim
  · next heq =>
    obtain ⟨rfl, rfl⟩ := List.cons.inj heq
    obtain ⟨tail, rfl⟩ := hText.of_cons (by decide)
    exact (hMinus tail rfl).elim
  · next heq =>
    obtain ⟨rfl, rfl⟩ := List.cons.inj heq
    obtain ⟨tail, rfl⟩ := hText.of_cons (by decide)
    exact (hOr tail rfl).elim
  · rfl

theorem classFrom_readsOn (flags : Flags) {fuel fuelClosed : Nat} (hFuel : fuel ≤ fuelClosed)
    {current : OpenClass} {around : List OpenClass} {text closed rest : List Char}
    {cls : CharClass} (hText : Closes text closed)
    (h : classFrom flags fuel current around text = .ok (cls, rest)) :
    ∃ restClosed, classFrom flags fuelClosed current around closed = .ok (cls, restClosed) ∧
      Closes rest restClosed := by
  induction fuel generalizing fuelClosed current around text closed with
  | zero => cases h
  | succ fuel ih =>
    obtain ⟨fuelClosed, rfl⟩ := Nat.exists_eq_add_of_lt hFuel
    have hMono := Nat.le_add_right fuel fuelClosed
    simp only [classFrom] at h
    cases hPast : skip flags.spaced text with
    | nil => simp only [hPast] at h; cases h
    | cons c more =>
      obtain ⟨moreClosed, hPastClosed, hSkip, hMore⟩ := skip_closes_cons hText hPast
      simp only [hPast] at h
      split at h
      · next heq => cases heq
      · next heq =>
        cases heq
        simp only [classFrom, hPastClosed, hSkip.cons_eq, asciiClass?_append]
        cases hNamed : asciiClass? more with
        | none =>
          simp only [hNamed, Option.map_none] at h ⊢
          obtain ⟨⟨inner, after⟩, hInner, h⟩ := bind_eq_ok.1 h
          obtain ⟨afterClosed, hInnerClosed, hAfter⟩ :=
            openClass_readsOn flags.spaced (closes_closing more) hInner
          simp only [hInnerClosed, ok_bind]
          exact ih hMono hAfter h
        | some found =>
          obtain ⟨ranges, outside, after⟩ := found
          simp only [hNamed, Option.map_some] at h ⊢
          obtain ⟨named, hOutside, h⟩ := bind_eq_ok.1 h
          simp only [hOutside, ok_bind]
          exact ih hMono (closes_closing after) h
      · next heq =>
        cases heq
        simp only [classFrom, hPastClosed]
        obtain ⟨inner, hInner, h⟩ := bind_eq_ok.1 h
        simp only [hInner, ok_bind]
        cases around with
        | nil =>
          obtain ⟨rfl, rfl⟩ := Prod.mk.inj (Except.ok.inj h)
          exact ⟨moreClosed, rfl, hMore⟩
        | cons outer around => exact ih hMono hMore h
      · next heq =>
        cases heq
        obtain ⟨afterClosed, rfl, hAfter⟩ := hMore.cons
        simp only [classFrom, hPastClosed]
        exact ih hMono hAfter h
      · next heq =>
        cases heq
        obtain ⟨afterClosed, rfl, hAfter⟩ := hMore.cons
        simp only [classFrom, hPastClosed]
        exact ih hMono hAfter h
      · next heq =>
        cases heq
        obtain ⟨afterClosed, rfl, hAfter⟩ := hMore.cons
        simp only [classFrom, hPastClosed]
        exact ih hMono hAfter h
      · next hOpen hClose hAnd hMinus hOr =>
        obtain ⟨⟨members, after⟩, hMembers, h⟩ := bind_eq_ok.1 h
        obtain ⟨afterClosed, hMembersClosed, hAfter⟩ := classMember_readsOn flags hSkip hMembers
        rw [classFrom_member hMore hPastClosed hOpen hClose hAnd hMinus hOr, hMembersClosed]
        exact ih hMono hAfter h

theorem bracketed_readsOn (flags : Flags) : ReadsOn (bracketed flags) := by
  intro text closed value rest hText h
  unfold bracketed at h ⊢
  obtain ⟨⟨cls, after⟩, hOpen, h⟩ := bind_eq_ok.1 h
  obtain ⟨afterClosed, hOpenClosed, hAfter⟩ := openClass_readsOn flags.spaced hText hOpen
  obtain ⟨restClosed, hClosed, hRest⟩ :=
    classFrom_readsOn flags (Nat.succ_le_succ hAfter.length_le) hAfter h
  exact ⟨restClosed, bind_eq_ok.2 ⟨_, hOpenClosed, hClosed⟩, hRest⟩

end JavaImports.Written
