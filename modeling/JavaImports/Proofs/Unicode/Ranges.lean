-- SUMMARY: Comparing sets of characters by the bounds of their ranges.
import JavaImports.Unicode.Blank
import JavaImports.Unicode.Property

/-! # Comparing sets of characters

Whether two sets have nothing in common, or one is part of the other, is read off the bounds of
their ranges, however many characters there are. -/

namespace JavaImports.Unicode

namespace Ranges

theorem contains_iff {ranges : Ranges} {c : Char} : ranges.contains c ↔
    ∃ range ∈ ranges, range.first ≤ c.toNat ∧ c.toNat ≤ range.last := by
  simp [Ranges.contains, Range.contains]

/-- Whether every range of `a` lies before or behind every range of `b`. -/
def areApart (a b : Ranges) : Bool :=
  a.all fun left => b.all fun right => left.last < right.first || right.last < left.first

/-- Sets that are apart have no character in common. -/
theorem contains_eq_false_of_areApart {a b : Ranges} (h : areApart a b) {c : Char}
    (hContains : a.contains c) : b.contains c = false := by
  rw [Bool.eq_false_iff]
  intro hOther
  obtain ⟨left, hLeft, hIn⟩ := contains_iff.1 hContains
  obtain ⟨right, hRight, hOtherIn⟩ := contains_iff.1 hOther
  have hApart := List.all_eq_true.1 (List.all_eq_true.1 h left hLeft) right hRight
  simp only [Bool.or_eq_true, decide_eq_true_eq] at hApart
  omega

/-- Whether every range of `inner` lies within one of `outer`, if both are in order. -/
def includes : (outer inner : Ranges) → Bool
  | [], inner => inner.isEmpty
  | range :: outer, inner =>
    match inner.dropWhile fun other => range.first ≤ other.first && other.last ≤ range.last with
    | [] => true
    | first :: more => includes outer (first :: more)

/-- A set holds the characters of the sets it includes. -/
theorem contains_of_includes {outer inner : Ranges} (h : includes outer inner) {c : Char}
    (hContains : inner.contains c) : outer.contains c := by
  induction outer generalizing inner with
  | nil =>
    obtain rfl := List.isEmpty_iff.1 h
    exact hContains
  | cons range outer ih =>
    let isWithin (other : Range) : Bool := range.first ≤ other.first && other.last ≤ range.last
    obtain ⟨other, hOther, hFirst, hLast⟩ := contains_iff.1 hContains
    have hSplit : inner.takeWhile isWithin ++ inner.dropWhile isWithin = inner :=
      List.takeWhile_append_dropWhile
    rcases List.mem_append.1 (hSplit ▸ hOther) with hTaken | hLeft
    · have hWithin := List.all_eq_true.1 List.all_takeWhile other hTaken
      simp only [isWithin, Bool.and_eq_true, decide_eq_true_eq] at hWithin
      refine contains_iff.2 ⟨range, List.mem_cons_self .., ?_, ?_⟩ <;> omega
    · rw [includes] at h
      split at h
      · next hNone => exact absurd (hNone ▸ hLeft) List.not_mem_nil
      · next first more hMore =>
        have hRest := ih h (contains_iff.2 ⟨other, hMore ▸ hLeft, hFirst, hLast⟩)
        obtain ⟨found, hFound, hIn⟩ := contains_iff.1 hRest
        exact contains_iff.2 ⟨found, List.mem_cons_of_mem _ hFound, hIn⟩

/-- The set that a text denotes is read off the characters the text was made of. -/
theorem ofText_eq_scan {text : String} {chars : List Char} (h : text = String.ofList chars) :
    ofText text = scan none none chars := by
  rw [h, ofText, String.toList_ofList]

end Ranges

/-! ## Identifiers -/

-- the long tables are compared as lists of characters: the bytes of a text are slow to decode

/-- No blank may stand inside an identifier. -/
theorem areApart_identifierContinue_blanks : Ranges.areApart identifierContinue blanks := by
  unfold identifierContinue identifierContinueText
  rw [Ranges.ofText_eq_scan rfl]
  decide +kernel

/-- What may start an identifier may continue one. -/
theorem includes_identifierContinue_identifierStart :
    Ranges.includes identifierContinue identifierStart := by
  unfold identifierContinue identifierContinueText identifierStart identifierStartText
  rw [Ranges.ofText_eq_scan rfl, Ranges.ofText_eq_scan rfl]
  decide +kernel

end JavaImports.Unicode
