-- SUMMARY: The lines of a text that was put together from lines.
import JavaImports.Text.Lines
import Mathlib.Algebra.BigOperators.Group.List.Basic
import Mathlib.Data.List.Basic

/-! # Putting lines together

Texts without line feeds come back as the lines of the text that has a line end after each of them,
as long as none of them ends in a carriage return, which would be taken for a part of the line
end. -/

namespace JavaImports.Text

/-- What can end a line. -/
def IsLineEnd (terminator : List Char) : Prop :=
  terminator = ['\n'] ∨ terminator = ['\r', '\n']

/-- A text that is one line, whichever line end comes after it. -/
structure IsLine (text : List Char) : Prop where
  noFeed : '\n' ∉ text
  noReturn : text.getLast? ≠ some '\r'

/-! ## Line by line -/

theorem breakLines_cons_feed (rest : List Char) :
    breakLines ('\n' :: rest) = ([] :: (breakLines rest).1, (breakLines rest).2) := by
  simp [breakLines]

theorem breakLines_line {line : List Char} (h : '\n' ∉ line) (rest : List Char) :
    breakLines (line ++ '\n' :: rest) = (line :: (breakLines rest).1, (breakLines rest).2) := by
  induction line with
  | nil => exact breakLines_cons_feed rest
  | cons c line ih =>
    have hHead : c ≠ '\n' := fun heq => h (heq ▸ List.mem_cons_self ..)
    have hTail : '\n' ∉ line := fun hMem => h (List.mem_cons_of_mem _ hMem)
    simp [breakLines, ih hTail, hHead]

@[simp] theorem lines_nil : lines [] = [] := rfl

/-- The first line of a text, and the lines after it. -/
theorem lines_line {line : List Char} (h : '\n' ∉ line) (rest : List Char) :
    lines (line ++ '\n' :: rest) = dropReturn line :: lines rest := by
  simp [lines, breakLines_line h]

/-- What stands before a line feed and what stands after it have their lines each for itself. -/
theorem lines_append_feed (text rest : List Char) :
    lines (text ++ '\n' :: rest) = lines (text ++ ['\n']) ++ lines rest := by
  by_cases hFeed : '\n' ∈ text
  · obtain ⟨line, after, rfl, hLine⟩ := List.eq_append_cons_of_mem hFeed
    have ih := lines_append_feed after rest
    rw [List.append_assoc, List.cons_append, lines_line hLine, ih, List.append_assoc,
      List.cons_append, lines_line hLine, List.cons_append]
  · simp [lines_line hFeed]
termination_by text.length

theorem not_mem_breakLines (text : List Char) :
    (∀ line ∈ (breakLines text).1, '\n' ∉ line) ∧ '\n' ∉ (breakLines text).2 := by
  induction text with
  | nil => simp [breakLines]
  | cons c rest ih =>
    obtain ⟨hEnded, hLast⟩ := ih
    simp only [breakLines]
    split
    · exact ⟨by simpa using hEnded, hLast⟩
    · next hFeed =>
      split
      · exact ⟨by simp, by simp [hLast, Ne.symm hFeed]⟩
      · next line more heq =>
        simp only [heq, List.mem_cons, forall_eq_or_imp] at hEnded
        exact ⟨by simpa [Ne.symm hFeed] using hEnded, hLast⟩

theorem dropReturn_subset (line : List Char) : dropReturn line ⊆ line := by
  unfold dropReturn
  split
  · exact List.dropLast_subset line
  · exact List.Subset.refl _

/-- No line of a text has a line feed in it. -/
theorem not_mem_of_mem_lines {text line : List Char} (h : line ∈ lines text) : '\n' ∉ line := by
  obtain ⟨hEnded, hLast⟩ := not_mem_breakLines text
  simp only [lines, List.mem_append, List.mem_map] at h
  rcases h with ⟨ended, hMem, rfl⟩ | h
  · exact fun hFeed => hEnded ended hMem (dropReturn_subset ended hFeed)
  · split at h
    · cases h
    · simpa [List.mem_singleton.1 h] using hLast

/-! ## Terminated lines -/

theorem dropReturn_append_return (line : List Char) : dropReturn (line ++ ['\r']) = line := by
  simp [dropReturn]

/-! ## Other terminators -/

theorem breakLines_of_not_mem {text : List Char} (h : '\n' ∉ text) :
    breakLines text = ([], text) := by
  induction text with
  | nil => rfl
  | cons c rest ih =>
    have hHead : c ≠ '\n' := fun heq => h (heq ▸ List.mem_cons_self ..)
    have hTail : '\n' ∉ rest := fun hMem => h (List.mem_cons_of_mem _ hMem)
    simp [breakLines, ih hTail, hHead]

/-- A text without line feeds is one line. -/
theorem lines_of_not_mem {text : List Char} (h : '\n' ∉ text) (hText : text ≠ []) :
    lines text = [text] := by
  simp [lines, breakLines_of_not_mem h, hText]

/-- The first line of a text has the first character of the text, if it has any. -/
theorem exists_lines_cons (c : Char) (rest : List Char) :
    ∃ line more, lines (c :: rest) = line :: more ∧ (line ≠ [] → c ∈ line) := by
  by_cases hFeed : '\n' ∈ c :: rest
  · obtain ⟨line, after, hText, hLine⟩ := List.eq_append_cons_of_mem hFeed
    refine ⟨dropReturn line, lines after, by rw [hText, lines_line hLine], fun hSome => ?_⟩
    cases line with
    | nil => exact absurd rfl hSome
    | cons first line =>
      obtain rfl : c = first := (List.cons.inj hText).1
      unfold dropReturn at hSome ⊢
      split
      · next hReturn =>
        rw [if_pos hReturn] at hSome
        cases line with
        | nil => exact absurd rfl hSome
        | cons => exact List.mem_cons_self ..
      · exact List.mem_cons_self ..
  · exact ⟨c :: rest, [], lines_of_not_mem hFeed (by simp), fun _ => List.mem_cons_self ..⟩

/-- What is dropped from the end of a line is a carriage return or nothing. -/
theorem eq_of_dropReturn_append {line ending : List Char}
    (h : dropReturn (line ++ ending) = line) : ending = [] ∨ ending = ['\r'] := by
  unfold dropReturn at h
  split at h
  · next hReturn =>
    have hWhole := List.dropLast_append_getLast? '\r' hReturn
    rw [h] at hWhole
    exact .inr (List.append_cancel_left hWhole).symm
  · exact .inl (List.append_right_eq_self.1 h)

/-- Only line ends can terminate texts that come back as lines. A terminator without a line feed
    leaves all of them on one line, and one that goes on behind its line feed gets into the next. -/
theorem isLineEnd_of_lines_flatMap {terminator : List Char} (hTerminator : terminator ≠ [])
    {records : List (List Char)} (hRecords : records ≠ [])
    (h : ∀ record ∈ records, record ≠ [] ∧ '\n' ∉ record ∧ ∀ c ∈ terminator, c ∉ record)
    (hLines : lines (records.flatMap fun record => record ++ terminator) = records) :
    IsLineEnd terminator := by
  obtain ⟨record, more, rfl⟩ := List.exists_cons_of_ne_nil hRecords
  obtain ⟨hNonempty, hLine, -⟩ := h record (List.mem_cons_self ..)
  by_cases hFeed : '\n' ∈ terminator
  · obtain ⟨front, back, rfl, hFront⟩ := List.eq_append_cons_of_mem hFeed
    have hFirst : '\n' ∉ record ++ front := by simp [hLine, hFront]
    rw [List.flatMap_cons, ← List.append_assoc, List.append_assoc, List.cons_append,
      lines_line hFirst] at hLines
    obtain ⟨hRecord, hMore⟩ := List.cons.inj hLines
    have hBack : back = [] := by
      cases back with
      | nil => rfl
      | cons c rest =>
        obtain ⟨line, others, hNext, hStart⟩ := exists_lines_cons c
          (rest ++ more.flatMap fun record => record ++ (front ++ '\n' :: c :: rest))
        rw [List.cons_append, hNext] at hMore
        have hMem : line ∈ record :: more := by simp [← hMore]
        obtain ⟨hSome, -, hApart⟩ := h line hMem
        exact absurd (hStart hSome) (hApart c (by simp))
    subst hBack
    rcases eq_of_dropReturn_append hRecord with rfl | rfl
    · exact .inl rfl
    · exact .inr rfl
  · have hNone : '\n' ∉ (record :: more).flatMap fun record => record ++ terminator := by
      simp only [List.mem_flatMap, List.mem_append, not_exists, not_and, not_or]
      exact fun other hOther => ⟨(h other hOther).2.1, hFeed⟩
    rw [lines_of_not_mem hNone (by simp [hNonempty])] at hLines
    have hWhole := (List.cons.inj hLines).1
    rw [List.flatMap_cons, List.append_assoc, List.append_right_eq_self] at hWhole
    exact absurd (List.append_eq_nil_iff.1 hWhole).1 hTerminator

/-! ## Any texts with line ends after them -/

/-- Whether a text comes back as one line when a line end is put behind it. -/
structure ComesBack (terminator text : List Char) : Prop where
  noFeed : '\n' ∉ text
  noReturn : terminator = ['\n'] → text.getLast? ≠ some '\r'

theorem IsLine.comesBack {text : List Char} (h : IsLine text) (terminator : List Char) :
    ComesBack terminator text :=
  ⟨h.noFeed, fun _ => h.noReturn⟩

/-- Every line feed in a text makes one more line of it. -/
theorem length_lines_feed (text : List Char) :
    (lines (text ++ ['\n'])).length = text.count '\n' + 1 := by
  by_cases hFeed : '\n' ∈ text
  · obtain ⟨line, after, rfl, hLine⟩ := List.eq_append_cons_of_mem hFeed
    have ih := length_lines_feed after
    rw [List.append_assoc, List.cons_append, lines_line hLine, List.length_cons, ih]
    simp [List.count_eq_zero.2 hLine]
  · simp [lines_line hFeed, List.count_eq_zero.2 hFeed]
termination_by text.length

theorem dropReturn_eq_self_iff {line : List Char} :
    dropReturn line = line ↔ line.getLast? ≠ some '\r' := by
  refine ⟨fun hSame hReturn => ?_, fun h => by rw [dropReturn, if_neg h]⟩
  rw [dropReturn, if_pos hReturn] at hSame
  have hLength := congrArg List.length hSame
  have hPositive : 0 < line.length := List.length_pos_of_mem (List.mem_of_getLast? hReturn)
  rw [List.length_dropLast] at hLength
  omega

/-- If every element of a list gives way to at least one, the list stays as it is just if each gives
    way to itself. -/
theorem flatMap_eq_self_iff {f : α → List α} {items : List α}
    (h : ∀ item ∈ items, 1 ≤ (f item).length) :
    items.flatMap f = items ↔ ∀ item ∈ items, f item = [item] := by
  induction items with
  | nil => simp
  | cons item more ih =>
    simp only [List.mem_cons, forall_eq_or_imp] at h ⊢
    obtain ⟨hItem, hMore⟩ := h
    have hLength : more.length ≤ (more.flatMap f).length := by
      have hSum := List.length_le_sum_of_one_le (more.map fun item => (f item).length)
        (List.forall_mem_map.2 hMore)
      rwa [List.length_map, ← List.length_flatMap] at hSum
    rw [← ih hMore, List.flatMap_cons]
    constructor
    · intro hSame
      have hWhole := congrArg List.length hSame
      rw [List.length_append, List.length_cons] at hWhole
      have hFirst : (f item).length = [item].length := by
        rw [List.length_singleton]
        omega
      exact List.append_inj hSame hFirst
    · rintro ⟨hItem, hMore⟩
      rw [hItem, hMore]
      rfl

section LineEnds

variable {terminator : List Char}

theorem length_lines_lineEnd (hEnd : IsLineEnd terminator) (text : List Char) :
    (lines (text ++ terminator)).length = text.count '\n' + 1 := by
  rcases hEnd with rfl | rfl
  · exact length_lines_feed text
  · have hLength := length_lines_feed (text ++ ['\r'])
    simpa using hLength

theorem lines_append_lineEnd (hEnd : IsLineEnd terminator) (text rest : List Char) :
    lines (text ++ terminator ++ rest) = lines (text ++ terminator) ++ lines rest := by
  rcases hEnd with rfl | rfl
  · simpa using lines_append_feed text rest
  · simpa using lines_append_feed (text ++ ['\r']) rest

/-- Texts with a line end after each have their lines each for itself. -/
theorem lines_flatMap_lineEnd (hEnd : IsLineEnd terminator) (records : List (List Char)) :
    lines (records.flatMap fun record => record ++ terminator) =
      records.flatMap fun record => lines (record ++ terminator) := by
  induction records with
  | nil => rfl
  | cons record more ih =>
    rw [List.flatMap_cons, List.flatMap_cons, lines_append_lineEnd hEnd, ih]

/-- A text with a line end is one line just if nothing in it can be taken for a line end or a part
    of one. -/
theorem lines_lineEnd_eq_singleton_iff (hEnd : IsLineEnd terminator) {text : List Char} :
    lines (text ++ terminator) = [text] ↔ ComesBack terminator text := by
  constructor
  · intro hSame
    have hFeed : '\n' ∉ text := by
      have hLength := length_lines_lineEnd hEnd text
      rw [hSame, List.length_singleton] at hLength
      exact List.count_eq_zero.1 (by omega)
    refine ⟨hFeed, ?_⟩
    rintro rfl
    rw [lines_line hFeed, lines_nil] at hSame
    exact dropReturn_eq_self_iff.1 (List.cons.inj hSame).1
  · intro h
    rcases hEnd with rfl | rfl
    · rw [lines_line h.noFeed, lines_nil, dropReturn_eq_self_iff.2 (h.noReturn rfl)]
    · have hFeed : '\n' ∉ text ++ ['\r'] := by simp [h.noFeed]
      have hLine := lines_line hFeed []
      simpa [dropReturn_append_return] using hLine

/-- Texts come back as the lines of what they make up just if each of them does. -/
theorem lines_flatMap_eq_iff (hEnd : IsLineEnd terminator) {records : List (List Char)} :
    lines (records.flatMap fun record => record ++ terminator) = records ↔
      ∀ record ∈ records, ComesBack terminator record := by
  rw [lines_flatMap_lineEnd hEnd, flatMap_eq_self_iff fun record _ => by
    rw [length_lines_lineEnd hEnd]
    omega]
  exact forall₂_congr fun record _ => lines_lineEnd_eq_singleton_iff hEnd

end LineEnds

/-! ## One line end or the other -/

/-- Both line ends give a text the same lines unless it ends in a carriage return. -/
theorem lines_feed_eq_lines_return_iff {text : List Char} :
    lines (text ++ ['\n']) = lines (text ++ ['\r', '\n']) ↔ text.getLast? ≠ some '\r' := by
  by_cases hFeed : '\n' ∈ text
  · obtain ⟨line, after, rfl, hLine⟩ := List.eq_append_cons_of_mem hFeed
    have ih := @lines_feed_eq_lines_return_iff after
    have hLast : (line ++ '\n' :: after).getLast? = some '\r' ↔ after.getLast? = some '\r' := by
      cases after with
      | nil => simp
      | cons => simp
    rw [List.append_assoc, List.append_assoc, List.cons_append, List.cons_append,
      lines_line hLine, lines_line hLine, List.cons.injEq, Ne, hLast]
    simpa using ih
  · have hReturn : '\n' ∉ text ++ ['\r'] := by simp [hFeed]
    have hLine := lines_line hReturn []
    rw [List.append_assoc, dropReturn_append_return] at hLine
    simp only [List.singleton_append] at hLine
    rw [hLine, lines_line hFeed, lines_nil, List.cons.injEq, dropReturn_eq_self_iff]
    simp
termination_by text.length

/-- Texts come back alike from both line ends just if none of them ends in a carriage return. -/
theorem lines_flatMap_feed_eq_return_iff {records : List (List Char)} :
    lines (records.flatMap fun record => record ++ ['\n']) =
        lines (records.flatMap fun record => record ++ ['\r', '\n']) ↔
      ∀ record ∈ records, record.getLast? ≠ some '\r' := by
  rw [lines_flatMap_lineEnd (.inl rfl), lines_flatMap_lineEnd (.inr rfl)]
  induction records with
  | nil => simp
  | cons record more ih =>
    have hLength : (lines (record ++ ['\n'])).length = (lines (record ++ ['\r', '\n'])).length := by
      rw [length_lines_lineEnd (.inl rfl), length_lines_lineEnd (.inr rfl)]
    rw [List.forall_mem_cons, ← ih, ← lines_feed_eq_lines_return_iff, List.flatMap_cons,
      List.flatMap_cons]
    refine ⟨fun hSame => List.append_inj hSame hLength, ?_⟩
    rintro ⟨hRecord, hMore⟩
    rw [hRecord, hMore]

end JavaImports.Text
