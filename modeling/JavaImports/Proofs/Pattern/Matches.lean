-- SUMMARY: What it means that a pattern matches a part of a text, and that matching decides it.
import JavaImports.Pattern.Matching
import Mathlib.Data.Finset.Card

/-! # Matches

Whether a pattern matches the part of a text between two places is told by what the pattern is made
of, without saying how a match is found. Finding matches goes the other way: all places where one
can end are computed at once, and a repetition goes on until a round adds no place. That is enough,
since a text has no more places than that. -/

namespace JavaImports.Pattern

/-- Whether `n` steps of a relation lead from one place to another. -/
def Times (step : Nat → Nat → Prop) : (n : Nat) → Nat → Nat → Prop
  | 0, start, stop => start = stop
  | n + 1, start, stop => ∃ between, step start between ∧ Times step n between stop

/-- Whether a pattern matches what stands between two places of a text. A repetition matches at
    least `least` times, and beyond that as often as the limit leaves room for. -/
def Matches (text : Array Char) : Pattern → (start stop : Nat) → Prop
  | .empty, start, stop => start = stop
  | .chars cls, start, stop => stop = start + 1 ∧ ∃ c, text[start]? = some c ∧ cls.contains c
  | .anchor condition, start, stop => start = stop ∧ condition.holdsAt text start
  | .sequence first second, start, stop =>
    ∃ between, Matches text first start between ∧ Matches text second between stop
  | .choice first second, start, stop =>
    Matches text first start stop ∨ Matches text second start stop
  | .repeated pattern least most?, start, stop =>
    ∃ more, (∀ most ∈ most?, more ≤ most - least) ∧
      Times (Matches text pattern) (least + more) start stop

/-- A repetition whose bounds are in order matches as often as a number between them says. -/
theorem matches_repeated_iff {text : Array Char} {pattern : Pattern} {least start stop : Nat}
    {most? : Option Nat} (h : ∀ most ∈ most?, least ≤ most) :
    Matches text (.repeated pattern least most?) start stop ↔
      ∃ n, least ≤ n ∧ (∀ most ∈ most?, n ≤ most) ∧ Times (Matches text pattern) n start stop := by
  rw [Matches]
  constructor
  · rintro ⟨more, hMost, hTimes⟩
    refine ⟨least + more, Nat.le_add_right .., fun most hMem => ?_, hTimes⟩
    have hOrder := h most hMem
    have hRoom := hMost most hMem
    omega
  · rintro ⟨n, hLeast, hMost, hTimes⟩
    obtain ⟨more, rfl⟩ := Nat.exists_eq_add_of_le hLeast
    refine ⟨more, fun most hMem => ?_, hTimes⟩
    have hLimit := hMost most hMem
    omega

/-! ## Steps -/

theorem times_add {step : Nat → Nat → Prop} {m n start stop : Nat} :
    Times step (m + n) start stop ↔
      ∃ between, Times step m start between ∧ Times step n between stop := by
  induction m generalizing start with
  | zero => simp [Times]
  | succ m ih =>
    rw [Nat.add_right_comm]
    simp only [Times, ih]
    constructor
    · rintro ⟨next, hStep, between, hFirst, hSecond⟩
      exact ⟨between, ⟨next, hStep, hFirst⟩, hSecond⟩
    · rintro ⟨between, ⟨next, hStep, hFirst⟩, hSecond⟩
      exact ⟨next, hStep, between, hFirst, hSecond⟩

/-- What is closed under a relation is not left by its steps. -/
theorem Times.mem_of_closed {step : Nat → Nat → Prop} {places : List Nat}
    (hClosed : ∀ start ∈ places, ∀ stop, step start stop → stop ∈ places) {n start stop : Nat}
    (h : Times step n start stop) (hStart : start ∈ places) : stop ∈ places := by
  induction n generalizing start with
  | zero => exact h ▸ hStart
  | succ n ih =>
    obtain ⟨between, hStep, hRest⟩ := h
    exact ih hRest (hClosed start hStart between hStep)

theorem Times.le {step : Nat → Nat → Prop} {bound : Nat}
    (hStep : ∀ start stop, start ≤ bound → step start stop → stop ≤ bound) {n start stop : Nat}
    (h : Times step n start stop) (hStart : start ≤ bound) : stop ≤ bound := by
  induction n generalizing start with
  | zero => exact h ▸ hStart
  | succ n ih =>
    obtain ⟨between, hFirst, hRest⟩ := h
    exact ih hRest (hStep start between hStart hFirst)

/-- A match does not leave the text. -/
theorem Matches.le {text : Array Char} {pattern : Pattern} {start stop : Nat}
    (h : pattern.Matches text start stop) (hStart : start ≤ text.size) : stop ≤ text.size := by
  induction pattern generalizing start stop with
  | empty => exact h ▸ hStart
  | chars cls =>
    obtain ⟨rfl, c, hChar, -⟩ := h
    exact (Array.getElem?_eq_some_iff.1 hChar).1
  | anchor condition => exact h.1 ▸ hStart
  | sequence first second ihFirst ihSecond =>
    obtain ⟨between, hFirst, hSecond⟩ := h
    exact ihSecond hSecond (ihFirst hFirst hStart)
  | choice first second ihFirst ihSecond =>
    rcases h with h | h
    · exact ihFirst h hStart
    · exact ihSecond h hStart
  | repeated pattern least most? ih =>
    obtain ⟨more, -, hTimes⟩ := h
    exact hTimes.le (fun start stop hPlace hStep => ih hStep hPlace) hStart

/-! ## Rounds -/

/-- What holds between rounds: no place is beyond the bound, and from the places that are not in the
    front all steps have been taken. -/
structure Explored (relation : Nat → Nat → Prop) (bound : Nat) (seen front : List Nat) : Prop where
  bounded : ∀ place ∈ seen, place ≤ bound
  front_subset : front ⊆ seen
  steps : ∀ start ∈ seen, start ∉ front → ∀ stop, relation start stop → stop ∈ seen

section Rounds

variable {step : List Nat → List Nat} {relation : Nat → Nat → Prop} {bound : Nat}
  (hStep : ∀ places, (∀ place ∈ places, place ≤ bound) →
    ∀ stop, stop ∈ step places ↔ ∃ start ∈ places, relation start stop)
  (hBound : ∀ start stop, start ≤ bound → relation start stop → stop ≤ bound)

include hStep hBound

theorem mem_stepExactly_iff {n : Nat} {places : List Nat}
    (hPlaces : ∀ place ∈ places, place ≤ bound) {stop : Nat} :
    stop ∈ stepExactly step n places ↔ ∃ start ∈ places, Times relation n start stop := by
  induction n generalizing places with
  | zero => simp [stepExactly, Times]
  | succ n ih =>
    simp only [stepExactly]
    split
    · next hEmpty => simp [List.isEmpty_iff.1 hEmpty]
    · have hNext : ∀ place ∈ step places, place ≤ bound := by
        intro place hPlace
        obtain ⟨start, hStart, hRelation⟩ := (hStep places hPlaces place).1 hPlace
        exact hBound start place (hPlaces start hStart) hRelation
      simp only [ih hNext, hStep places hPlaces, Times]
      constructor
      · rintro ⟨between, ⟨start, hStart, hFirst⟩, hRest⟩
        exact ⟨start, hStart, between, hFirst, hRest⟩
      · rintro ⟨start, hStart, between, hFirst, hRest⟩
        exact ⟨between, ⟨start, hStart, hFirst⟩, hRest⟩

omit hBound in
/-- The places that a round adds. -/
theorem mem_fresh_iff {seen front : List Nat} (h : Explored relation bound seen front)
    {stop : Nat} : stop ∈ (step front).filter (fun place => !seen.contains place) ↔
      (∃ start ∈ front, relation start stop) ∧ stop ∉ seen := by
  simp [hStep front fun place hPlace => h.bounded place (h.front_subset hPlace)]

/-- A round leaves steps to take only from the places it added. -/
theorem Explored.round {seen front : List Nat} (h : Explored relation bound seen front) :
    Explored relation bound (seen ++ (step front).filter fun place => !seen.contains place)
      ((step front).filter fun place => !seen.contains place) := by
  refine ⟨fun place hPlace => ?_, List.subset_append_right .., fun start hStart hOld => ?_⟩
  · rcases List.mem_append.1 hPlace with hSeen | hFresh
    · exact h.bounded place hSeen
    · obtain ⟨⟨start, hStart, hRelation⟩, -⟩ := (mem_fresh_iff hStep h).1 hFresh
      exact hBound start place (h.bounded start (h.front_subset hStart)) hRelation
  · intro stop hRelation
    have hSeen : start ∈ seen := by
      rcases List.mem_append.1 hStart with hSeen | hFresh
      · exact hSeen
      · exact absurd hFresh hOld
    rw [List.mem_append, mem_fresh_iff hStep h]
    by_cases hStop : stop ∈ seen
    · exact .inl hStop
    · by_cases hFront : start ∈ front
      · exact .inr ⟨⟨start, hFront, hRelation⟩, hStop⟩
      · exact .inl (h.steps start hSeen hFront stop hRelation)

omit hBound in
/-- A round that adds nothing leaves no steps to take. -/
theorem Explored.closed {seen front : List Nat} (h : Explored relation bound seen front)
    (hFresh : (step front).filter (fun place => !seen.contains place) = []) :
    ∀ start ∈ seen, ∀ stop, relation start stop → stop ∈ seen := by
  intro start hStart stop hRelation
  by_cases hFront : start ∈ front
  · by_contra hStop
    have hMem := (mem_fresh_iff hStep h).2 ⟨⟨start, hFront, hRelation⟩, hStop⟩
    rw [hFresh] at hMem
    cases hMem
  · exact h.steps start hStart hFront stop hRelation

/-- The places after `n` rounds are those that at most `n` steps lead to. -/
theorem mem_stepAtMost_iff {n : Nat} {seen front : List Nat}
    (h : Explored relation bound seen front) {stop : Nat} :
    stop ∈ stepAtMost step n seen front ↔
      ∃ m ≤ n, ∃ start ∈ seen, Times relation m start stop := by
  induction n generalizing seen front with
  | zero => simp [stepAtMost, Times]
  | succ n ih =>
    simp only [stepAtMost]
    split
    · next hEmpty =>
      have hClosed := h.closed hStep (List.isEmpty_iff.1 hEmpty)
      constructor
      · intro hStop
        exact ⟨0, Nat.zero_le _, stop, hStop, rfl⟩
      · rintro ⟨m, -, start, hStart, hTimes⟩
        exact hTimes.mem_of_closed hClosed hStart
    · rw [ih (h.round hStep hBound)]
      constructor
      · rintro ⟨m, hm, start, hStart, hTimes⟩
        rcases List.mem_append.1 hStart with hSeen | hFresh
        · exact ⟨m, by omega, start, hSeen, hTimes⟩
        · obtain ⟨⟨before, hBefore, hRelation⟩, -⟩ := (mem_fresh_iff hStep h).1 hFresh
          exact ⟨m + 1, by omega, before, h.front_subset hBefore, start, hRelation, hTimes⟩
      · rintro ⟨m, hm, start, hStart, hTimes⟩
        cases m with
        | zero => exact ⟨0, Nat.zero_le _, start, List.mem_append_left _ hStart, hTimes⟩
        | succ m =>
          obtain ⟨between, hRelation, hRest⟩ := hTimes
          refine ⟨m, by omega, between, ?_, hRest⟩
          rw [List.mem_append, mem_fresh_iff hStep h]
          by_cases hSeen : between ∈ seen
          · exact .inl hSeen
          · by_cases hFront : start ∈ front
            · exact .inr ⟨⟨start, hFront, hRelation⟩, hSeen⟩
            · exact .inl (h.steps start hStart hFront between hRelation)

/-- With as many rounds as there are places not seen yet, no steps are left to take. -/
theorem closed_stepAtMost {n : Nat} {seen front : List Nat}
    (h : Explored relation bound seen front)
    (hRounds : bound + 1 ≤ seen.toFinset.card + n) :
    ∀ start ∈ stepAtMost step n seen front, ∀ stop, relation start stop →
      stop ∈ stepAtMost step n seen front := by
  induction n generalizing seen front with
  | zero =>
    have hSubset : seen.toFinset ⊆ Finset.range (bound + 1) := by
      intro place hPlace
      have := h.bounded place (List.mem_toFinset.1 hPlace)
      exact Finset.mem_range.2 (by omega)
    have hAll : seen.toFinset = Finset.range (bound + 1) :=
      Finset.eq_of_subset_of_card_le hSubset (by rw [Finset.card_range]; omega)
    intro start hStart stop hRelation
    have hStop := hBound start stop (h.bounded start hStart) hRelation
    exact List.mem_toFinset.1 (hAll ▸ Finset.mem_range.2 (by omega))
  | succ n ih =>
    simp only [stepAtMost]
    split
    · next hEmpty => exact h.closed hStep (List.isEmpty_iff.1 hEmpty)
    · next hFresh =>
      obtain ⟨place, hPlace⟩ := List.exists_mem_of_ne_nil _ (mt List.isEmpty_iff.2 hFresh)
      have hNew := (mem_fresh_iff hStep h).1 hPlace
      refine ih (h.round hStep hBound) ?_
      -- the round has added a place
      have hInsert : insert place seen.toFinset ⊆
          (seen ++ (step front).filter fun place => !seen.contains place).toFinset := by
        intro other hOther
        rw [List.mem_toFinset, List.mem_append]
        rcases Finset.mem_insert.1 hOther with rfl | hOld
        · exact .inr hPlace
        · exact .inl (List.mem_toFinset.1 hOld)
      have hCard := Finset.card_le_card hInsert
      rw [Finset.card_insert_of_notMem fun hOld => hNew.2 (List.mem_toFinset.1 hOld)] at hCard
      omega

/-- The places that any number of steps lead to. -/
theorem mem_stepAtMost_bound_iff {seen front : List Nat}
    (h : Explored relation bound seen front) {stop : Nat} :
    stop ∈ stepAtMost step (bound + 1) seen front ↔
      ∃ n, ∃ start ∈ seen, Times relation n start stop := by
  constructor
  · intro hStop
    obtain ⟨n, -, start, hStart, hTimes⟩ := (mem_stepAtMost_iff hStep hBound h).1 hStop
    exact ⟨n, start, hStart, hTimes⟩
  · rintro ⟨n, start, hStart, hTimes⟩
    have hClosed := closed_stepAtMost hStep hBound h (Nat.le_add_left ..)
    have hMem : start ∈ stepAtMost step (bound + 1) seen front :=
      (mem_stepAtMost_iff hStep hBound h).2 ⟨0, Nat.zero_le _, start, hStart, rfl⟩
    exact hTimes.mem_of_closed hClosed hMem

end Rounds

/-! ## Reaching places -/

theorem mem_unite {a b : List Nat} {place : Nat} : place ∈ unite a b ↔ place ∈ a ∨ place ∈ b := by
  by_cases h : place ∈ a <;> simp [unite, h]

/-- The places reached are those where a match ends. -/
theorem mem_reach_iff {text : Array Char} {pattern : Pattern} {places : List Nat}
    (hPlaces : ∀ place ∈ places, place ≤ text.size) {stop : Nat} :
    stop ∈ reach text pattern places ↔ ∃ start ∈ places, pattern.Matches text start stop := by
  induction pattern generalizing places stop with
  | empty => simp [reach, Matches]
  | chars cls =>
    simp only [reach, Matches, List.mem_filterMap]
    refine exists_congr fun start => and_congr_right fun _ => ?_
    cases text[start]? with
    | none => simp
    | some c =>
      by_cases hClass : cls.contains c
      · simp only [hClass, if_true, Option.some.injEq, exists_eq_left', and_true]
        exact eq_comm
      · simp [hClass]
  | anchor condition =>
    simp only [reach, Matches, List.mem_filter]
    constructor
    · rintro ⟨hMem, hHolds⟩
      exact ⟨stop, hMem, rfl, hHolds⟩
    · rintro ⟨start, hMem, rfl, hHolds⟩
      exact ⟨hMem, hHolds⟩
  | sequence first second ihFirst ihSecond =>
    have hBetween : ∀ place ∈ reach text first places, place ≤ text.size := by
      intro place hPlace
      obtain ⟨start, hStart, hFirst⟩ := (ihFirst hPlaces).1 hPlace
      exact hFirst.le (hPlaces start hStart)
    simp only [reach, Matches, ihSecond hBetween, ihFirst hPlaces]
    constructor
    · rintro ⟨between, ⟨start, hStart, hFirst⟩, hSecond⟩
      exact ⟨start, hStart, between, hFirst, hSecond⟩
    · rintro ⟨start, hStart, between, hFirst, hSecond⟩
      exact ⟨between, ⟨start, hStart, hFirst⟩, hSecond⟩
  | choice first second ihFirst ihSecond =>
    simp only [reach, Matches, mem_unite, ihFirst hPlaces, ihSecond hPlaces]
    constructor
    · rintro (⟨start, hStart, h⟩ | ⟨start, hStart, h⟩)
      · exact ⟨start, hStart, .inl h⟩
      · exact ⟨start, hStart, .inr h⟩
    · rintro ⟨start, hStart, h | h⟩
      · exact .inl ⟨start, hStart, h⟩
      · exact .inr ⟨start, hStart, h⟩
  | repeated pattern least most? ih =>
    have hStep (places : List Nat) (hPlaces : ∀ place ∈ places, place ≤ text.size) (stop : Nat) :
        stop ∈ reach text pattern places ↔
          ∃ start ∈ places, pattern.Matches text start stop := ih hPlaces
    have hBound (start stop : Nat) (hStart : start ≤ text.size)
        (h : pattern.Matches text start stop) : stop ≤ text.size := h.le hStart
    have hExactly {stop : Nat} := @mem_stepExactly_iff _ _ _ hStep hBound least _ hPlaces stop
    have hExplored : Explored (pattern.Matches text) text.size
        (stepExactly (reach text pattern) least places)
        (stepExactly (reach text pattern) least places) := by
      refine ⟨fun place hPlace => ?_, List.Subset.refl _, fun _ hStart hOld => absurd hStart hOld⟩
      obtain ⟨start, hStart, hTimes⟩ := hExactly.1 hPlace
      exact hTimes.le hBound (hPlaces start hStart)
    have hRounds : stop ∈ reach text (.repeated pattern least most?) places ↔
        ∃ more, (∀ most ∈ most?, more ≤ most - least) ∧
          ∃ between ∈ stepExactly (reach text pattern) least places,
            Times (pattern.Matches text) more between stop := by
      simp only [reach]
      cases most? with
      | none => simp [mem_stepAtMost_bound_iff hStep hBound hExplored]
      | some most => simp [mem_stepAtMost_iff hStep hBound hExplored]
    simp only [hRounds, hExactly, Matches, times_add]
    constructor
    · rintro ⟨more, hMost, between, ⟨start, hStart, hLeast⟩, hMore⟩
      exact ⟨start, hStart, more, hMost, between, hLeast, hMore⟩
    · rintro ⟨start, hStart, more, hMost, between, hLeast, hMore⟩
      exact ⟨more, hMost, between, ⟨start, hStart, hLeast⟩, hMore⟩

/-- A pattern is found in a text if it matches some part of it. -/
theorem isFoundIn_iff {pattern : Pattern} {text : String} : pattern.isFoundIn text ↔
    ∃ start ≤ text.toList.length, ∃ stop, pattern.Matches text.toList.toArray start stop := by
  have hPlaces : ∀ place ∈ List.range (text.toList.toArray.size + 1),
      place ≤ text.toList.toArray.size := by
    intro place hPlace
    have := List.mem_range.1 hPlace
    omega
  have hReach {stop : Nat} := @mem_reach_iff text.toList.toArray pattern _ hPlaces stop
  have hFound : pattern.isFoundIn text ↔ ∃ stop,
      stop ∈ reach text.toList.toArray pattern (List.range (text.toList.toArray.size + 1)) := by
    unfold isFoundIn
    rw [Bool.not_eq_true', List.isEmpty_eq_false_iff_exists_mem]
  rw [hFound]
  constructor
  · rintro ⟨stop, hStop⟩
    obtain ⟨start, hStart, hMatch⟩ := hReach.1 hStop
    exact ⟨start, by simpa using hPlaces start hStart, stop, hMatch⟩
  · rintro ⟨start, hStart, stop, hMatch⟩
    have hMem : start ∈ List.range (text.toList.toArray.size + 1) := by
      rw [List.mem_range, List.size_toArray]
      omega
    exact ⟨stop, hReach.2 ⟨start, hMem, hMatch⟩⟩

/-! ## Characters one after another -/

theorem times_chars_iff {text : List Char} {cls : CharClass} {n start stop : Nat} :
    Times (Matches text.toArray (.chars cls)) n start stop ↔
      stop = start + n ∧ ∀ k < n, ∃ c, text[start + k]? = some c ∧ cls.contains c := by
  induction n generalizing start with
  | zero =>
    constructor
    · intro hStop
      exact ⟨hStop.symm, nofun⟩
    · rintro ⟨hStop, -⟩
      exact hStop.symm
  | succ n ih =>
    have hNext (k : Nat) : start + 1 + k = start + (k + 1) := by omega
    rw [Times, Nat.forall_lt_succ_left]
    constructor
    · rintro ⟨between, ⟨rfl, hChar⟩, hRest⟩
      obtain ⟨hStop, hMore⟩ := ih.1 hRest
      simp only [hNext] at hStop hMore
      exact ⟨hStop, by simpa using hChar, hMore⟩
    · rintro ⟨hStop, hChar, hMore⟩
      refine ⟨start + 1, ⟨rfl, by simpa using hChar⟩, ih.2 ?_⟩
      simp only [hNext]
      exact ⟨hStop, hMore⟩

/-- A class of characters that may stand any number of times matches the texts made of them. -/
theorem matches_repeated_chars_iff {cls : CharClass} {text : List Char} :
    (Pattern.repeated (.chars cls) 0 none).Matches text.toArray 0 text.length ↔
      ∀ c ∈ text, cls.contains c := by
  constructor
  · rintro ⟨n, -, hTimes⟩ c hMem
    obtain ⟨k, hk, rfl⟩ := List.mem_iff_getElem.1 hMem
    obtain ⟨hStop, hChars⟩ := times_chars_iff.1 hTimes
    obtain ⟨c, hChar, hClass⟩ := hChars k (by omega)
    rw [Nat.zero_add, List.getElem?_eq_getElem hk, Option.some.injEq] at hChar
    exact hChar ▸ hClass
  · intro hAll
    refine ⟨text.length, nofun, times_chars_iff.2 ⟨by omega, fun k hk => ?_⟩⟩
    have hPlace : k < text.length := by omega
    rw [Nat.zero_add]
    exact ⟨text[k], List.getElem?_eq_getElem hPlace, hAll _ (List.getElem_mem hPlace)⟩

/-! ## Between anchors -/

theorem holdsAt_textStart_iff {text : Array Char} {place : Nat} (h : place ≤ text.size) :
    Anchor.textStart.holdsAt text place ↔ place = 0 := by
  cases place with
  | zero => simp [Anchor.holdsAt, Anchor.holdsBetween, charBefore?]
  | succ n =>
    have hChar : text[n]? = some text[n] := Array.getElem?_eq_getElem h
    simp [Anchor.holdsAt, Anchor.holdsBetween, charBefore?, hChar]

theorem holdsAt_textEnd_iff {text : Array Char} {place : Nat} (h : place ≤ text.size) :
    Anchor.textEnd.holdsAt text place ↔ place = text.size := by
  simp only [Anchor.holdsAt, Anchor.holdsBetween, Option.isNone_iff_eq_none,
    Array.getElem?_eq_none_iff]
  omega

/-- A pattern between the anchors for the start and the end of a text. -/
def betweenAnchors (pattern : Pattern) : Pattern :=
  .sequence (.anchor .textStart) (.sequence pattern (.anchor .textEnd))

/-- Between the anchors a pattern can only match the text as a whole. -/
theorem isFoundIn_betweenAnchors_iff {pattern : Pattern} {text : String} :
    pattern.betweenAnchors.isFoundIn text ↔
      pattern.Matches text.toList.toArray 0 text.toList.length := by
  have hSize : text.toList.toArray.size = text.toList.length := List.size_toArray
  rw [isFoundIn_iff]
  constructor
  · rintro ⟨start, hStart, stop, between, ⟨rfl, hFirst⟩, last, hMatch, rfl, hLast⟩
    rw [← hSize] at hStart ⊢
    have hStop := hMatch.le hStart
    rw [holdsAt_textStart_iff hStart] at hFirst
    rw [holdsAt_textEnd_iff hStop] at hLast
    rwa [hFirst, hLast] at hMatch
  · intro hMatch
    refine ⟨0, Nat.zero_le _, text.toList.length, 0, ⟨rfl, rfl⟩, _, hMatch, rfl, ?_⟩
    exact (holdsAt_textEnd_iff (Nat.le_of_eq hSize.symm)).2 hSize.symm

end JavaImports.Pattern
