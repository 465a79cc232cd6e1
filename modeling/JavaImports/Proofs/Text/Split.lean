-- SUMMARY: Cutting a text at a marker and putting it together again.
import JavaImports.Text.Split
import Mathlib.Data.List.Infix

/-! # Cutting at a marker

A text is cut at the first place of a marker exactly when the marker stands nowhere before that
place. Put right behind a text, a marker may stand earlier than that: part of the text and part of
the marker can make up a marker of their own. -/

namespace JavaImports.Text

/-- Put right behind a text, the marker stands nowhere before that place. -/
def StandsFirstAfter (marker text : List Char) : Prop :=
  ∀ before after, text ++ marker = before ++ marker ++ after → text.length ≤ before.length

/-! ## The first place -/

theorem StandsFirstAfter.tail {marker text : List Char} {c : Char}
    (h : StandsFirstAfter marker (c :: text)) : StandsFirstAfter marker text := by
  intro before after heq
  have := h (c :: before) after (by simp [heq])
  simpa using this

/-- A marker that stands first after a text does not stand at the front of it. -/
theorem StandsFirstAfter.not_prefix {marker text rest : List Char} {c : Char}
    (h : StandsFirstAfter marker (c :: text)) : ¬ marker <+: c :: (text ++ marker ++ rest) := by
  intro hFront
  have hWhole : c :: text ++ marker <+: c :: (text ++ marker ++ rest) := by simp
  obtain ⟨after, hAfter⟩ := List.prefix_of_prefix_length_le hFront hWhole (by simp; omega)
  have := h [] after (by simpa using hAfter.symm)
  simp at this

/-- A text is cut where the marker put behind its first part stands first. -/
theorem splitFirst?_append {marker text : List Char} (h : StandsFirstAfter marker text)
    (rest : List Char) : splitFirst? marker (text ++ marker ++ rest) = some (text, rest) := by
  induction text with
  | nil =>
    cases marker with
    | nil => cases rest <;> simp [splitFirst?]
    | cons m marker => simp [splitFirst?, List.isPrefixOf_iff_prefix]
  | cons c text ih =>
    have hFront : ¬ marker <+: c :: (text ++ marker ++ rest) := h.not_prefix
    have hRest := ih h.tail
    simp only [List.cons_append, splitFirst?, List.isPrefixOf_iff_prefix, hFront, hRest]
    simp

/-- The parts of a text that was cut, with the marker between them, are the text. -/
theorem eq_append_of_splitFirst? {marker text before after : List Char}
    (h : splitFirst? marker text = some (before, after)) : text = before ++ marker ++ after := by
  induction text generalizing before with
  | nil =>
    simp only [splitFirst?] at h
    split at h <;> simp_all
  | cons c rest ih =>
    simp only [splitFirst?] at h
    split at h
    · next hFront =>
      obtain ⟨tail, hTail⟩ := List.isPrefixOf_iff_prefix.1 hFront
      obtain ⟨rfl, rfl⟩ := Prod.mk.inj (Option.some.inj h)
      simp [← hTail]
    · obtain ⟨⟨before', after'⟩, hRest, heq⟩ := Option.map_eq_some_iff.1 h
      obtain ⟨rfl, rfl⟩ := Prod.mk.inj heq
      simp [ih hRest]

/-- A text is cut at the first place of the marker. -/
theorem standsFirstAfter_of_splitFirst? {marker text before after : List Char}
    (h : splitFirst? marker text = some (before, after)) : StandsFirstAfter marker before := by
  induction text generalizing before with
  | nil =>
    simp only [splitFirst?] at h
    split at h
    · obtain ⟨rfl, rfl⟩ := Prod.mk.inj (Option.some.inj h)
      intro before' after' _
      simp
    · cases h
  | cons c rest ih =>
    have hText := eq_append_of_splitFirst? h
    simp only [splitFirst?] at h
    split at h
    · obtain ⟨rfl, rfl⟩ := Prod.mk.inj (Option.some.inj h)
      intro before' after' _
      simp
    · next hFront =>
      obtain ⟨⟨before', after'⟩, hRest, heq⟩ := Option.map_eq_some_iff.1 h
      obtain ⟨rfl, rfl⟩ := Prod.mk.inj heq
      intro first last hPlace
      cases first with
      | nil =>
        -- the marker at the very front would have been the place of the cut
        refine absurd (List.isPrefixOf_iff_prefix.2 ⟨last ++ after', ?_⟩) hFront
        calc marker ++ (last ++ after')
            = c :: before' ++ marker ++ after' := by rw [hPlace]; simp
          _ = c :: rest := hText.symm
      | cons d first =>
        have hPlace : before' ++ marker = first ++ marker ++ last := by
          simpa using (List.cons.inj hPlace).2
        simpa using ih hRest first last hPlace

/-- The empty marker stands in front of everything. -/
theorem standsFirstAfter_nil {text : List Char} : StandsFirstAfter [] text ↔ text = [] := by
  constructor
  · intro h
    exact List.length_eq_zero_iff.1 (Nat.le_zero.1 (h [] text (by simp)))
  · rintro rfl before after -
    exact Nat.zero_le _

theorem standsFirstAfter_iff {marker text : List Char} : StandsFirstAfter marker text ↔
    splitFirst? marker (text ++ marker) = some (text, []) := by
  refine ⟨fun h => ?_, standsFirstAfter_of_splitFirst?⟩
  simpa using splitFirst?_append h []

instance (marker text : List Char) : Decidable (StandsFirstAfter marker text) :=
  decidable_of_iff _ standsFirstAfter_iff.symm

theorem standsFirstAfter_singleton {c : Char} {text : List Char} :
    StandsFirstAfter [c] text ↔ c ∉ text := by
  constructor
  · intro h hMem
    obtain ⟨before, after, rfl⟩ := List.append_of_mem hMem
    have hLength := h before (after ++ [c]) (by simp)
    rw [List.length_append, List.length_cons] at hLength
    omega
  · intro h before after hPlace
    by_contra hLess
    have hPrefix : before ++ [c] <+: text ++ [c] := ⟨after, hPlace.symm⟩
    have hPrefix : before ++ [c] <+: text :=
      List.prefix_of_prefix_length_le hPrefix (List.prefix_append ..) (by simp; omega)
    exact h (hPrefix.subset (by simp))

/-- A text that holds the marker can be cut. -/
theorem exists_splitFirst? {marker text : List Char} (h : marker <:+: text) :
    ∃ parts, splitFirst? marker text = some parts := by
  induction text with
  | nil => simp_all [splitFirst?]
  | cons c rest ih =>
    simp only [splitFirst?]
    split
    · exact ⟨_, rfl⟩
    · next hFront =>
      have hRest : marker <:+: rest := by
        rcases List.infix_cons_iff.1 h with hPrefix | hRest
        · exact absurd (List.isPrefixOf_iff_prefix.2 hPrefix) hFront
        · exact hRest
      obtain ⟨parts, hParts⟩ := ih hRest
      exact ⟨_, by rw [hParts]; rfl⟩

/-! ## The last place -/

/-- A text that holds the marker can be cut at its last place. -/
theorem exists_cutLast? {marker text : List Char} (h : marker <:+: text) :
    ∃ before place, cutLast? marker text = some (before, place) := by
  induction text with
  | nil => simp_all [cutLast?]
  | cons c rest ih =>
    simp only [cutLast?]
    rcases hRest : cutLast? marker rest with _ | ⟨before, place⟩
    · rcases List.infix_cons_iff.1 h with hPrefix | hInfix
      · exact ⟨[], c :: rest, by simp [List.isPrefixOf_iff_prefix.2 hPrefix]⟩
      · obtain ⟨before, place, hCut⟩ := ih hInfix
        rw [hRest] at hCut
        cases hCut
    · exact ⟨c :: before, place, rfl⟩

/-- The parts of a text that was cut are the text, and the second starts with the marker. -/
theorem eq_append_of_cutLast? {marker text before place : List Char}
    (h : cutLast? marker text = some (before, place)) :
    text = before ++ place ∧ marker <+: place := by
  induction text generalizing before with
  | nil =>
    simp only [cutLast?] at h
    split at h <;> simp_all
  | cons c rest ih =>
    simp only [cutLast?] at h
    split at h
    · next before' place' hRest =>
      obtain ⟨rfl, rfl⟩ := Prod.mk.inj (Option.some.inj h)
      obtain ⟨rfl, hMarker⟩ := ih hRest
      exact ⟨rfl, hMarker⟩
    · split at h
      · next hFront =>
        obtain ⟨rfl, rfl⟩ := Prod.mk.inj (Option.some.inj h)
        exact ⟨rfl, List.isPrefixOf_iff_prefix.1 hFront⟩
      · cases h

/-- A text cannot be cut just if the marker stands nowhere in it. -/
theorem cutLast?_eq_none_iff {marker text : List Char} :
    cutLast? marker text = none ↔ ¬ marker <:+: text := by
  constructor
  · intro h hInfix
    obtain ⟨before, place, hCut⟩ := exists_cutLast? hInfix
    rw [h] at hCut
    cases hCut
  · intro h
    rw [Option.eq_none_iff_forall_ne_some]
    rintro ⟨before, place⟩ hCut
    obtain ⟨rfl, after, rfl⟩ := eq_append_of_cutLast? hCut
    exact h ⟨before, after, List.append_assoc ..⟩

/-- The last place of a marker in a text is between these two parts of it. -/
structure IsLastPlace (marker before place : List Char) : Prop where
  stands : marker <+: place
  last (front rest : List Char) :
    before ++ place = front ++ marker ++ rest → front.length ≤ before.length

/-- It does not depend on what stands before the last place of a marker that it is the last. -/
theorem IsLastPlace.behind {marker before place : List Char} (h : IsLastPlace marker before place)
    (other : List Char) : IsLastPlace marker other place := by
  refine ⟨h.stands, fun front rest hPlace => ?_⟩
  by_contra hLess
  have hShorter : other.length ≤ front.length := by omega
  have hPrefix : other <+: front ++ (marker ++ rest) :=
    ⟨place, by rw [hPlace, List.append_assoc]⟩
  obtain ⟨more, rfl⟩ := List.prefix_of_prefix_length_le hPrefix (List.prefix_append ..) hShorter
  have hBehind : place = more ++ marker ++ rest := by simpa using hPlace
  have hLast := h.last (before ++ more) rest (by simp [hBehind])
  simp only [List.length_append] at hLast hLess
  omega

/-- A text is cut at the last place of the marker. -/
theorem isLastPlace_of_cutLast? {marker text before place : List Char}
    (h : cutLast? marker text = some (before, place)) : IsLastPlace marker before place := by
  refine ⟨(eq_append_of_cutLast? h).2, ?_⟩
  induction text generalizing before with
  | nil =>
    simp only [cutLast?] at h
    split at h
    · obtain ⟨rfl, rfl⟩ := Prod.mk.inj (Option.some.inj h)
      intro front rest hPlace
      have hLength := congrArg List.length hPlace
      simp only [List.length_append, List.length_nil] at hLength
      omega
    · cases h
  | cons c more ih =>
    simp only [cutLast?] at h
    intro front rest hPlace
    split at h
    · next before' place' hMore =>
      obtain ⟨rfl, rfl⟩ := Prod.mk.inj (Option.some.inj h)
      cases front with
      | nil => exact Nat.zero_le _
      | cons d front =>
        have hPlace : before' ++ place' = front ++ marker ++ rest := by
          simpa using (List.cons.inj hPlace).2
        simpa using ih hMore front rest hPlace
    · next hNone =>
      -- a later place would be one in the rest of the text
      split at h
      · obtain ⟨rfl, rfl⟩ := Prod.mk.inj (Option.some.inj h)
        cases front with
        | nil => exact Nat.zero_le _
        | cons d front =>
          refine absurd ⟨front, rest, ?_⟩ (cutLast?_eq_none_iff.1 hNone)
          simpa using (List.cons.inj hPlace).2.symm
      · cases h

theorem cutLast?_eq_some_iff {marker text before place : List Char} :
    cutLast? marker text = some (before, place) ↔
      text = before ++ place ∧ IsLastPlace marker before place := by
  constructor
  · intro h
    exact ⟨(eq_append_of_cutLast? h).1, isLastPlace_of_cutLast? h⟩
  · rintro ⟨rfl, hPlace⟩
    have hInfix : marker <:+: before ++ place :=
      hPlace.stands.isInfix.trans (List.suffix_append before place).isInfix
    obtain ⟨front, rest, hCut⟩ := exists_cutLast? hInfix
    obtain ⟨hText, hStands⟩ := eq_append_of_cutLast? hCut
    -- neither of the two places is behind the other
    obtain ⟨after, rfl⟩ := hPlace.stands
    obtain ⟨later, rfl⟩ := hStands
    have hFront := hPlace.last front later (by rw [hText, List.append_assoc])
    have hBefore := (isLastPlace_of_cutLast? hCut).last before after
      (by rw [← hText, List.append_assoc])
    obtain ⟨rfl, hSame⟩ := List.append_inj hText (Nat.le_antisymm hBefore hFront)
    rw [hCut, hSame]

/-- A separator is the last one if it does not stand in the text behind it. -/
theorem cutLast?_append_separator {separator : Char} {rest : List Char} (h : separator ∉ rest)
    (text : List Char) :
    cutLast? [separator] (text ++ separator :: rest) = some (text, separator :: rest) := by
  induction text with
  | nil =>
    have hRest : cutLast? [separator] rest = none := by
      rwa [cutLast?_eq_none_iff, List.singleton_infix_iff]
    simp [cutLast?, hRest]
  | cons c text ih => rw [List.cons_append, cutLast?, ih]

/-! ## Texts without a place -/

/-- A marker starts nowhere in a text, whatever stands behind the text. -/
def StartsNowhereIn (marker text : List Char) : Prop :=
  ∀ rest before after, text ++ rest = before ++ marker ++ after → text.length ≤ before.length

namespace StartsNowhereIn

variable {marker text : List Char}

theorem nil : StartsNowhereIn marker [] :=
  fun _ _ _ _ => Nat.zero_le _

/-- The marker stands behind a text that it starts nowhere in. -/
theorem exists_behind {rest before after : List Char} (h : StartsNowhereIn marker text)
    (hPlace : text ++ rest = before ++ marker ++ after) :
    ∃ more, before = text ++ more ∧ rest = more ++ marker ++ after := by
  have hPrefix : text <+: before ++ (marker ++ after) := ⟨rest, by simpa using hPlace⟩
  obtain ⟨more, rfl⟩ :=
    List.prefix_of_prefix_length_le hPrefix (List.prefix_append ..) (h rest before after hPlace)
  exact ⟨more, rfl, by simpa using hPlace⟩

theorem append {more : List Char} (h : StartsNowhereIn marker text)
    (hMore : StartsNowhereIn marker more) : StartsNowhereIn marker (text ++ more) := by
  intro rest before after hPlace
  rw [List.append_assoc] at hPlace
  obtain ⟨between, rfl, hBetween⟩ := h.exists_behind hPlace
  have hLength := hMore rest between after hBetween
  simp only [List.length_append]
  omega

theorem flatMap {α : Type} {items : List α} {print : α → List Char}
    (h : ∀ item ∈ items, StartsNowhereIn marker (print item)) :
    StartsNowhereIn marker (items.flatMap print) := by
  induction items with
  | nil => exact nil
  | cons item more ih =>
    obtain ⟨hItem, hMore⟩ := List.forall_mem_cons.1 h
    exact hItem.append (ih hMore)

/-- A marker does not stand where it starts nowhere. -/
theorem not_infix (h : StartsNowhereIn marker text) (hMarker : marker ≠ []) :
    ¬ marker <:+: text := by
  rintro ⟨before, after, rfl⟩
  have hLength := h [] before after (by simp)
  have hPositive := List.length_pos_iff.2 hMarker
  simp only [List.length_append] at hLength
  omega

/-- A marker starts nowhere in a text without its first character. -/
theorem of_not_mem {c : Char} {rest : List Char} (h : c ∉ text) :
    StartsNowhereIn (c :: rest) text := by
  intro behind before after hPlace
  by_contra hLess
  have hText : text ++ behind = before ++ [c] ++ (rest ++ after) := by simpa using hPlace
  have hPrefix : before ++ [c] <+: text :=
    List.prefix_of_prefix_length_le ⟨_, hText.symm⟩ (List.prefix_append ..) (by simp; omega)
  exact h (hPrefix.subset (by simp))

end StartsNowhereIn

/-- A marker starts nowhere in a text exactly if no end of the text can be the front of it. -/
theorem startsNowhereIn_iff {marker text : List Char} : StartsNowhereIn marker text ↔
    ∀ tail ∈ text.tails, tail ≠ [] → ¬ marker <+: tail ∧ ¬ tail <+: marker := by
  constructor
  · intro h tail hTail hNonempty
    obtain ⟨before, rfl⟩ := (List.mem_tails ..).1 hTail
    have hPositive := List.length_pos_iff.2 hNonempty
    constructor
    · rintro ⟨after, rfl⟩
      have hLength := h [] before after (by simp)
      simp only [List.length_append] at hLength hPositive
      omega
    · rintro ⟨rest, rfl⟩
      have hLength := h rest before [] (by simp)
      simp only [List.length_append] at hLength
      omega
  · intro h rest before after hPlace
    by_contra hLess
    have hPrefix : before <+: text :=
      List.prefix_of_prefix_length_le ⟨_, by rw [hPlace, List.append_assoc]⟩
        (List.prefix_append ..) (by omega)
    obtain ⟨tail, rfl⟩ := hPrefix
    have hNonempty : tail ≠ [] := by
      rintro rfl
      simp at hLess
    obtain ⟨hFront, hBack⟩ := h tail ((List.mem_tails ..).2 (List.suffix_append ..)) hNonempty
    have hTail : tail ++ rest = marker ++ after := by simpa using hPlace
    rcases List.prefix_or_prefix_of_prefix (List.prefix_append tail rest)
      (hTail ▸ List.prefix_append marker after) with hShort | hLong
    · exact hBack hShort
    · exact hFront hLong

instance (marker text : List Char) : Decidable (StartsNowhereIn marker text) :=
  decidable_of_iff _ startsNowhereIn_iff.symm

/-! ## Markers without a character -/

/-- A marker that lacks a character stands before or behind it. -/
theorem place_append_cons {marker text rest front back : List Char} {c : Char} (h : c ∉ marker)
    (hPlace : text ++ c :: rest = front ++ marker ++ back) :
    (∃ more, text = front ++ marker ++ more) ∨
      ∃ more, front = text ++ c :: more ∧ rest = more ++ marker ++ back := by
  have hHead {between : List Char} (hBetween : c :: rest = between ++ back) :
      between = [] ∨ c ∈ between := by
    cases between with
    | nil => exact .inl rfl
    | cons d between => exact .inr (by simp [(List.cons.inj hBetween).1])
  rcases List.append_eq_append_iff.1 hPlace with ⟨between, hFront, hRest⟩ | ⟨between, hText, -⟩
  · rcases List.append_eq_append_iff.1 hFront with ⟨more, rfl, rfl⟩ | ⟨more, rfl, rfl⟩
    · -- the marker ends before the character, which would be in it otherwise
      rcases hHead hRest with rfl | hMem
      · exact .inl ⟨[], by simp⟩
      · exact absurd (List.mem_append_right _ hMem) h
    · cases more with
      | nil =>
        rcases hHead hRest with hNil | hMem
        · exact .inl ⟨[], by simpa using hNil⟩
        · exact absurd hMem h
      | cons d more =>
        simp only [List.cons_append, List.cons.injEq] at hRest
        obtain ⟨rfl, rfl⟩ := hRest
        exact .inr ⟨more, rfl, rfl⟩
  · exact .inl ⟨between, hText⟩

theorem infix_append_cons_iff {marker text rest : List Char} {c : Char} (h : c ∉ marker) :
    marker <:+: text ++ c :: rest ↔ marker <:+: text ∨ marker <:+: rest := by
  constructor
  · rintro ⟨front, back, hPlace⟩
    rcases place_append_cons h hPlace.symm with ⟨more, hText⟩ | ⟨more, -, hRest⟩
    · exact .inl ⟨front, more, hText.symm⟩
    · exact .inr ⟨more, back, hRest.symm⟩
  · rintro (hText | hRest)
    · exact hText.trans (List.prefix_append ..).isInfix
    · exact hRest.trans ((List.suffix_cons c rest).trans (List.suffix_append ..)).isInfix

/-- A marker does not end in a text without its last character. -/
theorem infix_append_iff_of_not_mem {marker text rest : List Char} {c : Char} (h : c ∉ rest) :
    marker ++ [c] <:+: text ++ rest ↔ marker ++ [c] <:+: text := by
  refine ⟨?_, fun hText => hText.trans (List.prefix_append ..).isInfix⟩
  rintro ⟨front, back, hPlace⟩
  rcases List.append_eq_append_iff.1 hPlace with ⟨between, hText, -⟩ | ⟨between, hBetween, rfl⟩
  · exact ⟨front, between, hText.symm⟩
  · rcases List.eq_nil_or_concat between with rfl | ⟨init, last, rfl⟩
    · exact ⟨front, [], by simpa using hBetween⟩
    · have hLast := congrArg List.getLast? hBetween
      simp only [List.concat_eq_append, ← List.append_assoc, List.getLast?_concat] at hLast
      obtain rfl := Option.some.inj hLast
      exact absurd (by simp) h

/-- A marker stays at its last place if it does not stand in what is put behind a character that it
    lacks. -/
theorem IsLastPlace.append_cons {marker before place rest : List Char} {c : Char}
    (h : IsLastPlace marker before place) (hMarker : c ∉ marker) (hRest : ¬ marker <:+: rest) :
    IsLastPlace marker before (place ++ c :: rest) := by
  refine ⟨h.stands.trans (List.prefix_append ..), fun front back hPlace => ?_⟩
  rw [← List.append_assoc] at hPlace
  rcases place_append_cons hMarker hPlace with ⟨more, hText⟩ | ⟨more, -, hBehind⟩
  · exact h.last front more hText
  · exact absurd ⟨more, back, hBehind.symm⟩ hRest

/-- A marker that does not repeat its first character is at its last place if it does not stand
    behind that. -/
theorem isLastPlace_append_iff {marker before rest : List Char} {c : Char} (h : c ∉ marker) :
    IsLastPlace (c :: marker) before (c :: marker ++ rest) ↔ ¬ c :: marker <:+: rest := by
  constructor
  · rintro ⟨-, hLast⟩ ⟨front, back, rfl⟩
    have hLength := hLast (before ++ c :: marker ++ front) back (by simp)
    simp only [List.length_append, List.length_cons] at hLength
    omega
  · intro hRest
    refine ⟨List.prefix_append .., fun front back hPlace => ?_⟩
    by_contra hLater
    rw [List.append_assoc] at hPlace
    rcases List.append_eq_append_iff.1 hPlace with ⟨between, rfl, hBetween⟩ | ⟨between, rfl, -⟩
    · cases between with
      | nil => simp at hLater
      | cons d between =>
        simp only [List.cons_append, List.cons.injEq] at hBetween
        have hMarker : marker ++ rest = between ++ c :: marker ++ back := by
          simpa using hBetween.2
        obtain ⟨more, -, hMore⟩ := (StartsNowhereIn.of_not_mem h).exists_behind hMarker
        exact hRest ⟨more, back, hMore.symm⟩
    · simp only [List.length_append] at hLater
      omega

end JavaImports.Text
