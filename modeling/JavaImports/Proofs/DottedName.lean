-- SUMMARY: What short forms keep of a name, and of the name of a unit in particular.
import JavaImports.DottedName
import JavaImports.Proofs.Path
import JavaImports.Proofs.Text.Split
import JavaImports.Unit
import Mathlib.Data.List.DropRight
import Mathlib.Data.List.Infix

/-! # Short forms

The short form of a name is its longest end with at most one dot, which is its last two segments. So
different names only have the same short form if they end in the same two segments. The name of a
unit ends with a class, which has no dot, so the short form keeps the whole class and the last
segment of the package. -/

namespace JavaImports

namespace DottedName

@[simp] theorem toList_shorten (name : String) :
    (shorten name).toList = shortenChars name.toList := by
  simp [shorten]

theorem shortenChars_suffix (name : List Char) : shortenChars name <:+ name := by
  induction name with
  | nil => exact List.suffix_refl []
  | cons c rest ih =>
    rw [shortenChars]
    split
    · exact List.suffix_refl _
    · exact ih.trans (List.suffix_cons c rest)

theorem count_shortenChars_le (name : List Char) : (shortenChars name).count '.' ≤ 1 := by
  induction name with
  | nil => simp [shortenChars]
  | cons c rest ih =>
    rw [shortenChars]
    split
    · next hCount => exact hCount
    · exact ih

/-- The short form has every end of the name with at most one dot as an end of its own. -/
theorem suffix_shortenChars {tail name : List Char} (h : tail <:+ name)
    (hCount : tail.count '.' ≤ 1) : tail <:+ shortenChars name := by
  induction name with
  | nil => exact h
  | cons c rest ih =>
    rw [shortenChars]
    split
    · exact h
    · next hMany =>
      rcases List.suffix_cons_iff.1 h with rfl | hRest
      · exact absurd hCount hMany
      · exact ih hRest

/-- The longest of the ends of a name that have at most one dot. -/
structure IsLongestEnd (tail name : List Char) : Prop where
  suffix : tail <:+ name
  dots : tail.count '.' ≤ 1
  longest {other : List Char} : other <:+ name → other.count '.' ≤ 1 → other.length ≤ tail.length

theorem isLongestEnd_shortenChars (name : List Char) : IsLongestEnd (shortenChars name) name where
  suffix := shortenChars_suffix name
  dots := count_shortenChars_le name
  longest hEnd hCount := (suffix_shortenChars hEnd hCount).length_le

/-- Names with at most one dot are short already, and no others. -/
theorem shortenChars_eq_self_iff {name : List Char} :
    shortenChars name = name ↔ name.count '.' ≤ 1 := by
  constructor
  · intro h
    rw [← h]
    exact count_shortenChars_le name
  · intro hCount
    cases name with
    | nil => rfl
    | cons c rest => rw [shortenChars, if_pos hCount]

theorem mem_of_mem_shorten {name : String} {c : Char} (h : c ∈ (shorten name).toList) :
    c ∈ name.toList := by
  rw [toList_shorten] at h
  exact (shortenChars_suffix name.toList).subset h

/-! ## Names with the same short form -/

/-- A name consists of two segments, or ends in them behind a dot. -/
def EndsIn (segments name : List Char) : Prop :=
  segments.count '.' = 1 ∧ (name = segments ∨ '.' :: segments <:+ name)

/-- A name is short already, or ends in the two segments of its short form. -/
theorem shortenChars_eq_self_or (name : List Char) :
    shortenChars name = name ∧ name.count '.' ≤ 1 ∨ EndsIn (shortenChars name) name := by
  induction name with
  | nil => exact .inl ⟨rfl, Nat.zero_le 1⟩
  | cons c rest ih =>
    rw [shortenChars]
    split
    · next hCount => exact .inl ⟨rfl, hCount⟩
    · next hMany =>
      -- the dot in front of a name that is short already is the second one
      have hDot (hCount : rest.count '.' ≤ 1) : c = '.' := by
        by_contra hOther
        rw [List.count_cons_of_ne hOther] at hMany
        exact hMany hCount
      rcases ih with ⟨hRest, hCount⟩ | ⟨hTwo, hSame | hBehind⟩
      · obtain rfl := hDot hCount
        rw [List.count_cons_self] at hMany
        exact .inr ⟨by rw [hRest]; omega, .inr (by rw [hRest])⟩
      · rw [← hSame] at hTwo
        obtain rfl := hDot (by omega)
        rw [← hSame]
        exact .inr ⟨hTwo, .inr (List.suffix_refl _)⟩
      · exact .inr ⟨hTwo, .inr (hBehind.trans (List.suffix_cons c rest))⟩

/-- The two segments that a name ends in are its short form. -/
theorem EndsIn.shortenChars_eq {segments name : List Char} (h : EndsIn segments name) :
    shortenChars name = segments := by
  obtain ⟨hTwo, rfl | ⟨front, rfl⟩⟩ := h
  · exact shortenChars_eq_self_iff.2 (by omega)
  · induction front with
    | nil =>
      rw [List.nil_append, shortenChars, if_neg (by rw [List.count_cons_self]; omega)]
      exact shortenChars_eq_self_iff.2 (by omega)
    | cons c front ih =>
      have hMany : ¬ (c :: (front ++ '.' :: segments)).count '.' ≤ 1 := by
        have hBack : (front ++ '.' :: segments).count '.' ≤
            (c :: (front ++ '.' :: segments)).count '.' := List.count_le_count_cons
        rw [List.count_append, List.count_cons_self] at hBack
        omega
      rw [List.cons_append, shortenChars, if_neg hMany, ih]

/-- Two names end in the same two segments. -/
def EndAlike (a b : String) : Prop :=
  ∃ segments, EndsIn segments a.toList ∧ EndsIn segments b.toList

/-- Names have the same short form exactly if they are equal or end in the same two segments. -/
theorem shorten_eq_iff {a b : String} : shorten a = shorten b ↔ a = b ∨ EndAlike a b := by
  rw [← String.toList_inj, toList_shorten, toList_shorten]
  constructor
  · intro h
    rcases shortenChars_eq_self_or a.toList with ⟨hSelf, hCount⟩ | hEnds
    · rcases shortenChars_eq_self_or b.toList with ⟨hOther, -⟩ | hEnds
      · exact .inl (String.toList_inj.1 (by rw [← hSelf, h, hOther]))
      · rw [← h, hSelf] at hEnds
        exact .inr ⟨a.toList, ⟨hEnds.1, .inl rfl⟩, hEnds⟩
    · rcases shortenChars_eq_self_or b.toList with ⟨hOther, -⟩ | hOther
      · rw [h, hOther] at hEnds
        exact .inr ⟨b.toList, hEnds, hEnds.1, .inl rfl⟩
      · exact .inr ⟨_, hEnds, h ▸ hOther⟩
  · rintro (rfl | ⟨segments, hA, hB⟩)
    · rfl
    · rw [hA.shortenChars_eq, hB.shortenChars_eq]

/-- A name with a dot ends in the two segments of its short form. -/
theorem endsIn_shortenChars {name : List Char} (h : '.' ∈ name) :
    EndsIn (shortenChars name) name := by
  rcases shortenChars_eq_self_or name with ⟨hSelf, hCount⟩ | hEnds
  · have hDots : 0 < name.count '.' := List.count_pos_iff.2 h
    rw [hSelf]
    exact ⟨by omega, .inl rfl⟩
  · exact hEnds

/-- What stands in front of a name and its dot does not change the segments it ends in. -/
theorem EndsIn.append {segments name : List Char} (h : EndsIn segments name)
    (front : List Char) : EndsIn segments (front ++ '.' :: name) := by
  obtain ⟨hTwo, rfl | hBehind⟩ := h
  · exact ⟨hTwo, .inr (List.suffix_append ..)⟩
  · exact ⟨hTwo, .inr (hBehind.trans ((List.suffix_cons ..).trans (List.suffix_append ..)))⟩

/-! ## Splitting from the end -/

/-- The segments of a name from its end to its front, in at most `bound` pieces. The last piece is
    whatever is left of the name. -/
def piecesFromEnd : (bound : Nat) → List Char → List (List Char)
  | 0, _ => []
  | 1, name => [name]
  | bound + 2, name =>
    match Text.cutLast? ['.'] name with
    | none => [name]
    | some (front, place) => place.drop 1 :: piecesFromEnd (bound + 1) front

/-- Two segments from the end of a name if there is a third piece in front of them. -/
def shortenFromEnd (name : List Char) : List Char :=
  match piecesFromEnd 3 name with
  | [last, secondLast, _] => secondLast ++ '.' :: last
  | _ => name

theorem piecesFromEnd_of_notMem {name : List Char} (h : '.' ∉ name) (bound : Nat) :
    piecesFromEnd (bound + 1) name = [name] := by
  cases bound with
  | zero => rfl
  | succ bound =>
    have hNone : Text.cutLast? ['.'] name = none := by
      rwa [Text.cutLast?_eq_none_iff, List.singleton_infix_iff]
    rw [piecesFromEnd, hNone]

theorem piecesFromEnd_append {last : List Char} (h : '.' ∉ last) (front : List Char)
    (bound : Nat) :
    piecesFromEnd (bound + 2) (front ++ '.' :: last) = last :: piecesFromEnd (bound + 1) front := by
  rw [piecesFromEnd, Text.cutLast?_append_separator h]
  rfl

theorem exists_append_of_mem {name : List Char} (h : '.' ∈ name) :
    ∃ front last, name = front ++ '.' :: last ∧ '.' ∉ last := by
  obtain ⟨last, front, hName, hLast⟩ := List.eq_append_cons_of_mem (List.mem_reverse.2 h)
  refine ⟨front.reverse, last.reverse, ?_, by simpa using hLast⟩
  simpa using congrArg List.reverse hName

/-- The short form is what splitting from the end gives. -/
theorem shortenFromEnd_eq (name : List Char) : shortenFromEnd name = shortenChars name := by
  by_cases hDot : '.' ∈ name
  · obtain ⟨rest, last, rfl, hLast⟩ := exists_append_of_mem hDot
    rw [shortenFromEnd, piecesFromEnd_append hLast]
    have hNone := List.count_eq_zero.2 hLast
    by_cases hSecond : '.' ∈ rest
    · obtain ⟨front, secondLast, rfl, hSecondLast⟩ := exists_append_of_mem hSecond
      have hTwo : EndsIn (secondLast ++ '.' :: last)
          (front ++ '.' :: secondLast ++ '.' :: last) := by
        refine ⟨?_, .inr ⟨front, by simp⟩⟩
        rw [List.count_append, List.count_cons_self, hNone, List.count_eq_zero.2 hSecondLast]
      rw [piecesFromEnd_append hSecondLast, hTwo.shortenChars_eq]
      rfl
    · rw [piecesFromEnd_of_notMem hSecond]
      refine (shortenChars_eq_self_iff.2 ?_).symm
      rw [List.count_append, List.count_cons_self, hNone, List.count_eq_zero.2 hSecond]
  · rw [shortenFromEnd, piecesFromEnd_of_notMem hDot]
    refine (shortenChars_eq_self_iff.2 ?_).symm
    rw [List.count_eq_zero.2 hDot]
    exact Nat.zero_le 1

/-! ## Segments -/

/-- The segments of a name, empty ones included. -/
def segments (name : String) : List String :=
  (Text.parts '.' name.toList).map String.ofList

/-- The segment behind the last dot of a name, or the whole of a name without dots. -/
def lastSegment (name : String) : String :=
  String.ofList ((Text.parts '.' name.toList).getLast (Text.parts_ne_nil _ _))

theorem parts_shortenChars (name : List Char) :
    Text.parts '.' (shortenChars name) = (Text.parts '.' name).rtake 2 := by
  have hAll {text : List Char} (hCount : text.count '.' ≤ 1) :
      (Text.parts '.' text).rtake 2 = Text.parts '.' text := by
    rw [List.rtake, Text.length_parts, Nat.sub_eq_zero_of_le (by omega), List.drop_zero]
  rcases shortenChars_eq_self_or name with ⟨hSelf, hCount⟩ | ⟨hTwo, hSame | ⟨front, hName⟩⟩
  · rw [hSelf, hAll hCount]
  · rw [← hSame] at hTwo ⊢
    exact (hAll hTwo.le).symm
  · have hLength : (Text.parts '.' (shortenChars name)).length = 2 := by
      rw [Text.length_parts, hTwo]
    rw [← hName, Text.parts_append_separator, List.rtake, List.length_append, hName, hLength,
      Nat.add_sub_cancel, List.drop_left]

theorem toList_append_dot (front last : String) :
    (front ++ "." ++ last).toList = front.toList ++ '.' :: last.toList := by
  simp

/-- The short form of a name that ends in a segment without dots, with another segment before. -/
theorem shorten_append_segment {front last : String} (hLast : '.' ∉ last.toList) :
    shorten (front ++ "." ++ last) = lastSegment front ++ "." ++ last := by
  have hParts : Text.parts '.' (shortenChars (front.toList ++ '.' :: last.toList)) =
      [(Text.parts '.' front.toList).getLast (Text.parts_ne_nil _ _), last.toList] := by
    rw [parts_shortenChars, Text.parts_append_separator, Text.parts_of_notMem hLast,
      List.rtake_concat_succ]
    conv_lhs => rw [← List.dropLast_append_getLast (Text.parts_ne_nil '.' front.toList)]
    rw [List.rtake_concat_succ, List.rtake_zero]
    rfl
  rw [shorten, toList_append_dot, ← Text.intercalate_parts '.' (shortenChars _), hParts,
    ← String.toList_inj]
  simp [lastSegment, List.intercalate]

end DottedName

/-! ## Units -/

theorem dot_not_mem_className (path : String) : '.' ∉ (className path).toList := by
  unfold className
  split
  · simp
  · rw [String.toList_ofList]
    intro hDot
    have := List.all_eq_true.1 List.all_takeWhile _ hDot
    simp at this

theorem className_suffix_unitName (package? : Option String) (path : String) :
    (className path).toList <:+ (unitName package? path).toList := by
  unfold unitName
  split
  · exact List.suffix_refl _
  · split
    · exact List.suffix_refl _
    · rw [String.toList_append]
      exact List.suffix_append ..

/-- The class is an end of the short form of the unit. -/
theorem className_suffix_shorten_unitName (package? : Option String) (path : String) :
    (className path).toList <:+ (DottedName.shorten (unitName package? path)).toList := by
  rw [DottedName.toList_shorten]
  refine DottedName.suffix_shortenChars (className_suffix_unitName package? path) ?_
  rw [List.count_eq_zero.2 (dot_not_mem_className path)]
  exact Nat.zero_le 1

/-- Of the name of a unit in a package the last segment of the package and the class are kept. -/
theorem shorten_unitName {package : String} (h : package ≠ "") (path : String) :
    DottedName.shorten (unitName (some package) path) =
      DottedName.lastSegment package ++ "." ++ className path := by
  have hPackage : package.isEmpty = false := by simpa using h
  rw [unitName, hPackage]
  exact DottedName.shorten_append_segment (dot_not_mem_className path)

/-- A character in the name of a unit is in the class or in the package, or is the dot. -/
theorem mem_unitName {package? : Option String} {path : String} {c : Char}
    (h : c ∈ (unitName package? path).toList) :
    c ∈ (className path).toList ∨ c = '.' ∨ ∃ package ∈ package?, c ∈ package.toList := by
  unfold unitName at h
  split at h
  · exact .inl h
  · next package =>
    split at h
    · exact .inl h
    · simp only [String.toList_append, List.mem_append] at h
      rcases h with (hPackage | hDot) | hClass
      · exact .inr (.inr ⟨package, rfl, hPackage⟩)
      · exact .inr (.inl (by simpa using hDot))
      · exact .inl hClass

/-! ## What short forms keep -/

namespace DottedName

theorem segments_shorten (name : String) : segments (shorten name) = (segments name).rtake 2 := by
  simp [segments, parts_shortenChars, List.rtake]

theorem shorten_eq_self_iff {name : String} :
    shorten name = name ↔ name.toList.count '.' ≤ 1 := by
  rw [← String.toList_inj, toList_shorten, shortenChars_eq_self_iff]

theorem shorten_append_of_mem {name : String} (h : '.' ∈ name.toList) (front : String) :
    shorten (front ++ "." ++ name) = shorten name := by
  rw [shorten, toList_append_dot, ((endsIn_shortenChars h).append front.toList).shortenChars_eq, shorten]

/-- The short form of a name is its longest end with at most one dot, the last two of its segments,
    and what splitting from the end gives. So exactly the names with at most one dot are short,
    short forms are short themselves, and no package in front of a name with a dot changes its short
    form. Of a unit in a package the last segment of the package and the class are kept. -/
theorem shorten_keeps_lastSegments (name : String) :
    IsLongestEnd (shorten name).toList name.toList ∧
    (shorten name).toList = shortenFromEnd name.toList ∧
    segments (shorten name) = (segments name).rtake 2 ∧
    (shorten name = name ↔ name.toList.count '.' ≤ 1) ∧
    shorten (shorten name) = shorten name ∧
    (∀ front : String, '.' ∈ name.toList → shorten (front ++ "." ++ name) = shorten name) ∧
    ∀ package path : String, package ≠ "" →
      shorten (unitName (some package) path) = lastSegment package ++ "." ++ className path := by
  have hLongest : IsLongestEnd (shorten name).toList name.toList := by
    rw [toList_shorten]
    exact isLongestEnd_shortenChars name.toList
  have hFromEnd : (shorten name).toList = shortenFromEnd name.toList := by
    rw [toList_shorten, shortenFromEnd_eq]
  exact ⟨hLongest, hFromEnd, segments_shorten name, shorten_eq_self_iff,
    shorten_eq_self_iff.2 hLongest.dots, fun front hDot => shorten_append_of_mem hDot front,
    fun package path hPackage => shorten_unitName hPackage path⟩

/-- Dots at the front and at the end and dots in a row make empty segments, which are kept or lost
    like others. -/
theorem shorten_keeps_lastSegments_dots :
    ('.' ∈ "..x.".toList ∧ segments "..x." = ["", "", "x", ""] ∧
      shorten "..x." = "x." ∧ shorten ("a." ++ "." ++ "..x.") = "x.") ∧
    (("a.." : String) ≠ "" ∧
      shorten (unitName (some "a..") "src/B.test.java") = "" ++ "." ++ "B") := by
  obtain ⟨-, -, -, -, -, hFront, hUnit⟩ := shorten_keeps_lastSegments "..x."
  have hDot : '.' ∈ "..x.".toList := by decide
  have hShort : shorten "..x." = "x." := by decide +kernel
  refine ⟨⟨hDot, by decide +kernel, hShort, (hFront "a." hDot).trans hShort⟩, by decide, ?_⟩
  have hLast : lastSegment "a.." = "" := by decide +kernel
  have hClass : className "src/B.test.java" = "B" := by decide +kernel
  rw [hUnit "a.." _ (by decide), hLast, hClass]

end DottedName

end JavaImports
