-- SUMMARY: A JSON value is known by what it holds.
import JavaImports.Proofs.Json.Rendering

/-! # What JSON values hold

A value that holds a text or several texts is the one that is made from these. The same is true of
natural numbers, as no number is written with a zero too many in front. -/

namespace JavaImports.Json

/-! ## Texts -/

theorem toNat_of_charOfCode? {code : Nat} {c : Char} (h : charOfCode? code = some c) :
    c.toNat = code := by
  unfold charOfCode? at h
  split at h
  · next hValid =>
    cases h
    rw [Char.ofNat, dif_pos hValid]
    rfl
  · cases h

theorem eq_codesOf_of_textOfCodes? {codes : List Nat} {text : String}
    (h : textOfCodes? codes = some text) : codes = codesOf text := by
  obtain ⟨chars, hChars, rfl⟩ := Option.map_eq_some_iff.1 h
  rw [codesOf, String.toList_ofList]
  exact eq_map_of_mapM (fun hChar => (toNat_of_charOfCode? hChar).symm) hChars

theorem eq_ofText_of_text? {value : Json} {text : String} (h : value.text? = some text) :
    value = ofText text := by
  cases value with
  | string codes => exact congrArg Json.string (eq_codesOf_of_textOfCodes? h)
  | _ => cases h

theorem eq_ofTexts_of_texts? {value : Json} {texts : List String} (h : value.texts? = some texts) :
    value = ofTexts texts := by
  cases value with
  | list items => exact congrArg Json.list (eq_map_of_mapM eq_ofText_of_text? h)
  | _ => cases h

/-! ## Natural numbers -/

theorem toNat_of_isDigit {c : Char} (h : c.isDigit = true) : 48 ≤ c.toNat ∧ c.toNat ≤ 57 := by
  rw [Char.isDigit, Bool.and_eq_true, decide_eq_true_eq, decide_eq_true_eq] at h
  exact h

theorem sub_lt_ten {c : Char} (h : c.isDigit = true) : c.toNat - '0'.toNat < 10 := by
  have hRange := toNat_of_isDigit h
  have hZero : '0'.toNat = 48 := rfl
  omega

/-- A digit is the one that its value is written with. -/
theorem digitChar_sub {c : Char} (h : c.isDigit = true) :
    Nat.digitChar (c.toNat - '0'.toNat) = c := by
  have hRange := toNat_of_isDigit h
  have hZero : '0'.toNat = 48 := rfl
  have hDigit := Nat.toNat_digitChar_of_lt_ten (sub_lt_ten h)
  rw [← Char.toNat_inj]
  omega

theorem decimalValue_concat (digits : List Char) (digit : Char) :
    Text.decimalValue (digits ++ [digit]) =
      10 * Text.decimalValue digits + (digit.toNat - '0'.toNat) := by
  rw [Text.decimalValue, List.foldl_append]
  rfl

/-- Digits of which the first is not zero are those that their number is written with. -/
theorem toDigits_decimalValue {digits : List Char} (h : ∀ d ∈ digits, d.isDigit = true)
    (hNonempty : digits ≠ []) (hFirst : digits.head? ≠ some '0') :
    Nat.toDigits 10 (Text.decimalValue digits) = digits := by
  induction digits using List.reverseRecOn with
  | nil => exact absurd rfl hNonempty
  | append_singleton init digit ih =>
    obtain ⟨hInit, hLast⟩ := List.forall_mem_append.1 h
    have hDigit := hLast digit (List.mem_singleton_self digit)
    have hSmall := sub_lt_ten hDigit
    rw [decimalValue_concat, Nat.toDigits_eq_if (by decide)]
    cases init with
    | nil =>
      have hNothing : Text.decimalValue [] = 0 := rfl
      rw [hNothing, if_pos (by omega), Nat.mul_zero, Nat.zero_add, digitChar_sub hDigit]
      rfl
    | cons c init =>
      have hInit := ih hInit (List.cons_ne_nil c init) hFirst
      have hPositive : Text.decimalValue (c :: init) ≠ 0 := by
        intro hZero
        rw [hZero] at hInit
        exact hFirst (congrArg List.head? hInit.symm)
      rw [if_neg (by omega), Nat.mul_add_div (by decide), Nat.div_eq_of_lt hSmall, Nat.add_zero,
        hInit, Nat.mul_add_mod, Nat.mod_eq_of_lt hSmall, digitChar_sub hDigit]

/-- A number that is written with digits alone is written as natural numbers are. -/
theorem eq_toDigits_of_splitNumber? {written : List Char}
    (h : splitNumber? written = some (written, [])) (hDigits : ∀ d ∈ written, d.isDigit = true) :
    written = Nat.toDigits 10 (Text.decimalValue written) := by
  obtain ⟨c, more, rfl, -⟩ := exists_cons_of_splitNumber? h
  by_cases hZero : c = '0'
  · subst hZero
    -- nothing but a fraction or an exponent can follow a zero
    have hMore : more = [] := by
      cases more with
      | nil => rfl
      | cons d more =>
        have hDigit := hDigits d (by simp)
        have hPoint : d ≠ '.' := by rintro rfl; cases hDigit
        have hSmall : d ≠ 'e' := by rintro rfl; cases hDigit
        have hLarge : d ≠ 'E' := by rintro rfl; cases hDigit
        simp [splitNumber?, splitUnsigned?, splitWhole?, splitFraction?, splitExponent?, hPoint,
          hSmall, hLarge] at h
    rw [hMore]
    rfl
  · exact (toDigits_decimalValue hDigits (List.cons_ne_nil c more) (by simpa using hZero)).symm

/-- A natural number is only held by its own value. -/
theorem eq_ofNat_of_natural? {value : Json} {form : List Char} {n : Nat} (hForm : Writes value form)
    (h : value.natural? = some n) : value = ofNat n := by
  cases value with
  | number written =>
    rw [natural?] at h
    split at h
    · next hDigits =>
      cases h
      rw [ofNat, ← eq_toDigits_of_splitNumber? hForm.2 (List.all_eq_true.1 hDigits)]
    · cases h
  | _ => cases h

end JavaImports.Json
