-- SUMMARY: Texts are in the order of their UTF-8 bytes.
import Mathlib.Tactic.SplitIfs

/-! # The order of bytes

Texts are compared character by character. Their bytes come out in the same order: the bytes of two
different characters differ at a byte that both have, and the first such byte is smaller for the
smaller character. -/

namespace JavaImports.Text

/-- The UTF-8 bytes of a text. -/
def bytes (text : String) : List UInt8 :=
  text.toUTF8.data.toList

theorem bytes_eq_flatMap (text : String) :
    bytes text = text.toList.flatMap String.utf8EncodeChar := by
  rw [bytes, String.toUTF8_eq_toByteArray, ← String.utf8Encode_toList]
  exact List.toList_data_toByteArray

/-- The first byte at which two lists differ is in both of them, and smaller in the first. -/
def DiffersBelow : List UInt8 → List UInt8 → Prop
  | x :: xs, y :: ys => x < y ∨ x = y ∧ DiffersBelow xs ys
  | _, _ => False

/-- What follows the byte that tells two lists apart does not matter. -/
theorem DiffersBelow.append_lt {xs ys : List UInt8} (h : DiffersBelow xs ys) (us vs : List UInt8) :
    xs ++ us < ys ++ vs := by
  induction xs generalizing ys with
  | nil => cases h
  | cons x xs ih =>
    cases ys with
    | nil => cases h
    | cons y ys =>
      rw [List.cons_append, List.cons_append, List.cons_lt_cons_iff]
      rcases h with hLess | ⟨hSame, hRest⟩
      · exact .inl hLess
      · exact .inr ⟨hSame, ih hRest⟩

theorem differsBelow_utf8EncodeChar {c d : Char} (h : c < d) :
    DiffersBelow (String.utf8EncodeChar c) (String.utf8EncodeChar d) := by
  have hLess : c.val.toNat < d.val.toNat := h
  have hBound : d.val.toNat < 0x110000 := by
    have := d.valid
    simp only [UInt32.isValidChar, Nat.isValidChar] at this
    omega
  unfold String.utf8EncodeChar
  generalize c.val.toNat = v at hLess ⊢
  generalize d.val.toNat = w at hLess hBound ⊢
  -- the first bytes tell the lengths apart; of the same length, the digits decide
  simp only
  split_ifs <;>
    simp only [DiffersBelow, UInt8.lt_iff_toNat_lt, ← UInt8.toNat_inj, UInt8.toNat_ofNat'] <;>
    simp (disch := omega) only [Nat.mod_eq_of_lt] <;>
    omega

theorem flatMap_utf8EncodeChar_lt {xs ys : List Char} (h : xs < ys) :
    xs.flatMap String.utf8EncodeChar < ys.flatMap String.utf8EncodeChar := by
  induction xs generalizing ys with
  | nil =>
    cases ys with
    | nil => exact absurd h (List.not_lt_nil _)
    | cons d ys =>
      obtain ⟨byte, more, hBytes⟩ :=
        List.exists_cons_of_ne_nil (String.utf8EncodeChar_ne_nil (c := d))
      rw [List.flatMap_nil, List.flatMap_cons, hBytes]
      exact List.nil_lt_cons _ _
  | cons c xs ih =>
    cases ys with
    | nil => exact absurd h (List.not_lt_nil _)
    | cons d ys =>
      rw [List.flatMap_cons, List.flatMap_cons]
      rcases List.cons_lt_cons_iff.1 h with hLess | ⟨rfl, hRest⟩
      · exact (differsBelow_utf8EncodeChar hLess).append_lt _ _
      · exact List.append_left_lt (ih hRest)

/-- A smaller text has smaller bytes. -/
theorem bytes_lt {s t : String} (h : s < t) : bytes s < bytes t := by
  rw [bytes_eq_flatMap, bytes_eq_flatMap]
  exact flatMap_utf8EncodeChar_lt (String.lt_iff.1 h)

/-- Lists of texts are compared text by text, each by its bytes. -/
theorem lex_bytes_of_compare {xs ys : List String} (h : compare xs ys = .lt) :
    List.Lex (fun s t => bytes s < bytes t) xs ys := by
  induction xs generalizing ys with
  | nil =>
    cases ys with
    | nil => cases h
    | cons t ys => exact .nil
  | cons s xs ih =>
    cases ys with
    | nil => cases h
    | cons t ys =>
      rw [List.compare_cons_cons, Ordering.then_eq_lt] at h
      rcases h with hLess | ⟨hSame, hRest⟩
      · exact .rel (bytes_lt (compareOfLessAndEq_eq_lt.1 hLess))
      · obtain rfl := Std.compare_eq_iff_eq.1 hSame
        exact .cons (ih hRest)

end JavaImports.Text
