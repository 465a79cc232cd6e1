-- SUMMARY: Entries, keys and members of sorted maps and sets, by look-up.
import JavaImports.SortedMap

/-! # Entries and members

The list of entries and the look-up of a map tell the same, and no key is listed twice. Of a set
this says which values are its members after one or several were added. -/

namespace JavaImports

open Std

namespace SortedMap

variable {κ : Type u} {ν : Type v} [Ord κ] [LawfulEqOrd κ]

theorem mem_of_find?_eq_some {key : κ} {value : ν} {entries : List (κ × ν)}
    (h : find? key entries = some value) : (key, value) ∈ entries := by
  induction entries with
  | nil => simp [find?] at h
  | cons head rest ih =>
    obtain ⟨k, v⟩ := head
    simp only [find?] at h
    split at h
    · next heq =>
      obtain rfl := Std.compare_eq_iff_eq.1 heq
      obtain rfl := Option.some.inj h
      exact List.mem_cons_self ..
    · exact List.mem_cons_of_mem _ (ih h)

theorem StrictlySorted.find?_of_mem {key : κ} {value : ν} {entries : List (κ × ν)}
    (hSorted : StrictlySorted entries) (h : (key, value) ∈ entries) :
    find? key entries = some value := by
  induction entries with
  | nil => cases h
  | cons head rest ih =>
    have ⟨hHead, hRest⟩ := List.pairwise_cons.1 hSorted
    rcases List.mem_cons.1 h with rfl | h
    · simp [find?]
    · have hlt := hHead (key, value) h
      have hne : compare key head.1 ≠ .eq := fun heq => by
        obtain rfl := Std.compare_eq_iff_eq.1 heq
        simp at hlt
      simp [find?, hne, ih hRest h]

/-- Sorted entries are told apart by membership. -/
theorem StrictlySorted.eq_of_mem_iff [TransOrd κ] {a b : List (κ × ν)} (ha : StrictlySorted a)
    (hb : StrictlySorted b) (h : ∀ entry, entry ∈ a ↔ entry ∈ b) : a = b :=
  JavaImports.SortedMap.StrictlySorted.eq_of_find? ha hb fun _ => Option.ext fun _ =>
    ⟨fun hFind => find?_of_mem hb ((h _).1 (mem_of_find?_eq_some hFind)),
      fun hFind => find?_of_mem ha ((h _).2 (mem_of_find?_eq_some hFind))⟩

theorem mem_entries_iff {m : SortedMap κ ν} {key : κ} {value : ν} :
    (key, value) ∈ m.entries ↔ m.get? key = some value :=
  ⟨StrictlySorted.find?_of_mem m.sorted, mem_of_find?_eq_some⟩

theorem mem_keys_iff {m : SortedMap κ ν} {key : κ} :
    key ∈ m.keys ↔ ∃ value, m.get? key = some value := by
  simp [keys, ← mem_entries_iff]

theorem nodup_keys (m : SortedMap κ ν) : m.keys.Nodup := by
  refine List.pairwise_map.2 (m.sorted.imp fun {a b} hlt heq => ?_)
  simp [heq] at hlt

end SortedMap

namespace SortedSet

variable {α : Type u} [Ord α]

@[simp] theorem toList_empty : toList (SortedMap.empty : SortedSet α) = [] := rfl

variable [LawfulEqOrd α]

theorem nodup_toList (s : SortedSet α) : s.toList.Nodup :=
  SortedMap.nodup_keys s

theorem mem_toList_iff {s : SortedSet α} {a : α} : a ∈ s.toList ↔ s.get? a = some () := by
  rw [toList, SortedMap.mem_keys_iff]
  exact ⟨fun ⟨(), h⟩ => h, fun h => ⟨(), h⟩⟩

variable [TransOrd α]

/-- Sets with the same members are equal. -/
theorem ext_mem {s t : SortedSet α} (h : ∀ a, a ∈ s.toList ↔ a ∈ t.toList) : s = t := by
  refine SortedMap.ext_get? fun a => Option.ext fun () => ?_
  simpa only [mem_toList_iff] using h a

@[simp] theorem mem_toList_add {s : SortedSet α} {a b : α} :
    b ∈ (s.add a).toList ↔ b = a ∨ b ∈ s.toList := by
  simp only [mem_toList_iff, add, SortedMap.get?_insert, Std.compare_eq_iff_eq]
  by_cases h : b = a <;> simp [h]

@[simp] theorem mem_toList_addAll {s : SortedSet α} {members : List α} {b : α} :
    b ∈ (s.addAll members).toList ↔ b ∈ s.toList ∨ b ∈ members := by
  induction members generalizing s with
  | nil => simp [addAll]
  | cons a rest ih =>
    have hStep : s.addAll (a :: rest) = (s.add a).addAll rest := rfl
    rw [hStep, ih, mem_toList_add, List.mem_cons, or_assoc, or_left_comm]

@[simp] theorem mem_toList_ofList {members : List α} {b : α} :
    b ∈ (ofList members).toList ↔ b ∈ members := by
  simp [ofList]

end SortedSet

end JavaImports
