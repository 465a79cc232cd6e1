-- SUMMARY: Finite maps kept as lists in strictly increasing order of their keys.

/-! # Sorted maps

A finite map is a list of entries in strictly increasing order of their keys, so two maps that give
every key the same value are equal. Every operation is described by what it does to the look-up
`get?`. -/

namespace JavaImports

open Std

/-- Entries in strictly increasing order of their keys. -/
def StrictlySorted {κ : Type u} {ν : Type v} [Ord κ] (entries : List (κ × ν)) : Prop :=
  entries.Pairwise fun a b => compare a.1 b.1 = .lt

/-- A finite map from keys to values. -/
structure SortedMap (κ : Type u) (ν : Type v) [Ord κ] where
  entries : List (κ × ν)
  sorted : StrictlySorted entries

namespace SortedMap

variable {κ : Type u} {ν : Type v} [Ord κ]

/-- The map without entries. -/
def empty : SortedMap κ ν :=
  ⟨[], List.Pairwise.nil⟩

instance : Inhabited (SortedMap κ ν) := ⟨empty⟩

/-- The keys, in increasing order. -/
def keys (m : SortedMap κ ν) : List κ :=
  m.entries.map (·.1)

/-- The number of entries. -/
def size (m : SortedMap κ ν) : Nat :=
  m.entries.length

/-- The value of the first entry with a given key. -/
def find? (key : κ) : List (κ × ν) → Option ν
  | [] => none
  | (k, v) :: rest => if compare key k = .eq then some v else find? key rest

/-- The value of a key. -/
def get? (m : SortedMap κ ν) (key : κ) : Option ν :=
  find? key m.entries

@[simp] theorem get?_empty (key : κ) : (empty : SortedMap κ ν).get? key = none := rfl

theorem find?_eq_none [TransOrd κ] [LawfulEqOrd κ] {key : κ} {entries : List (κ × ν)}
    (h : ∀ entry ∈ entries, compare key entry.1 = .lt) : find? key entries = none := by
  induction entries with
  | nil => rfl
  | cons head rest ih =>
    simp [find?, h head (List.mem_cons_self ..), ih fun e he => h e (List.mem_cons_of_mem _ he)]

/-- Sorted entries are told apart by looking keys up. -/
theorem StrictlySorted.eq_of_find? [TransOrd κ] [LawfulEqOrd κ] {a b : List (κ × ν)}
    (ha : StrictlySorted a) (hb : StrictlySorted b) (h : ∀ key, find? key a = find? key b) :
    a = b := by
  induction a generalizing b with
  | nil =>
    cases b with
    | nil => rfl
    | cons head rest => simpa [find?] using h head.1
  | cons head rest ih =>
    obtain ⟨k, v⟩ := head
    have ⟨hk, hRest⟩ := List.pairwise_cons.1 ha
    cases b with
    | nil => simpa [find?] using h k
    | cons head' rest' =>
      obtain ⟨l, w⟩ := head'
      have ⟨hl, hRest'⟩ := List.pairwise_cons.1 hb
      have hkl : k = l := by
        refine Std.compare_eq_iff_eq.1 ?_
        match hc : compare k l with
        | .eq => rfl
        | .lt =>
          have none := find?_eq_none fun e he => TransCmp.lt_trans hc (hl e he)
          simpa [find?, hc, none] using h k
        | .gt =>
          have hlt := OrientedCmp.lt_of_gt hc
          have none := find?_eq_none fun e he => TransCmp.lt_trans hlt (hk e he)
          simpa [find?, hlt, none] using h l
      subst hkl
      have hv : v = w := by simpa [find?] using h k
      subst hv
      rw [ih hRest hRest' fun key => ?_]
      by_cases hkey : compare key k = .eq
      · rw [Std.compare_eq_iff_eq.1 hkey, find?_eq_none hk, find?_eq_none hl]
      · simpa [find?, hkey] using h key

@[ext] theorem ext_get? [TransOrd κ] [LawfulEqOrd κ] {m n : SortedMap κ ν}
    (h : ∀ key, m.get? key = n.get? key) : m = n := by
  cases m; cases n
  congr
  exact StrictlySorted.eq_of_find? ‹_› ‹_› h

/-- Whether a key has a value. -/
def contains (m : SortedMap κ ν) (key : κ) : Bool :=
  (m.get? key).isSome

/-- Puts an entry in its place, in front of the greater keys and instead of an equal one. -/
def insertEntry (key : κ) (value : ν) : List (κ × ν) → List (κ × ν)
  | [] => [(key, value)]
  | (k, v) :: rest =>
    match compare key k with
    | .lt => (key, value) :: (k, v) :: rest
    | .eq => (key, value) :: rest
    | .gt => (k, v) :: insertEntry key value rest

theorem mem_insertEntry {key : κ} {value : ν} {entries : List (κ × ν)} {entry : κ × ν}
    (h : entry ∈ insertEntry key value entries) : entry = (key, value) ∨ entry ∈ entries := by
  induction entries with
  | nil => exact .inl (List.mem_singleton.1 h)
  | cons head rest ih =>
    obtain ⟨k, v⟩ := head
    simp only [insertEntry] at h
    split at h
    · exact List.mem_cons.1 h
    · exact (List.mem_cons.1 h).imp_right (List.mem_cons_of_mem _)
    · rcases List.mem_cons.1 h with rfl | h
      · exact .inr (List.mem_cons_self ..)
      · exact (ih h).imp_right (List.mem_cons_of_mem _)

theorem strictlySorted_insertEntry [TransOrd κ] [LawfulEqOrd κ] (key : κ) (value : ν)
    {entries : List (κ × ν)} (h : StrictlySorted entries) :
    StrictlySorted (insertEntry key value entries) := by
  induction entries with
  | nil => exact List.pairwise_singleton ..
  | cons head rest ih =>
    obtain ⟨k, v⟩ := head
    have ⟨hHead, hRest⟩ := List.pairwise_cons.1 h
    simp only [insertEntry]
    split
    · next hlt =>
      refine List.pairwise_cons.2 ⟨fun entry hEntry => ?_, h⟩
      rcases List.mem_cons.1 hEntry with rfl | hEntry
      · exact hlt
      · exact TransCmp.lt_trans hlt (hHead entry hEntry)
    · next heq =>
      have : key = k := Std.compare_eq_iff_eq.1 heq
      subst this
      exact List.pairwise_cons.2 ⟨hHead, hRest⟩
    · next hgt =>
      refine List.pairwise_cons.2 ⟨fun entry hEntry => ?_, ih hRest⟩
      rcases mem_insertEntry hEntry with rfl | hEntry
      · exact OrientedCmp.lt_of_gt hgt
      · exact hHead entry hEntry

theorem find?_insertEntry [TransOrd κ] [LawfulEqOrd κ] (key : κ) (value : ν)
    (entries : List (κ × ν)) (k : κ) :
    find? k (insertEntry key value entries) =
      if compare k key = .eq then some value else find? k entries := by
  induction entries with
  | nil => rfl
  | cons head rest ih =>
    obtain ⟨l, v⟩ := head
    simp only [insertEntry]
    split
    · rfl
    · next heq =>
      have : key = l := Std.compare_eq_iff_eq.1 heq
      subst this
      simp only [find?]
      split <;> rfl
    · next hgt =>
      simp only [find?, ih]
      split
      · next hl =>
        have : k = l := Std.compare_eq_iff_eq.1 hl
        subst this
        simp [OrientedCmp.lt_of_gt hgt]
      · rfl

/-- The map with `value` for `key` and all else as before. -/
def insert [TransOrd κ] [LawfulEqOrd κ] (m : SortedMap κ ν) (key : κ) (value : ν) :
    SortedMap κ ν :=
  ⟨insertEntry key value m.entries, strictlySorted_insertEntry key value m.sorted⟩

@[simp] theorem get?_insert [TransOrd κ] [LawfulEqOrd κ] (m : SortedMap κ ν) (key : κ) (value : ν)
    (k : κ) : (m.insert key value).get? k =
      if compare k key = .eq then some value else m.get? k :=
  find?_insertEntry key value m.entries k

/-- The entries whose key passes a test. -/
def filterKeys (m : SortedMap κ ν) (keep : κ → Bool) : SortedMap κ ν :=
  ⟨m.entries.filter fun entry => keep entry.1, m.sorted.filter _⟩

theorem find?_filter (keep : κ → Bool) [LawfulEqOrd κ] (entries : List (κ × ν)) (key : κ) :
    find? key (entries.filter fun entry => keep entry.1) =
      if keep key then find? key entries else none := by
  induction entries with
  | nil => simp [find?]
  | cons head rest ih =>
    obtain ⟨k, v⟩ := head
    by_cases hk : compare key k = .eq
    · have := Std.compare_eq_iff_eq.1 hk
      subst this
      by_cases hkeep : keep key <;> simp_all [find?]
    · by_cases hkeep : keep k <;> simp_all [find?]

@[simp] theorem get?_filterKeys [LawfulEqOrd κ] (m : SortedMap κ ν) (keep : κ → Bool) (key : κ) :
    (m.filterKeys keep).get? key = if keep key then m.get? key else none :=
  find?_filter keep m.entries key

/-- The map without `key`. -/
def erase (m : SortedMap κ ν) (key : κ) : SortedMap κ ν :=
  m.filterKeys fun k => compare key k != .eq

@[simp] theorem get?_erase [OrientedOrd κ] [LawfulEqOrd κ] (m : SortedMap κ ν) (key k : κ) :
    (m.erase key).get? k = if compare k key = .eq then none else m.get? k := by
  have : compare key k = .eq ↔ compare k key = .eq := OrientedCmp.eq_comm
  by_cases h : compare k key = .eq <;> simp_all [erase]

/-- The map of a list of entries; the last of several entries with one key counts. -/
def ofList [TransOrd κ] [LawfulEqOrd κ] (entries : List (κ × ν)) : SortedMap κ ν :=
  entries.foldl (fun m entry => m.insert entry.1 entry.2) empty

/-- What has to be done to entries to get others: the keys with a new value, and the keys that have
    none any more. Both lists of entries are in increasing order. -/
def entryChanges [DecidableEq ν] : List (κ × ν) → List (κ × ν) → List (κ × Option ν)
  | [], after => after.map fun (key, value) => (key, some value)
  | before, [] => before.map fun (key, _) => (key, none)
  | (k, v) :: before, (l, w) :: after =>
    match compare k l with
    | .lt => (k, none) :: entryChanges before ((l, w) :: after)
    | .gt => (l, some w) :: entryChanges ((k, v) :: before) after
    | .eq =>
      if v = w then entryChanges before after else (l, some w) :: entryChanges before after
termination_by before after => before.length + after.length

/-- What has to be done to one map to get another, in the order of the keys. -/
def changes [DecidableEq ν] (before after : SortedMap κ ν) : List (κ × Option ν) :=
  entryChanges before.entries after.entries

end SortedMap

/-- A finite set, as a map to the trivial value. -/
abbrev SortedSet (α : Type u) [Ord α] := SortedMap α Unit

namespace SortedSet

variable {α : Type u} [Ord α]

/-- The members, in increasing order. -/
def toList (s : SortedSet α) : List α :=
  s.keys

/-- The set with one more member. -/
def add [TransOrd α] [LawfulEqOrd α] (s : SortedSet α) (a : α) : SortedSet α :=
  SortedMap.insert s a ()

/-- The set with all members of a list added. -/
def addAll [TransOrd α] [LawfulEqOrd α] (s : SortedSet α) (members : List α) : SortedSet α :=
  members.foldl add s

/-- The set of the members of a list. -/
def ofList [TransOrd α] [LawfulEqOrd α] (members : List α) : SortedSet α :=
  addAll SortedMap.empty members

end SortedSet

end JavaImports
