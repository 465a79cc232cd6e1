-- SUMMARY: The walk through everything below a directory, with what cannot be told on the way.
import JavaImports.FileSystem.Basic

/-! # Walking a directory

A walk goes through everything below a directory, depth first: an entry comes before what lies below
it, and the entries of one directory come in the order of their names. Links are entries like any
other and are not followed. What the system cannot tell is part of the walk too; in a directory it
comes before the entries. -/

namespace JavaImports.FileSystem

/-- Why a part of a walk cannot be told. Its place is known unless not even a name could be read. -/
structure WalkError where
  place? : Option Location
  error : FileError
deriving DecidableEq, Repr

/-- The same with the place as seen from further up. -/
def WalkError.under (directory : Location) (trouble : WalkError) : WalkError :=
  { trouble with place? := trouble.place?.map (directory ++ ·) }

/-! ## One directory -/

/-- The name of a location in a directory. -/
def entryName? (directory location : Location) : Option String :=
  if location.dropLast = directory then location.getLast? else none

/-- The names in a directory and what stands there. -/
def entries (fs : FileSystem) (directory : Location) : List (String × Node) :=
  fs.nodes.entries.filterMap fun (location, node) =>
    (entryName? directory location).map fun name => (name, node)

/-- What the system tells of a directory: its entries, those that cannot be told, or why it cannot
    be listed at all. -/
def listing (fs : FileSystem) (directory : Location) : List (Except WalkError (String × Node)) :=
  match fs.troubles.unlisted? directory with
  | some error => [.error ⟨some [], error⟩]
  | none =>
    let lost := (fs.troubles.lost directory).map fun (name?, error) =>
      .error ⟨name?.map ([·]), error⟩
    lost ++ (fs.entries directory).map .ok

/-- The order in which a walk goes through a directory: first what cannot be told, then the entries
    by their names. -/
def isBefore : Except WalkError (String × Node) → Except WalkError (String × Node) → Bool
  | .error _, _ => true
  | .ok _, .error _ => false
  | .ok (name, _), .ok (other, _) => (compare name other).isLE

/-- What the system tells of a directory, in the order in which a walk goes through it. -/
def sortedListing (fs : FileSystem) (directory : Location) :
    List (Except WalkError (String × Node)) :=
  (fs.listing directory).mergeSort isBefore

/-! ## All directories -/

/-- The length of the longest location. -/
def depth (fs : FileSystem) : Nat :=
  (fs.nodes.keys.map List.length).foldr max 0

theorem length_le_depth {fs : FileSystem} {location : Location}
    (h : location ∈ fs.nodes.keys) : location.length ≤ fs.depth := by
  unfold depth
  generalize fs.nodes.keys = keys at h
  induction keys with
  | nil => cases h
  | cons other keys ih =>
    rw [List.map_cons, List.foldr_cons]
    rcases List.mem_cons.1 h with rfl | hMem
    · exact Nat.le_max_left ..
    · exact Nat.le_trans (ih hMem) (Nat.le_max_right ..)

theorem entryName?_eq_some_iff {directory location : Location} {name : String} :
    entryName? directory location = some name ↔ location = directory ++ [name] := by
  unfold entryName?
  constructor
  · intro h
    split at h
    · next hParent =>
      obtain ⟨init, rfl⟩ := List.getLast?_eq_some_iff.1 h
      rw [List.dropLast_concat] at hParent
      rw [hParent]
    · cases h
  · rintro rfl
    simp

theorem mem_entries_iff_mem {fs : FileSystem} {directory : Location} {name : String} {node : Node} :
    (name, node) ∈ fs.entries directory ↔ (directory ++ [name], node) ∈ fs.nodes.entries := by
  simp only [entries, List.mem_filterMap, Option.map_eq_some_iff, entryName?_eq_some_iff,
    Prod.exists, Prod.mk.injEq]
  constructor
  · rintro ⟨_, _, hMem, _, rfl, rfl, rfl⟩
    exact hMem
  · intro hMem
    exact ⟨_, _, hMem, _, rfl, rfl, rfl⟩

theorem mem_sortedListing_ok_iff {fs : FileSystem} {directory : Location}
    {entry : String × Node} : .ok entry ∈ fs.sortedListing directory ↔
      fs.troubles.unlisted? directory = none ∧ entry ∈ fs.entries directory := by
  rw [sortedListing, List.mem_mergeSort, listing]
  cases fs.troubles.unlisted? directory <;> simp

/-- An entry lies deeper than its directory, and not too deep. -/
theorem depth_sub_lt {fs : FileSystem} {top below : Location} {name : String} {node : Node}
    (h : .ok (name, node) ∈ fs.sortedListing (top ++ below)) :
    fs.depth - (top ++ (below ++ [name])).length < fs.depth - (top ++ below).length := by
  have hMem := mem_entries_iff_mem.1 (mem_sortedListing_ok_iff.1 h).2
  have hLength := length_le_depth (List.mem_map_of_mem hMem)
  simp only [List.length_append, List.length_singleton] at hLength ⊢
  omega

/-- The walk through what lies below the directory at `top ++ below`. Places are told as seen from
    `top`. -/
def walkBelow (fs : FileSystem) (top below : Location) :
    List (Except WalkError (Location × Node)) :=
  (fs.sortedListing (top ++ below)).attach.flatMap fun
    | ⟨.error trouble, _⟩ => [.error (trouble.under below)]
    | ⟨.ok (name, node), _⟩ =>
      let here := below ++ [name]
      .ok (here, node) :: if node = .directory then walkBelow fs top here else []
termination_by fs.depth - (top ++ below).length
decreasing_by exact depth_sub_lt ‹_›

end JavaImports.FileSystem
