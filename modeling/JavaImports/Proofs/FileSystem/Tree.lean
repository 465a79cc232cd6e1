-- SUMMARY: File systems that are trees, and the ways through their directories.
import JavaImports.Proofs.FileSystem.Agreement

/-! # Trees

In a tree every node stands in a directory, so what lies below a directory is what can be reached
from it through directories alone: links are entries like any other, whatever they stand for, and
those that go round in circles lead to nothing new. -/

namespace JavaImports.FileSystem

/-- Names that an entry of a directory can have. -/
structure IsEntryName (name : String) : Prop where
  nonempty : name ≠ ""
  noSlash : '/' ∉ name.toList
  notDot : name ≠ "."
  notUp : name ≠ ".."

instance (name : String) : Decidable (IsEntryName name) :=
  decidable_of_iff (name ≠ "" ∧ '/' ∉ name.toList ∧ name ≠ "." ∧ name ≠ "..")
    ⟨fun ⟨nonempty, noSlash, notDot, notUp⟩ => ⟨nonempty, noSlash, notDot, notUp⟩,
    fun h => ⟨h.nonempty, h.noSlash, h.notDot, h.notUp⟩⟩

/-- Every node but the top is an entry of a directory. -/
structure IsTree (fs : FileSystem) : Prop where
  name {location : Location} {name : String} {node : Node} :
    fs.nodeAt? (location ++ [name]) = some node → IsEntryName name
  parent {location : Location} {name : String} {node : Node} :
    fs.nodeAt? (location ++ [name]) = some node → fs.nodeAt? location = some .directory

/-! ## Growing a tree -/

theorem isTree_bare : IsTree bare := by
  constructor <;> intro location name node h <;> simp [nodeAt?, bare] at h

/-- A tree stays one when an entry is made in a directory, or replaces one that is no directory. -/
theorem IsTree.put {fs : FileSystem} (hTree : fs.IsTree) (location : Location) {name : String}
    (hName : IsEntryName name) (hParent : fs.nodeAt? location = some .directory)
    (hOld : fs.nodeAt? (location ++ [name]) ≠ some .directory) (node : Node) :
    (fs.put (location ++ [name]) node).IsTree := by
  have hPut (other : Location) : (fs.put (location ++ [name]) node).nodeAt? other =
      if other = location ++ [name] then some node else fs.nodeAt? other :=
    nodeAt?_put (by simp) node other
  constructor
  · intro above entry there hThere
    rw [hPut] at hThere
    split at hThere
    · next hHere =>
      obtain rfl : entry = name := by simpa using List.append_inj_right' hHere rfl
      exact hName
    · exact hTree.name hThere
  · intro above entry there hThere
    rw [hPut] at hThere ⊢
    split at hThere
    · next hHere =>
      obtain rfl : above = location := List.append_inj_left' hHere rfl
      rw [if_neg (by simp), hParent]
    · have hAbove := hTree.parent hThere
      have hElsewhere : above ≠ location ++ [name] := by
        rintro rfl
        exact hOld hAbove
      rw [if_neg hElsewhere, hAbove]

/-! ## Ways through directories -/

/-- A way from a directory leads to a node, name by name and through directories only. -/
inductive Leads (fs : FileSystem) : Location → List String → Node → Prop
  | entry {directory : Location} {name : String} {node : Node} :
    fs.nodeAt? (directory ++ [name]) = some node → Leads fs directory [name] node
  | enter {directory : Location} {name : String} {rest : List String} {node : Node} :
    fs.nodeAt? (directory ++ [name]) = some .directory →
    Leads fs (directory ++ [name]) rest node → Leads fs directory (name :: rest) node

section Ways

variable {fs : FileSystem} {directory : Location} {relative : List String} {node : Node}

theorem Leads.nodeAt? (h : fs.Leads directory relative node) :
    relative ≠ [] ∧ fs.nodeAt? (directory ++ relative) = some node := by
  induction h with
  | entry hNode => exact ⟨List.cons_ne_nil _ _, hNode⟩
  | enter hDirectory hRest ih => exact ⟨List.cons_ne_nil _ _, by simpa using ih.2⟩

theorem Leads.isEntryName (hTree : fs.IsTree) (h : fs.Leads directory relative node) :
    ∀ name ∈ relative, IsEntryName name := by
  induction h with
  | entry hNode => simpa using hTree.name hNode
  | enter hDirectory hRest ih => exact List.forall_mem_cons.2 ⟨hTree.name hDirectory, ih⟩

/-- Above a node there are directories only. -/
theorem IsTree.directory_of_append (hTree : fs.IsTree) (hRelative : relative ≠ [])
    (h : fs.nodeAt? (directory ++ relative) = some node) :
    fs.nodeAt? directory = some .directory := by
  induction relative generalizing directory with
  | nil => exact absurd rfl hRelative
  | cons name rest ih =>
    cases rest with
    | nil => exact hTree.parent h
    | cons next rest =>
      have hEntry : fs.nodeAt? (directory ++ [name]) = some .directory :=
        ih (List.cons_ne_nil _ _) (by simpa using h)
      exact hTree.parent hEntry

/-- In a tree a way leads to what stands at the end of it. -/
theorem IsTree.leads_iff (hTree : fs.IsTree) : fs.Leads directory relative node ↔
    relative ≠ [] ∧ fs.nodeAt? (directory ++ relative) = some node := by
  refine ⟨Leads.nodeAt?, ?_⟩
  rintro ⟨hRelative, hNode⟩
  induction relative generalizing directory with
  | nil => exact absurd rfl hRelative
  | cons name rest ih =>
    cases rest with
    | nil => exact .entry hNode
    | cons next rest =>
      have hOn : fs.nodeAt? (directory ++ [name] ++ next :: rest) = some node := by
        simpa using hNode
      have hDirectory := hTree.directory_of_append (List.cons_ne_nil _ _) hOn
      exact .enter hDirectory (ih (List.cons_ne_nil _ _) hOn)

end Ways

end JavaImports.FileSystem
