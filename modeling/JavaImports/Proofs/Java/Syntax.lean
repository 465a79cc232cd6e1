-- SUMMARY: The search for the first fault of a syntax tree finds it.
import JavaImports.Java.Language

/-! # Faults

The search for the first fault passes over subtrees without faults and loses none by that: it finds
what going through all nodes in document order would find first. So a source file is refused exactly
for a fault in its tree, and always with the place of the first one. -/

namespace JavaImports.Java

namespace SyntaxTree

/-! ## Document order -/

mutual

/-- The nodes of a tree in document order: its root, and then the nodes below each child from left
    to right. -/
def nodes : SyntaxTree → List SyntaxTree
  | node kind start text children => node kind start text children :: nodesOf children

/-- The nodes of several trees, one tree after another. -/
def nodesOf : List SyntaxTree → List SyntaxTree
  | [] => []
  | tree :: more => nodes tree ++ nodesOf more

end

/-- A node of a tree that is a fault, with no fault before it in document order. -/
def IsFirstFault (tree fault : SyntaxTree) : Prop :=
  ∃ before after, tree.nodes = before ++ fault :: after ∧ fault.kind.isFault = true ∧
    ∀ node ∈ before, node.kind.isFault = false

/-! ## The search -/

mutual

theorem hasFault_eq_any (tree : SyntaxTree) :
    tree.hasFault = tree.nodes.any fun node => node.kind.isFault := by
  cases tree with
  | node kind start text children =>
    rw [hasFault, nodes, List.any_cons, anyFault_eq_any children, SyntaxTree.kind]

theorem anyFault_eq_any (trees : List SyntaxTree) :
    anyFault trees = (nodesOf trees).any fun node => node.kind.isFault := by
  cases trees with
  | nil => rfl
  | cons tree more =>
    rw [anyFault, nodesOf, List.any_append, hasFault_eq_any tree, anyFault_eq_any more]

end

/-- Nothing is found in a tree without faults, so that it need not be searched. -/
theorem find?_nodes_of_hasFault {tree : SyntaxTree} (h : tree.hasFault = false) :
    tree.nodes.find? (fun node => node.kind.isFault) = none := by
  rw [hasFault_eq_any, List.any_eq_false] at h
  exact List.find?_eq_none.2 h

mutual

/-- The search for the first fault of a tree finds the first fault among all its nodes. -/
theorem firstFault?_eq_find? (tree : SyntaxTree) :
    tree.firstFault? = tree.nodes.find? fun node => node.kind.isFault := by
  cases tree with
  | node kind start text children =>
    rw [firstFault?, nodes, List.find?_cons, SyntaxTree.kind]
    cases kind.isFault with
    | true => rfl
    | false => exact firstFaultIn?_eq_find? children

theorem firstFaultIn?_eq_find? (trees : List SyntaxTree) :
    firstFaultIn? trees = (nodesOf trees).find? fun node => node.kind.isFault := by
  cases trees with
  | nil => rfl
  | cons tree more =>
    rw [firstFaultIn?, nodesOf, List.find?_append, ← firstFaultIn?_eq_find? more]
    cases hFault : tree.hasFault with
    | false => rw [find?_nodes_of_hasFault hFault]; rfl
    | true =>
      rw [← firstFault?_eq_find? tree]
      cases tree.firstFault? <;> rfl

end

theorem isSome_firstFault? (tree : SyntaxTree) : tree.firstFault?.isSome = tree.hasFault := by
  rw [firstFault?_eq_find?, List.isSome_find?, hasFault_eq_any]

theorem firstFault?_eq_none_iff (tree : SyntaxTree) :
    tree.firstFault? = none ↔ tree.hasFault = false := by
  rw [← isSome_firstFault?, Option.isSome_eq_false_iff, Option.isNone_iff_eq_none]

theorem firstFault?_eq_some_iff {tree fault : SyntaxTree} :
    tree.firstFault? = some fault ↔ IsFirstFault tree fault := by
  rw [firstFault?_eq_find?, List.find?_eq_some_iff_append]
  constructor
  · rintro ⟨hFault, before, after, hNodes, hBefore⟩
    exact ⟨before, after, hNodes, hFault, fun node hMem => by simpa using hBefore node hMem⟩
  · rintro ⟨before, after, hNodes, hFault, hBefore⟩
    exact ⟨hFault, before, after, hNodes, fun node hMem => by simp [hBefore node hMem]⟩

/-- An error comes before what is missing in it and before the errors behind it. -/
example : (node .program .front [] [node .other .front [] [],
    node .error ⟨1, 2⟩ [] [node .missing ⟨1, 4⟩ [] []],
    node .error ⟨3, 0⟩ [] []]).firstFault?.map start = some ⟨1, 2⟩ := by
  decide

theorem anyFault_eq_false_iff {trees : List SyntaxTree} :
    anyFault trees = false ↔ ∀ tree ∈ trees, tree.hasFault = false := by
  induction trees with
  | nil => simp [anyFault]
  | cons tree more ih => rw [anyFault, Bool.or_eq_false_iff, ih, List.forall_mem_cons]

end SyntaxTree

/-! ## Refused files -/

open SyntaxTree (IsFirstFault firstFault?_eq_some_iff)

namespace SyntaxTree

theorem declarations_eq_ok_iff {tree : SyntaxTree} {declarations : List Declaration} :
    tree.declarations = .ok declarations ↔
      tree.hasFault = false ∧ tree.children.filterMap declaration? = declarations := by
  unfold SyntaxTree.declarations
  cases tree.hasFault <;> simp

/-- A tree that is refused has a first fault, which is found. -/
theorem declarations_eq_error_iff {tree : SyntaxTree} {position? : Option Position} :
    tree.declarations = .error position? ↔
      ∃ fault, IsFirstFault tree fault ∧ position? = some fault.start := by
  simp only [← firstFault?_eq_some_iff, SyntaxTree.declarations]
  cases hFirst : tree.firstFault? with
  | none => simp [(firstFault?_eq_none_iff tree).1 hFirst]
  | some fault =>
    have hFault : tree.hasFault = true := by rw [← isSome_firstFault?, hFirst, Option.isSome_some]
    simp [hFault, eq_comm]

end SyntaxTree

namespace Parser

variable {parser : Parser} {path source : String} {tree : SyntaxTree}

theorem declarations_eq_ok_iff {declarations : List Declaration} :
    parser.declarations path source = .ok declarations ↔
      ∃ tree, parser source = .ok tree ∧ tree.declarations = .ok declarations := by
  unfold Parser.declarations
  cases parser source with
  | error reason => simp
  | ok tree => cases hRead : tree.declarations <;> simp [hRead]

/-- A file with a tree is refused for the first fault of the tree. -/
theorem declarations_eq_error_iff (hTree : parser source = .ok tree) {failure : Failure} :
    parser.declarations path source = .error failure ↔
      ∃ fault, IsFirstFault tree fault ∧ failure = .syntaxError (some fault.start) path := by
  have hMap : parser.declarations path source = .error failure ↔
      ∃ position?, tree.declarations = .error position? ∧
        failure = .syntaxError position? path := by
    simp only [Parser.declarations, hTree]
    cases tree.declarations <;> simp [eq_comm]
  rw [hMap]
  constructor
  · rintro ⟨position?, hRefused, rfl⟩
    obtain ⟨fault, hFirst, rfl⟩ := SyntaxTree.declarations_eq_error_iff.1 hRefused
    exact ⟨fault, hFirst, rfl⟩
  · rintro ⟨fault, hFirst, rfl⟩
    exact ⟨_, SyntaxTree.declarations_eq_error_iff.2 ⟨fault, hFirst, rfl⟩, rfl⟩

/-- No file is refused for a fault without a place: the search finds one wherever there is any. -/
theorem declarations_ne_syntaxError_none (parser : Parser) (path source other : String) :
    parser.declarations path source ≠ .error (.syntaxError none other) := by
  intro hRefused
  cases hTree : parser source with
  | error reason => simp [Parser.declarations, hTree] at hRefused
  | ok tree =>
    obtain ⟨fault, -, hFailure⟩ := (declarations_eq_error_iff hTree).1 hRefused
    cases hFailure

end Parser

theorem declarations_java_eq_ok_iff {path source : String} {declarations : List Declaration} :
    Language.java.declarations path source = .ok declarations ↔
      Java.declarations source = .ok declarations := by
  simp [Language.java, Parser.language, Parser.declarations_eq_ok_iff, Java.parser,
    Java.declarations]

/-- What becomes of a file with a tree: it is refused exactly for a fault in the tree, and always
    with the line and the column of the first one. -/
structure IsRefusedForFaults (tree : SyntaxTree) (path : String)
    (result : Except Failure (List Declaration)) : Prop where
  refused_iff : (∃ failure, result = .error failure) ↔
    ∃ node ∈ tree.nodes, node.kind.isFault = true
  failure_iff : ∀ failure, result = .error failure ↔
    ∃ fault, IsFirstFault tree fault ∧ failure = .syntaxError (some fault.start) path ∧
      failure.message .full = "extraction error: syntax error at " ++
        ("line " ++ toString (fault.start.line + 1) ++ ", column " ++
          toString (fault.start.column + 1)) ++ " (path: " ++ path ++ ")"

/-- The search for the first fault finds one exactly in the trees that have any, and what it finds
    is the first in document order. So of the files that a parser has trees of, exactly those with a
    fault in their tree are refused, each with the line and the column of the first one. -/
theorem refused_for_firstFault :
    (∀ tree : SyntaxTree,
      (tree.hasFault = true ↔ ∃ node ∈ tree.nodes, node.kind.isFault = true) ∧
      tree.firstFault?.isSome = tree.hasFault ∧
      ∀ fault, tree.firstFault? = some fault ↔ IsFirstFault tree fault) ∧
    (∀ (parser : Parser) path source tree, parser source = .ok tree →
      IsRefusedForFaults tree path (parser.declarations path source)) ∧
    (∀ (parser : Parser) path source other,
      parser.declarations path source ≠ .error (.syntaxError none other)) ∧
    ∀ path source,
      IsRefusedForFaults (parse source) path (Language.java.declarations path source) := by
  have hAny (tree : SyntaxTree) :
      tree.hasFault = true ↔ ∃ node ∈ tree.nodes, node.kind.isFault = true := by
    rw [SyntaxTree.hasFault_eq_any, List.any_eq_true]
  have hRefused (parser : Parser) (path source : String) (tree : SyntaxTree)
      (hTree : parser source = .ok tree) :
      IsRefusedForFaults tree path (parser.declarations path source) := by
    refine ⟨?_, fun failure => ?_⟩
    · rw [← hAny, ← SyntaxTree.isSome_firstFault?, Option.isSome_iff_exists]
      simp only [Parser.declarations_eq_error_iff hTree, ← firstFault?_eq_some_iff]
      constructor
      · rintro ⟨failure, fault, hFound, -⟩
        exact ⟨fault, hFound⟩
      · rintro ⟨fault, hFound⟩
        exact ⟨_, fault, hFound, rfl⟩
    · rw [Parser.declarations_eq_error_iff hTree]
      constructor
      · rintro ⟨fault, hFirst, rfl⟩
        exact ⟨fault, hFirst, rfl, rfl⟩
      · rintro ⟨fault, hFirst, hFailure, -⟩
        exact ⟨fault, hFirst, hFailure⟩
  exact ⟨fun tree => ⟨hAny tree, tree.isSome_firstFault?, fun fault => firstFault?_eq_some_iff⟩,
    hRefused, Parser.declarations_ne_syntaxError_none,
    fun path source => hRefused Java.parser path source (parse source) rfl⟩

end JavaImports.Java
