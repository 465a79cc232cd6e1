-- SUMMARY: The name of a unit tells its package and its class.
import JavaImports.Proofs.DottedName
import JavaImports.Proofs.Text.Split

/-! # Names of units

No class has a dot in it, however many the name of its file has. So the last dot in the name of a
unit is the one behind the package, and what stands on either side of it are the package and the
class. Files whose units have one name hold the same class of the same package. -/

namespace JavaImports

/-- The package of a file, if it is in one: the empty package is none. -/
def properPackage? (package? : Option String) : Option String :=
  package?.filter fun package => !package.isEmpty

/-- The package and the class that the name of a unit tells: what stands before and after its last
    dot. A name without a dot is a class in no package. -/
def readUnitName (name : String) : Option String × String :=
  match Text.cutLast? ['.'] name.toList with
  | none => (none, name)
  | some (package, place) => (some (String.ofList package), String.ofList place.tail)

theorem unitName_eq (package? : Option String) (path : String) :
    unitName package? path =
      (properPackage? package?).elim (className path) fun package =>
        package ++ "." ++ className path := by
  cases package? with
  | none => rfl
  | some package =>
    by_cases hEmpty : package = "" <;>
      simp [unitName, properPackage?, Option.filter_some, hEmpty]

/-- A package and a class can be read off the name of their unit. -/
theorem readUnitName_unitName (package? : Option String) (path : String) :
    readUnitName (unitName package? path) = (properPackage? package?, className path) := by
  have hClass := dot_not_mem_className path
  rw [unitName_eq]
  cases properPackage? package? with
  | none =>
    have hCut : Text.cutLast? ['.'] (className path).toList = none := by
      rwa [Text.cutLast?_eq_none_iff, List.singleton_infix_iff]
    rw [Option.elim_none, readUnitName, hCut]
  | some package =>
    have hText : (package ++ "." ++ className path).toList =
        package.toList ++ '.' :: (className path).toList := by
      simp
    rw [Option.elim_some, readUnitName, hText, Text.cutLast?_append_separator hClass]
    simp

/-- Units have the same name exactly if they are the same class of the same package, where the empty
    package is none. The class is what stands behind the last dot of the name. -/
theorem unitName_eq_unitName_iff (package? other? : Option String) (path otherPath : String) :
    (unitName package? path = unitName other? otherPath ↔
      className path = className otherPath ∧ properPackage? package? = properPackage? other?) ∧
    readUnitName (unitName package? path) = (properPackage? package?, className path) ∧
    '.' ∉ (className path).toList := by
  refine ⟨⟨fun hSame => ?_, ?_⟩, readUnitName_unitName package? path, dot_not_mem_className path⟩
  · have hRead := congrArg readUnitName hSame
    rw [readUnitName_unitName, readUnitName_unitName] at hRead
    obtain ⟨hPackage, hClass⟩ := Prod.mk.inj hRead
    exact ⟨hClass, hPackage⟩
  · rintro ⟨hClass, hPackage⟩
    rw [unitName_eq, unitName_eq, hClass, hPackage]

/-- Dots in the name of a file do not get into the class, those of the package stay. -/
example : readUnitName (unitName (some "a..b") "src/X.test.java") = (some "a..b", "X") := by
  decide +kernel

end JavaImports
