-- SUMMARY: Which unit imports which symbols.
import JavaImports.SortedMap
import JavaImports.SymbolFilter
import JavaImports.Unit

/-! # Import maps

An import map gives every unit the set of symbols it imports. Units are added one file at a time: of
a file only the symbols that pass a filter count, and a file of which none does leaves the map as it
was. So a map that was made by adding files has no unit without symbols. -/

namespace JavaImports

/-- The symbols that each unit imports. -/
abbrev ImportMap := SortedMap String (SortedSet String)

namespace ImportMap

/-- The map in which no unit imports anything. -/
def empty : ImportMap :=
  SortedMap.empty

/-- The symbols that a unit imports, none if the map does not hold the unit. -/
def symbols (imports : ImportMap) (unit : String) : SortedSet String :=
  (imports.get? unit).getD SortedMap.empty

/-- The imports of a file that pass a filter, in the order of their declarations. -/
def kept (filter : SymbolFilter) (file : SourceUnit) : List String :=
  file.imports.filter filter.keeps

/-- The map with the imports of a file that pass a filter. -/
def add (imports : ImportMap) (filter : SymbolFilter) (file : SourceUnit) : ImportMap :=
  match kept filter file with
  | [] => imports
  | symbols => imports.insert file.name ((imports.symbols file.name).addAll symbols)

/-- The unit that adding a file writes to, if the file has an import that passes the filter. -/
def written? (filter : SymbolFilter) (file : SourceUnit) : Option String :=
  match kept filter file with
  | [] => none
  | _ :: _ => some file.name

/-- Whether adding a file gives more imports to a unit that has some. -/
def merges (imports : ImportMap) (filter : SymbolFilter) (file : SourceUnit) : Bool :=
  !(kept filter file).isEmpty && imports.contains file.name

end ImportMap

end JavaImports
