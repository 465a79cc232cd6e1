-- SUMMARY: Filters that keep the symbols a pattern matches from beginning to end.
import JavaImports.Pattern.Matching
import JavaImports.Pattern.Reader

/-! # Symbol filters

A filter is given by the text of a pattern. The text is put into a group between the anchors for the
start and the end, and what comes out is read as one pattern. -/

namespace JavaImports

/-- A filter for symbols. -/
structure SymbolFilter where
  /-- The text the filter was made from. -/
  text : String
  pattern : Pattern

namespace SymbolFilter

/-- The text of a pattern, put between anchors. -/
def anchored (text : String) : String :=
  "^(?:" ++ text ++ ")$"

/-- The filter that a text describes. -/
def ofText (text : String) : Except PatternError SymbolFilter := do
  return ⟨text, ← Pattern.ofWritten (anchored text)⟩

/-- Whether a filter keeps a symbol. -/
def keeps (filter : SymbolFilter) (symbol : String) : Bool :=
  filter.pattern.isFoundIn symbol

end SymbolFilter

end JavaImports
