-- SUMMARY: What a scan tells besides its result.

/-! # Warnings -/

namespace JavaImports

/-- Something a scan did that its result does not show. -/
inductive Warning where
  /-- A file is left out for its size. -/
  | overLimit (path : String) (size limit : Nat)
  /-- A unit that another file has declared gets more imports. -/
  | mergedUnit (unit : String)
deriving DecidableEq, Repr

/-- The text of a warning, with the part of the program it comes from. -/
def Warning.message : Warning → String
  | overLimit path size limit =>
    "importgraph::visitor: skipping file over max_file_size; its unit is left out of the graph" ++
      " path=" ++ path ++ " size=" ++ toString size ++ " limit=" ++ toString limit
  | mergedUnit unit =>
    "importgraph::builder: unit declared by more than one file; merging imports unit=" ++ unit

end JavaImports
