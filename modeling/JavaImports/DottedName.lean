-- SUMMARY: Names made of segments that dots separate, and their short form.

/-! # Dotted names

The short form of a name is its last two segments, the dot between them included. -/

namespace JavaImports.DottedName

/-- The longest final part of a name that holds at most one dot. -/
def shortenChars : List Char → List Char
  | [] => []
  | c :: rest => if (c :: rest).count '.' ≤ 1 then c :: rest else shortenChars rest

/-- The last two segments of a name; a name of fewer segments is its own short form. -/
def shorten (name : String) : String :=
  String.ofList (shortenChars name.toList)

end JavaImports.DottedName
