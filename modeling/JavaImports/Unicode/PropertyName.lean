-- SUMMARY: Sets of characters by the names of categories, scripts and properties.
import JavaImports.Unicode.GeneralCategory
import JavaImports.Unicode.Property
import JavaImports.Unicode.Script

/-! # Looking up sets of characters

Names are compared loosely: case, blanks, dashes, bars and a leading `is` do not matter. A name by
itself is looked for among the properties, then the general categories, then the scripts. A name
may also be given as the value of the property it belongs to. -/

namespace JavaImports.Unicode

/-- Whether a character of a name matters. -/
def mattersInName (c : Char) : Bool :=
  c != ' ' && c != '_' && c != '-' && c.toNat < 0x80

/-- A name reduced to what matters for comparison. The name `isc` keeps its beginning. -/
def looseName (name : String) : String :=
  let lowered := name.toList.map Char.toLower
  match lowered with
  | 'i' :: 's' :: rest =>
    let kept := rest.filter mattersInName
    if kept = ['c'] then "isc" else String.ofList kept
  | _ => String.ofList (lowered.filter mattersInName)

/-- Whether one of some names is a given one, loosely compared. -/
def isNamed (names : List String) (loose : String) : Bool :=
  names.any fun name => looseName name = loose

/-- Groups of general categories, with the names they go by. -/
def categoryGroups : List (List String × List GeneralCategory) :=
  let cased : List GeneralCategory := [.uppercaseLetter, .lowercaseLetter, .titlecaseLetter]
  [ (["LC", "Cased_Letter"], cased),
    (["L", "Letter"], cased ++ [.modifierLetter, .otherLetter]),
    (["M", "Mark", "Combining_Mark"], [.nonspacingMark, .spacingMark, .enclosingMark]),
    (["N", "Number"], [.decimalNumber, .letterNumber, .otherNumber]),
    (["P", "Punctuation", "punct"],
      [ .connectorPunctuation, .dashPunctuation, .openPunctuation, .closePunctuation,
        .initialPunctuation, .finalPunctuation, .otherPunctuation ]),
    (["S", "Symbol"], [.mathSymbol, .currencySymbol, .modifierSymbol, .otherSymbol]),
    (["Z", "Separator"], [.spaceSeparator, .lineSeparator, .paragraphSeparator]) ]

/-- The ranges of several categories. -/
def rangesOf (categories : List GeneralCategory) : Ranges :=
  categories.flatMap GeneralCategory.ranges

/-- A set of characters, or the characters outside of one. -/
structure NamedSet where
  ranges : Ranges
  outside : Bool

/-- The set of a general category or of a group of them. -/
def categoryNamed? (loose : String) : Option NamedSet :=
  if loose = "any" then some ⟨[⟨0, 0x10FFFF⟩], false⟩
  else if loose = "ascii" then some ⟨[⟨0, 0x7F⟩], false⟩
  else if loose = "assigned" then some ⟨rangesOf GeneralCategory.all, false⟩
  else if isNamed ["Cn", "Unassigned"] loose then some ⟨rangesOf GeneralCategory.all, true⟩
  else if isNamed ["C", "Other"] loose then
    some ⟨rangesOf (GeneralCategory.all.filter fun category =>
      category != .control && category != .format && category != .privateUse), true⟩
  else
    match GeneralCategory.all.find? fun category => isNamed category.names loose with
    | some category => some ⟨category.ranges, false⟩
    | none =>
      (categoryGroups.find? fun group => isNamed group.1 loose).map fun group =>
        ⟨rangesOf group.2, false⟩

/-- The set of the first entry of a table with a given name. -/
def tableEntry? (table : List NamedRanges) (loose : String) : Option NamedSet :=
  (table.find? fun entry => isNamed entry.names loose).map fun entry =>
    ⟨Ranges.ofText entry.text, false⟩

/-- The set that a name by itself stands for. The short names `cf`, `sc` and `lc` are those of
    categories, although properties have them too. -/
def setNamed? (name : String) : Option NamedSet :=
  let loose := looseName name
  let property? := if ["cf", "sc", "lc"].contains loose then none else tableEntry? properties loose
  (property?.orElse fun _ => categoryNamed? loose).orElse fun _ => tableEntry? scripts loose

/-- The set of the characters for which a property has a given value. -/
def setWithValue? (property value : String) : Option NamedSet :=
  let loose := looseName property
  if isNamed ["gc", "General_Category"] loose then categoryNamed? (looseName value)
  else if isNamed ["sc", "Script"] loose then tableEntry? scripts (looseName value)
  else none

/-! ## Words -/

/-- The characters that words are made of. -/
def wordRanges : Ranges :=
  alphabetic ++ rangesOf [.nonspacingMark, .spacingMark, .enclosingMark, .decimalNumber,
    .connectorPunctuation] ++ joinControl

/-- The decimal digits of all scripts. -/
def digitRanges : Ranges := GeneralCategory.decimalNumber.ranges

/-- The word characters of ASCII. -/
def asciiWordRanges : Ranges :=
  [⟨0x30, 0x39⟩, ⟨0x41, 0x5A⟩, ⟨0x5F, 0x5F⟩, ⟨0x61, 0x7A⟩]

/-- Whether words are made of a character. -/
def isWordChar (c : Char) : Bool :=
  if c.toNat < 0x80 then asciiWordRanges.contains c else wordRanges.contains c

/-- Whether a character counts as a letter. -/
def isLetter (c : Char) : Bool :=
  if c.toNat < 0x80 then c.isAlpha else alphabetic.contains c

/-- The characters that stand for numbers. -/
def numberRanges : Ranges :=
  rangesOf [.decimalNumber, .letterNumber, .otherNumber]

/-- Whether a character counts as a letter or stands for a number. -/
def isLetterOrNumber (c : Char) : Bool :=
  isLetter c || if c.toNat < 0x80 then c.isDigit else numberRanges.contains c

end JavaImports.Unicode
