-- SUMMARY: Java among the languages of source files.
import JavaImports.Java.Source
import JavaImports.Language

/-! # The Java language -/

namespace JavaImports

/-- The language of the source files that a parser reads, in files with the extension `java`. -/
def Java.Parser.language (parser : Java.Parser) : Language where
  name := "Java"
  extensions := ["java"]
  declarations := parser.declarations

/-- The parser that always gives a tree. -/
def Java.parser : Java.Parser := fun source =>
  .ok (Java.parse source)

/-- Java, in files with the extension `java`. -/
def Language.java : Language :=
  Java.parser.language

/-- The languages that are known from the start. -/
def Languages.known : Languages :=
  [Language.java]

end JavaImports
