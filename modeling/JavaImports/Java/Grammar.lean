-- SUMMARY: The grammar of Java source text, as data.
import JavaImports.Java.Lexeme

/-! # The grammar

The grammar gives every category of source text a phrase, made of terminals and categories. It is
looser than the language: it says nothing of types, of which modifiers go together, or of what may
stand where by meaning, and it lets statements and methods stand at the top of a file. No phrase
matches the empty text. -/

namespace JavaImports.Java

/-- The smallest pieces of source text. -/
inductive Terminal where
  /-- A word that is reserved wherever the grammar can go on with it, and a plain identifier
      anywhere else. -/
  | word (text : String)
  | sign (text : String)
  /-- The sign that closes a list of type arguments, also in front of further such signs. -/
  | closeAngle
  | identifier
  | number
  | character
  | openString
  | openBlock
  /-- A piece of the text between the quotes of a string. -/
  | stringPiece
  /-- A piece of the text between the quotes of a text block. -/
  | blockPiece
  | openEmbedded
  | closeString
  | closeBlock
deriving DecidableEq, Repr

/-- Whether a terminal follows what is before it without a gap. -/
def Terminal.isInside : Terminal → Bool
  | .stringPiece | .blockPiece | .openEmbedded | .closeString | .closeBlock => true
  | _ => false

/-- The lexemes of a terminal other than a word. -/
def Terminal.scan : Terminal → Scan
  | .word _ => fun _ => none
  | .identifier => fun text => (splitWord? text).map fun (found, _) => found.length
  | .sign text => Scan.exactly text
  | .closeAngle => Scan.exactly ">"
  | .number => numberLiteral
  | .character => characterLiteral
  | .openString | .closeString => Scan.exactly "\""
  | .openBlock | .closeBlock => Scan.exactly "\"\"\""
  | .stringPiece => Scan.longest [plainRun, escape]
  | .blockPiece => Scan.longest [plainRun, escape, loneQuote]
  | .openEmbedded => Scan.exactly "\\\x7b"

/-- The categories of source text. -/
inductive Category where
  | statement | topLevel | block | declaration | localVariables | expressionStatement
  | throwStatement
  | switchExpression | switchLabel | pattern | recordPattern | catchClause | finallyClause
  | resource | annotationUse | annotations | elementValue | modifiers | qualifier
  | packageDeclaration | importDeclaration | moduleDeclaration | moduleDirective
  | classDeclaration | interfaceDeclaration | enumDeclaration | recordDeclaration
  | annotationDeclaration | classBody | classMember | interfaceMember | annotationMember
  | enumConstant | fieldDeclaration | methodDeclaration | constructorDeclaration
  | constructorCall | formalParameters | formalParameter | receiver
  | typeParameters | typeParameter | typeList | throwsClause
  | declarator | declaratorName | initializer | arrayInitializer
  | type | plainType | simpleType | namedType | typeArguments | typeArgument | dimensions
  | expression | operand | assigned | primary | primaryBase | primarySuffix | fieldSuffix
  | indexSuffix | superAccess | creation | arrayCreation | arguments | lambda | string
deriving DecidableEq, Repr

/-- What a category consists of. -/
inductive Phrase where
  | terminal (t : Terminal)
  | category (c : Category)
  | sequence (phrases : List Phrase)
  | choice (phrases : List Phrase)
  | optional (phrase : Phrase)
  /-- Any number of times, also not at all. -/
  | many (phrase : Phrase)

namespace Phrase

/-- A terminal stands for the phrase of it alone. -/
instance : Coe Terminal Phrase := ⟨terminal⟩

/-- A category stands for the phrase of it alone. -/
instance : Coe Category Phrase := ⟨category⟩

/-- A reserved word. -/
def word (text : String) : Phrase := terminal (.word text)

/-- A sign. -/
def sign (text : String) : Phrase := terminal (.sign text)

/-- One of several signs. -/
def anySign (texts : List String) : Phrase := choice (texts.map sign)

/-- One of several reserved words. -/
def anyWord (texts : List String) : Phrase := choice (texts.map word)

/-- At least once, with a sign between one time and the next. -/
def separated (mark : String) (phrase : Phrase) : Phrase :=
  sequence [phrase, many (sequence [sign mark, phrase])]

/-- At least once, with commas in between. -/
def commaList (phrase : Phrase) : Phrase := separated "," phrase

/-- Any number of times, with commas in between. -/
def commas (phrase : Phrase) : Phrase := optional (commaList phrase)

/-- At least once. -/
def some (phrase : Phrase) : Phrase := sequence [phrase, many phrase]

/-- Between braces. -/
def braced (phrases : List Phrase) : Phrase :=
  sequence ([sign "\x7b"] ++ phrases ++ [sign "\x7d"])

/-- Between parentheses. -/
def parenthesized (phrases : List Phrase) : Phrase :=
  sequence ([sign "("] ++ phrases ++ [sign ")"])

end Phrase

open Phrase Category

/-- A name of the program's own. Some words are reserved in a few places only and name things
    everywhere else. -/
def ownName : Phrase :=
  choice [Terminal.identifier, anyWord ["open", "module", "record", "with", "sealed", "yield"]]

/-- A name with any number of names after it, dots in between. -/
def name : Phrase :=
  sequence [ownName, many qualifier]

/-- A plain identifier. -/
def identifier : Phrase := Terminal.identifier

/-- The signs between two operands. -/
def infixSigns : List String :=
  [">", "<", ">=", "<=", "==", "!=", "&&", "||", "+", "-", "*", "/", "&", "|", "^", "%", "<<", ">>",
    ">>>"]

/-- The signs that assign. -/
def assignSigns : List String :=
  ["=", "+=", "-=", "*=", "/=", "&=", "|=", "^=", "%=", "<<=", ">>=", ">>>="]

/-- The words that modify a declaration. -/
def modifierWords : List String :=
  ["public", "protected", "private", "abstract", "static", "final", "strictfp", "default",
    "synchronized", "native", "transient", "volatile", "sealed"]

/-- The words for types without a name. -/
def primitiveWords : List String :=
  ["byte", "short", "int", "long", "char", "float", "double", "boolean", "void"]

/-- The phrase of a category. -/
def grammar : Category → Phrase
  | .topLevel => choice [statement, methodDeclaration]
  | .statement => choice
      [ declaration, expressionStatement, localVariables, throwStatement, block, switchExpression,
        sign ";",
        sequence [identifier, sign ":", statement],
        sequence [word "if", parenthesized [expression], statement,
          optional (sequence [word "else", statement])],
        sequence [word "while", parenthesized [expression], statement],
        sequence [word "for", parenthesized
          [ choice [localVariables, sequence [commas expression, sign ";"]],
            optional expression, sign ";", commas expression ], statement],
        sequence [word "for", parenthesized
          [optional modifiers, plainType, declaratorName, sign ":", expression], statement],
        sequence [word "assert", expression, optional (sequence [sign ":", expression]), sign ";"],
        sequence [word "do", statement, word "while", parenthesized [expression], sign ";"],
        sequence [anyWord ["break", "continue"], optional identifier, sign ";"],
        sequence [word "return", optional expression, sign ";"],
        sequence [word "yield", expression, sign ";"],
        sequence [word "synchronized", parenthesized [expression], block],
        sequence [word "try", block, choice
          [some catchClause, sequence [many catchClause, finallyClause]]],
        sequence [word "try",
          parenthesized [separated ";" resource, optional (sign ";")],
          block, many catchClause, optional finallyClause] ]
  | .block => braced [many statement]
  | .declaration => choice
      [ moduleDeclaration, packageDeclaration, importDeclaration, classDeclaration,
        recordDeclaration, interfaceDeclaration, annotationDeclaration, enumDeclaration ]
  | .localVariables => sequence
      [optional modifiers, plainType, commaList declarator, sign ";"]
  | .expressionStatement => sequence [expression, sign ";"]
  | .throwStatement => sequence [word "throw", expression, sign ";"]
  | .switchExpression => sequence
      [ word "switch", parenthesized [expression], braced
        [ choice
          [ many (sequence [switchLabel, sign ":", many statement]),
            many (sequence
              [switchLabel, sign "->", choice [expressionStatement, throwStatement, block]]) ] ] ]
  | .switchLabel => choice
      [ sequence [word "case", choice [pattern, commaList expression],
          optional (sequence [word "when", expression])],
        word "default" ]
  | .pattern => choice [sequence [plainType, ownName], recordPattern]
  | .recordPattern => sequence
      [ choice [ownName, sequence [namedType, typeArguments]],
        parenthesized [commas (choice
          [word "_", sequence [plainType, ownName], recordPattern])] ]
  | .catchClause => sequence
      [ word "catch",
        parenthesized [optional modifiers, separated "|" plainType, declaratorName], block ]
  | .finallyClause => sequence [word "finally", block]
  | .resource => choice
      [ sequence [optional modifiers, plainType, declaratorName, sign "=", expression],
        identifier,
        sequence [choice [primary, word "super"], fieldSuffix] ]
  | .annotationUse => sequence
      [ sign "@", name, optional (parenthesized
        [choice [elementValue, commas (sequence [ownName, sign "=", elementValue])]]) ]
  | .annotations => some annotationUse
  | .elementValue => choice
      [ expression, annotationUse,
        braced [commas elementValue, optional (sign ",")] ]
  | .modifiers => some (choice [annotationUse, anyWord modifierWords, sign "non-sealed"])
  | .qualifier => sequence [sign ".", ownName]
  | .packageDeclaration => sequence [many annotationUse, word "package", name, sign ";"]
  | .importDeclaration => sequence
      [ word "import", optional (word "static"), name, optional (sequence [sign ".", sign "*"]),
        sign ";" ]
  | .moduleDeclaration => sequence
      [ many annotationUse, optional (word "open"), word "module", name,
        braced [many moduleDirective] ]
  | .moduleDirective => sequence
      [ choice
        [ sequence [word "requires", many (anyWord ["transitive", "static"]), name],
          sequence [anyWord ["exports", "opens"], name,
            optional (sequence [word "to", commaList name])],
          sequence [word "uses", name],
          sequence [word "provides", name, word "with", commaList name] ],
        sign ";" ]
  | .classDeclaration => sequence
      [ optional modifiers, word "class", identifier, optional typeParameters,
        optional (sequence [word "extends", type]),
        optional (sequence [word "implements", typeList]),
        optional (sequence [word "permits", typeList]),
        classBody ]
  | .interfaceDeclaration => sequence
      [ optional modifiers, word "interface", identifier, optional typeParameters,
        optional (sequence [word "extends", typeList]),
        optional (sequence [word "permits", typeList]),
        braced [many interfaceMember] ]
  | .enumDeclaration => sequence
      [ optional modifiers, word "enum", identifier,
        optional (sequence [word "implements", typeList]),
        braced
        [ commas enumConstant, optional (sign ","),
          optional (sequence [sign ";", many classMember]) ] ]
  | .recordDeclaration => sequence
      [ optional modifiers, word "record", identifier, optional typeParameters, formalParameters,
        optional (sequence [word "implements", typeList]),
        classBody ]
  | .annotationDeclaration => sequence
      [optional modifiers, sign "@interface", identifier, braced [many annotationMember]]
  | .classBody => braced [many classMember]
  | .classMember => choice
      [ fieldDeclaration, recordDeclaration, methodDeclaration, classDeclaration,
        interfaceDeclaration, annotationDeclaration, enumDeclaration, constructorDeclaration, block,
        sequence [word "static", block],
        sequence [optional modifiers, identifier, block],
        sign ";" ]
  | .interfaceMember => choice
      [ fieldDeclaration, enumDeclaration, methodDeclaration, classDeclaration,
        interfaceDeclaration, recordDeclaration, annotationDeclaration, sign ";" ]
  | .annotationMember => choice
      [ sequence [optional modifiers, plainType, ownName, sign "(", sign ")", optional dimensions,
          optional (sequence [word "default", elementValue]), sign ";"],
        fieldDeclaration, classDeclaration, interfaceDeclaration, enumDeclaration,
        annotationDeclaration, sign ";" ]
  | .enumConstant => sequence
      [optional modifiers, identifier, optional arguments, optional classBody]
  | .fieldDeclaration => sequence
      [optional modifiers, plainType, commaList declarator, sign ";"]
  | .methodDeclaration => sequence
      [ optional modifiers, optional (sequence [typeParameters, many annotationUse]), plainType,
        ownName, formalParameters, optional dimensions, optional throwsClause,
        choice [block, sign ";"] ]
  | .constructorDeclaration => sequence
      [ optional modifiers, optional typeParameters, identifier, formalParameters,
        optional throwsClause, braced [optional constructorCall, many statement] ]
  | .constructorCall => sequence
      [ choice
        [ sequence [optional typeArguments, anyWord ["this", "super"]],
          sequence [primary, sign ".", optional typeArguments, word "super"] ],
        arguments, sign ";" ]
  | .formalParameters => parenthesized
      [ optional (choice
        [ sequence [receiver, optional (sign ",")],
          sequence [optional (sequence [receiver, sign ","]), commaList formalParameter] ]) ]
  | .formalParameter => sequence
      [ optional modifiers, plainType,
        choice [declaratorName, sequence [sign "...", many annotationUse, declarator]] ]
  | .receiver => sequence
      [many annotationUse, plainType, many (sequence [identifier, sign "."]), word "this"]
  | .typeParameters => sequence [sign "<", commaList typeParameter, Terminal.closeAngle]
  | .typeParameter => sequence
      [ many annotationUse, identifier,
        optional (sequence [word "extends", separated "&" type]) ]
  | .typeList => commaList type
  | .throwsClause => sequence [word "throws", commaList type]
  | .declarator => sequence [declaratorName, optional (sequence [sign "=", initializer])]
  | .declaratorName => sequence [choice [ownName, word "_"], optional dimensions]
  | .initializer => choice [expression, arrayInitializer]
  | .arrayInitializer => braced [commas initializer, optional (sign ",")]
  | .type => sequence [many annotationUse, plainType]
  | .plainType => sequence [simpleType, optional dimensions]
  | .simpleType => choice [anyWord primitiveWords, namedType]
  | .namedType => sequence
      [ identifier, optional typeArguments,
        many (sequence [sign ".", many annotationUse, identifier, optional typeArguments]) ]
  | .typeArguments => sequence [sign "<", commas typeArgument, Terminal.closeAngle]
  | .typeArgument => choice
      [ type,
        sequence [many annotationUse, sign "?",
          optional (sequence [anyWord ["extends", "super"], type])] ]
  | .dimensions => some (sequence [many annotationUse, sign "[", sign "]"])
  | .expression => sequence
      [ operand,
        many (choice
          [ sequence [anySign infixSigns, operand],
            sequence [sign "?", expression, sign ":", operand],
            sequence [word "instanceof", optional (word "final"),
              choice [sequence [type, optional ownName], recordPattern]],
            anySign ["++", "--"] ]) ]
  | .operand => sequence
      [ many (choice
          [ anySign ["+", "-", "!", "~", "++", "--"],
            parenthesized [separated "&" type] ]),
        choice [primary, assigned, lambda, switchExpression] ]
  | .assigned => sequence
      [ choice
        [ ownName,
          sequence [choice [primary, word "super"], fieldSuffix],
          sequence [primary, indexSuffix] ],
        anySign assignSigns, expression ]
  | .primary => sequence [choice [primaryBase, superAccess], many primarySuffix]
  | .primaryBase => choice
      [ Terminal.number, Terminal.character, string, anyWord ["true", "false", "null", "this"],
        ownName, parenthesized [expression],
        sequence [ownName, arguments],
        sequence [plainType, sign ".", word "class"],
        sequence [type, sign "::", optional typeArguments, choice [word "new", identifier]],
        creation, arrayCreation ]
  | .superAccess => sequence
      [ word "super",
        choice
        [ fieldSuffix,
          sequence [sign ".", optional (sequence [word "super", sign "."]),
            optional typeArguments, ownName, arguments],
          sequence [sign "::", optional typeArguments, choice [word "new", identifier]] ] ]
  | .primarySuffix => choice
      [ fieldSuffix, indexSuffix,
        sequence [sign ".", optional (sequence [word "super", sign "."]), optional typeArguments,
          ownName, arguments],
        sequence [sign ".", creation],
        sequence [sign ".", string],
        sequence [sign "::", optional typeArguments, choice [word "new", identifier]] ]
  | .fieldSuffix => sequence
      [ sign ".", optional (sequence [word "super", sign "."]), choice [ownName, word "this"] ]
  | .indexSuffix => sequence [sign "[", expression, sign "]"]
  | .creation => sequence
      [ word "new", many annotationUse, optional (sequence [typeArguments, many annotationUse]),
        simpleType, arguments, optional classBody ]
  | .arrayCreation => sequence
      [ word "new", many annotationUse, simpleType,
        choice
        [ sequence [some (sequence [many annotationUse, sign "[", expression, sign "]"]),
            optional dimensions],
          sequence [dimensions, arrayInitializer] ] ]
  | .arguments => parenthesized [commas expression]
  | .lambda => sequence
      [ choice
        [ownName, formalParameters, parenthesized [commaList ownName]],
        sign "->", choice [expression, block] ]
  | .string => choice
      [ sequence [Terminal.openString,
          many (choice [Terminal.stringPiece,
            sequence [Terminal.openEmbedded, expression, sign "\x7d"]]),
          Terminal.closeString],
        sequence [Terminal.openBlock,
          many (choice [Terminal.blockPiece,
            sequence [Terminal.openEmbedded, expression, sign "\x7d"]]),
          Terminal.closeBlock] ]

end JavaImports.Java
