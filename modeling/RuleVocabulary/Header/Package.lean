import RuleVocabulary.Fault
import RuleVocabulary.Text.Blank
import RuleVocabulary.Text.Place
import RuleVocabulary.Header.Expectation

/-!
# Packages

What a package header declares, put together from its statements: the name given last, and all
imports, function imports, globals and templates in order. Statements that cannot be understood
and templates without their `end` are reported with their places beside the package, and only a
header with a block comment that is never closed yields no package at all (`Package.ofText`).
-/

set_option autoImplicit false

namespace RuleVocabulary.Header

open Text (Place)

/-- A global variable and its type as written. -/
structure Global where
  identifier : String
  typeName : String
deriving DecidableEq, Repr

/-- What a package header declares. -/
structure Package where
  name : Option String
  imports : List String
  functionImports : List String
  globals : List Global
  templates : List Template
deriving DecidableEq, Repr

/-- A part of a header that could not be understood, and where it begins. -/
structure Problem where
  message : String
  place : Place
deriving DecidableEq, Repr

/-- A package together with the problems met while reading it. -/
structure Reading where
  package : Package
  problems : List Problem
deriving DecidableEq, Repr

namespace Statement

/-- The package name that a statement sets. -/
def packageName? : Statement → Option String
  | package name => some name
  | _ => none

/-- The target that a statement imports. -/
def typeImport? : Statement → Option String
  | typeImport target => some target
  | _ => none

/-- The function that a statement imports. -/
def functionImport? : Statement → Option String
  | functionImport target => some target
  | _ => none

/-- The global that a statement declares. -/
def global? : Statement → Option Global
  | global typeName identifier => some ⟨identifier, typeName⟩
  | _ => none

/-- The template that a statement declares. -/
def template? : Statement → Option Template
  | template declared _ => some declared
  | _ => none

/-- What is wrong with a statement. -/
def complaint? : Statement → Option String
  | unrecognized text =>
    some ("unrecognized statement in package header: '" ++ Text.trimmed text ++ "'")
  | template declared false =>
    some ("template '" ++ declared.name ++ "' is missing its 'end' keyword")
  | _ => none

end Statement

/-- The package that a sequence of statements declares. -/
def Package.ofStatements (statements : List Statement) : Package where
  name := (statements.filterMap Statement.packageName?).getLast?
  imports := statements.filterMap Statement.typeImport?
  functionImports := statements.filterMap Statement.functionImport?
  globals := statements.filterMap Statement.global?
  templates := statements.filterMap Statement.template?

/-- The problem with a statement of the given header, if there is one. -/
def Located.problem? (text : List Char) (located : Located) : Option Problem :=
  located.statement.complaint?.map fun complaint =>
    let place := Place.ofRest text located.start
    ⟨"line " ++ toString place.line ++ ":" ++ toString place.column ++ " " ++ complaint, place⟩

/-- Reads a header given as a list of characters. -/
def Reading.ofChars (text : List Char) : Except Fault Reading :=
  let read := outline text
  if read.2.isEmpty then
    .ok ⟨Package.ofStatements (read.1.map Located.statement), read.1.filterMap (·.problem? text)⟩
  else
    let expected := expectation text read.1 read.2
    let place := Place.ofRest text expected.rest
    .error (.parse expected.message (some place.line) (some place.column))

/-- Reads a package header. -/
def Reading.ofText (text : String) : Except Fault Reading :=
  Reading.ofChars text.toList

end RuleVocabulary.Header
