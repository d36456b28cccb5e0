import RuleVocabulary.Header.Statement

/-!
# What a header reader expected

When a header cannot be read, the message names what would have been accepted at the furthest
place that any attempt reached, also an attempt given up in favour of another form. An attempt is
an item together with the text at which it was missing; the less text is left, the further the
attempt went. Reading stops only in front of a block comment that is never closed, and there every
form that could start a statement is missing, so there is always something to report.
-/

set_option autoImplicit false

namespace RuleVocabulary.Header

/-- What may be missing in a header, in the order in which a message lists it. -/
inductive Item where
  | endOfText
  | identifier
  | qualifiedName
  | typeName
  | stringLiteral
  | packageKeyword
  | importKeyword
  | functionKeyword
  | globalKeyword
  | templateKeyword
  | directiveKeyword
  | emptyStatement
  | templateEnd
  | unknownStatement
deriving DecidableEq, Repr

namespace Item

/-- How an item is named in a message. -/
def label : Item → String
  | endOfText => "EOI"
  | identifier => "identifier"
  | qualifiedName => "qualified_name"
  | typeName => "type_name"
  | stringLiteral => "string_literal"
  | packageKeyword => "kw_package"
  | importKeyword => "kw_import"
  | functionKeyword => "kw_function"
  | globalKeyword => "kw_global"
  | templateKeyword => "kw_template"
  | directiveKeyword => "kw_directive"
  | emptyStatement => "empty_statement"
  | templateEnd => "template_end"
  | unknownStatement => "unknown_statement"

/-- All items, in the order in which a message lists them. -/
def all : List Item :=
  [endOfText, identifier, qualifiedName, typeName, stringLiteral, packageKeyword, importKeyword,
    functionKeyword, globalKeyword, templateKeyword, directiveKeyword, emptyStatement, templateEnd,
    unknownStatement]

/-- What is missing where a statement should start. -/
def startsStatement : List Item :=
  [endOfText, packageKeyword, importKeyword, globalKeyword, templateKeyword, directiveKeyword,
    emptyStatement, unknownStatement]

end Item

/-- An item that was missing, and how much text was left there. -/
structure Attempt where
  item : Item
  left : Nat
deriving DecidableEq, Repr

/-- The attempts for several items at one place. -/
def attemptsAt (items : List Item) (text : List Char) : List Attempt :=
  items.map (⟨·, text.length⟩)

/-! ## The attempts of one statement -/

/-- What a dotted name or another final piece leaves behind: nothing once it has been read. -/
def missingUnless (items : List Item) (text : List Char)
    (read : List Char → Option (List Char × List Char)) : List Attempt :=
  if (read text).isSome then [] else attemptsAt items text

/-- The attempts at a type name and a word. -/
def typedNameAttempts (text : List Char) : List Attempt :=
  match typeName? text with
  | none => attemptsAt [.typeName] text
  | some (_, behind) => missingUnless [.identifier] (skipGap behind) word?

/-- The attempts at the fields of a template and at its end. -/
def bodyAttempts (text : List Char) : List Attempt :=
  match found : readField (skipGap text) with
  | some (_, rest) =>
    have : rest.length < text.length :=
      Nat.lt_of_lt_of_le (length_readField_lt found) (length_skipGap_le text)
    bodyAttempts rest
  | none =>
    let rest := skipGap text
    attemptsAt [.templateEnd] rest ++
      if startsReserved rest then [] else typedNameAttempts rest
termination_by text.length

/-- The attempts inside a statement whose keyword has been read. -/
def keywordAttempts (keyword : Keyword) (behind : List Char) : List Attempt :=
  let text := skipGap behind
  match keyword with
  | .packageWord => missingUnless [.qualifiedName] text qualifiedName?
  | .importWord =>
    (match keyword? .functionWord text with
      | none => attemptsAt [.functionKeyword] text
      | some further => missingUnless [.qualifiedName] (skipGap further) qualifiedName?) ++
      missingUnless [.qualifiedName] text qualifiedName?
  | .globalWord => typedNameAttempts text
  | .templateWord =>
    match templateName? text with
    | none => attemptsAt [.identifier, .stringLiteral] text
    | some (_, further) => bodyAttempts further
  | .expanderWord | .dialectWord =>
    missingUnless [.qualifiedName, .stringLiteral] text
      fun rest => (quoted? rest).or (qualifiedName? rest)
  | .functionWord | .endWord => []

/-- The keywords that start a statement. -/
def statementKeywords : List Keyword :=
  [.packageWord, .importWord, .globalWord, .templateWord, .expanderWord, .dialectWord]

/-- The attempts of the statement at the front of a text. -/
def statementAttempts (text : List Char) : List Attempt :=
  attemptsAt Item.startsStatement text ++ statementKeywords.flatMap fun keyword =>
    match keyword? keyword text with
    | some behind => keywordAttempts keyword behind
    | none => []

/-! ## The message -/

/-- The items of the attempts that went furthest, in the order of a message. -/
def furthestItems (attempts : List Attempt) (left : Nat) : List Item :=
  Item.all.filter fun item => attempts.contains ⟨item, left⟩

/-- Several names as an alternative: `A`, `A or B`, `A, B, or C`. -/
def alternatives : List String → String
  | [] => ""
  | [only] => only
  | [first, second] => first ++ " or " ++ second
  | names => ", ".intercalate names.dropLast ++ ", or " ++ names.getLastD ""

/-- A header that cannot be read: what was expected, and the text that was left there. -/
structure Expectation where
  message : String
  rest : List Char
deriving DecidableEq, Repr

/-- What was expected in a header whose statements were read up to `stuck`. Where not even a first
character was passed, a header as a whole was. -/
def expectation (text : List Char) (statements : List Located) (stuck : List Char) : Expectation :=
  let attempts := (statements.map Located.start ++ [stuck]).flatMap statementAttempts
  let left := attempts.foldl (fun least attempt => min least attempt.left) stuck.length
  let expected :=
    if left = text.length then "header"
    else alternatives ((furthestItems attempts left).map Item.label)
  ⟨"expected " ++ expected, text.drop (text.length - left)⟩

end RuleVocabulary.Header
