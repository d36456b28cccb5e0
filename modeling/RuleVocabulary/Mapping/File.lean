import RuleVocabulary.Mapping.Section

/-!
# Mapping files

A mapping file pairs sentences with what they stand for, one entry a line:
`[section][metadata]key=value`, where the second block may be missing. An equals sign behind a
backslash belongs to the key as long as another one can end it. Blank lines and lines that start
with `#` or `//` say nothing. Lines that cannot be read are reported with their numbers, and the
other lines keep their meaning: each line is read for itself (`Line.read`).
-/

set_option autoImplicit false

namespace RuleVocabulary.Mapping

/-- A sentence and what it stands for. -/
structure Entry where
  kind : Section
  metadata : String
  /-- The sentence as authors see it. -/
  key : String
  value : String
deriving DecidableEq, Repr

/-! ## The form of an entry -/

/-- The text inside the brackets at the front, and what follows them. -/
def block? : List Char → Option (List Char × List Char)
  | '[' :: text =>
    match text.dropWhile (· ≠ ']') with
    | _ :: rest => some (text.takeWhile (· ≠ ']'), rest)
    | [] => none
  | _ => none

/-- Cuts a text at an equals sign: at the first without a backslash before it, and if there is
none, at the last. -/
def cutAtEquals : List Char → Option (List Char × List Char)
  | [] => none
  | '\\' :: '=' :: rest =>
    match cutAtEquals rest with
    | some (key, value) => some ('\\' :: '=' :: key, value)
    | none => some (['\\'], rest)
  | c :: rest =>
    if c = '=' then some ([], rest)
    else
      match cutAtEquals rest with
      | some (key, value) => some (c :: key, value)
      | none => none

/-- A key without the backslashes in front of its equals signs. -/
def unescape : List Char → List Char
  | '\\' :: '=' :: rest => '=' :: unescape rest
  | c :: rest => c :: unescape rest
  | [] => []

/-- The parts of an entry as they stand on its line. -/
structure Parts where
  tag : List Char
  metadata : List Char
  key : List Char
  value : List Char
deriving DecidableEq, Repr

/-- The parts behind the tag of an entry. Brackets belong to the key if what follows them could
not be cut. -/
def partsBehind? (tag text : List Char) : Option Parts :=
  let withMetadata := (block? text).bind fun (metadata, rest) =>
    (cutAtEquals rest).map fun (key, value) => ⟨tag, metadata, key, value⟩
  withMetadata.or ((cutAtEquals text).map fun (key, value) => ⟨tag, [], key, value⟩)

/-- The parts of an entry. -/
def parts? (text : List Char) : Option Parts :=
  (block? text).bind fun (tag, rest) => partsBehind? tag rest

/-! ## Lines -/

/-- Why a line cannot be read. -/
inductive Cause where
  /-- The line does not have the form of an entry. -/
  | unrecognized (line : String)
  /-- The tag of the line names no section. -/
  | unknownSection (tag : String)
deriving DecidableEq, Repr

/-- What a line says. -/
inductive Line where
  | silent
  | entry (entry : Entry)
  | broken (cause : Cause)
deriving DecidableEq, Repr

/-- Whether a trimmed line is a comment. -/
def isComment : List Char → Bool
  | '#' :: _ => true
  | '/' :: '/' :: _ => true
  | _ => false

/-- A text without blanks around it. -/
def trimmed (text : List Char) : String :=
  String.ofList (Text.trim text)

/-- Reads a line. -/
def Line.read (line : List Char) : Line :=
  let text := Text.trim line
  if text.isEmpty || isComment text then .silent
  else
    match parts? text with
    | none => .broken (.unrecognized (String.ofList text))
    | some parts =>
      match Section.ofTag? (String.ofList parts.tag) with
      | none => .broken (.unknownSection (String.ofList parts.tag))
      | some kind =>
        .entry ⟨kind, trimmed parts.metadata, trimmed (unescape parts.key), trimmed parts.value⟩

/-- The lines of a text: it is cut at every line feed. -/
def cutLines : List Char → List (List Char)
  | [] => [[]]
  | c :: rest =>
    if c = '\n' then [] :: cutLines rest
    else
      match cutLines rest with
      | line :: lines => (c :: line) :: lines
      | [] => [[c]]

/-- A line that cannot be read, by its number. -/
structure Problem where
  line : Nat
  cause : Cause
deriving DecidableEq, Repr

/-- The text for a line that cannot be read. -/
def Problem.message (problem : Problem) : String :=
  "line " ++ toString problem.line ++ ": " ++
    match problem.cause with
    | .unrecognized line => "unrecognized DSL mapping entry '" ++ line ++ "'"
    | .unknownSection tag => "unknown DSL section '" ++ tag ++ "'"

/-- The entries of a mapping file, and the lines that could not be read. -/
structure File where
  entries : List Entry
  problems : List Problem
deriving DecidableEq, Repr

namespace File

/-- A file of the given entries. -/
def ofEntries (entries : List Entry) : File := ⟨entries, []⟩

/-- The entry of a line. -/
def entry? : Line → Option Entry
  | .entry entry => some entry
  | _ => none

/-- The problem with a line of the given number. -/
def problem? : Line × Nat → Option Problem
  | (.broken cause, number) => some ⟨number, cause⟩
  | _ => none

/-- The file that lines make up, the first of which has the given number. -/
def ofLines (first : Nat) (lines : List Line) : File :=
  ⟨lines.filterMap entry?, (lines.zipIdx first).filterMap problem?⟩

/-- Reads a mapping file. -/
def ofText (text : String) : File :=
  ofLines 1 ((cutLines text.toList).map Line.read)

/-- The sentences of the entries of a section, in order. -/
def sentences (file : File) (kind : Section) : List String :=
  (file.entries.filter (·.kind = kind)).map Entry.key

end File

end RuleVocabulary.Mapping
