import RuleVocabulary.Decimal.Reading
import RuleVocabulary.Text.Code
import RuleVocabulary.Yaml.Cursor

/-!
# Tags and directives in YAML

A tag tells what kind of node follows. It is a handle and a suffix, or stands in full between angle
brackets. A directive at the beginning of a document may give a handle a prefix; the handle `!!`
has the prefix of the core set without one.
-/

set_option autoImplicit false

namespace RuleVocabulary.Yaml

/-- A tag: a handle, or the prefix that it stands for, and a suffix. -/
structure Tag where
  handle : String
  suffix : String
deriving DecidableEq, Repr

/-- A directive at the beginning of a document. -/
inductive Directive where
  | version
  /-- A handle and the prefix that it stands for. One that is not known is read as if it gave the
  empty handle an empty prefix. -/
  | prefixOf (handle path : String)
deriving DecidableEq, Repr

/-- The prefix of the core set of tags. -/
def coreSet : String := "tag:yaml.org,2002:"

/-- The tag that a handle and a suffix mean, where some handles have been given prefixes. Handles
between exclamation marks must have been. -/
def Tag.resolve? (prefixes : List (String × String)) (tag : Tag) : Option Tag :=
  match prefixes.lookup tag.handle with
  | some path => some { tag with handle := path }
  | none =>
    if tag.handle = "!!" then some { tag with handle := coreSet }
    else if 2 ≤ tag.handle.length && tag.handle.toList.getLast? = some '!' then none
    else some tag

/-! ## Characters -/

/-- The characters of an address. -/
def isAddressChar (c : Char) : Bool :=
  c.isAlphanum || c = '-' || "#;/?:@&=+$,_.!~*'()[]%".contains c

/-- The characters of the suffix of a tag. -/
def isSuffixChar (c : Char) : Bool :=
  isAddressChar c && !isFlowMark c && c ≠ '!'

/-- How many bytes a character has whose first byte is given. -/
def byteCount? (first : Nat) : Option Nat :=
  if first < 0x80 then some 1
  else if first / 0x20 = 6 then some 2
  else if first / 0x10 = 14 then some 3
  else if first / 0x08 = 30 then some 4
  else none

/-- Reads a byte that is written as a percent sign and two hexadecimal digits. -/
def readByte (cursor : Cursor) : Option (Nat × Cursor) :=
  let digits := (cursor.rest.drop 1).take 2
  if cursor.char = '%' && digits.length = 2 && digits.all (Decimal.isDigitOf 16) then
    some (Decimal.value 16 digits, cursor.pass 3)
  else none

/-- Reads the bytes behind the first byte of a character. -/
def readFurtherBytes : (count code : Nat) → Cursor → Option (Nat × Cursor)
  | 0, code, cursor => some (code, cursor)
  | count + 1, code, cursor =>
    match readByte cursor with
    | some (byte, behind) =>
      if byte / 0x40 = 2 then readFurtherBytes count (code * 0x100 + byte) behind else none
    | none => none

/-- Reads a character that is written by its bytes. The bytes, joined, count as its code. -/
def readByBytes (cursor : Cursor) : Option (Char × Cursor) := do
  let (first, behind) ← readByte cursor
  let count ← byteCount? first
  let (code, behind) ← readFurtherBytes (count - 1) first behind
  if (Char.ofNat code).toNat = code then return (Char.ofNat code, behind) else none

/-- Reads characters of an address that satisfy a test. -/
def readAddress (test : Char → Bool) : (fuel : Nat) → Cursor → Option (List Char × Cursor)
  | 0, _ => none
  | fuel + 1, cursor =>
    if cursor.rest.isEmpty || !test cursor.char then some ([], cursor)
    else
      let read? :=
        if cursor.char = '%' then readByBytes cursor else some (cursor.char, cursor.pass 1)
      match read? with
      | some (c, behind) =>
        (readAddress test fuel behind).map fun read => (c :: read.1, read.2)
      | none => none

/-- Reads characters of an address that satisfy a test. -/
def readAddressOf (test : Char → Bool) (cursor : Cursor) : Option (List Char × Cursor) :=
  readAddress test (cursor.rest.length + 1) cursor

/-! ## Tags -/

/-- Reads the handle of a tag, or what looks like one. -/
def readHandle (cursor : Cursor) : Option (List Char × Cursor) :=
  if cursor.char ≠ '!' then none
  else
    let word := cursor.rest.tail.takeWhile isWordChar
    let behind := cursor.pass (word.length + 1)
    if behind.char = '!' then some ('!' :: word ++ ['!'], behind.pass 1)
    else some ('!' :: word, behind)

/-- Reads a tag in full from its exclamation mark on. -/
def readFullTag (cursor : Cursor) : Option (Tag × Cursor) := do
  let (address, behind) ← readAddressOf isAddressChar (cursor.pass 2)
  if behind.char = '>' then return (⟨"", String.ofList address⟩, behind.pass 1) else none

/-- Reads a tag that has a handle. What is no handle belongs to the suffix. -/
def readShortTag (cursor : Cursor) : Option (Tag × Cursor) := do
  let (handle, behind) ← readHandle cursor
  let (suffix, behind) ← readAddressOf isSuffixChar behind
  if 2 ≤ handle.length && handle.getLast? = some '!' then
    if suffix.isEmpty then none
    else return (⟨String.ofList handle, String.ofList suffix⟩, behind)
  else
    let suffix := handle.tail ++ suffix
    return (if suffix.isEmpty then ⟨"", "!"⟩ else ⟨"!", String.ofList suffix⟩, behind)

/-- Reads a tag. -/
def readTag (flow : Bool) (cursor : Cursor) : Option (Tag × Cursor) := do
  let (tag, behind) ← if cursor.second = '<' then readFullTag cursor else readShortTag cursor
  if isSpace behind.char || (flow && isFlowMark behind.char) then return (tag, behind) else none

/-! ## Directives -/

/-- Reads a number of a version, of nine digits at most. -/
def skipVersionNumber (cursor : Cursor) : Option Cursor :=
  let digits := cursor.rest.takeWhile Char.isDigit
  if digits.isEmpty || 9 < digits.length then none else some (cursor.pass digits.length)

/-- The cursor behind the blanks of its line. -/
def skipBlanks (cursor : Cursor) : Cursor :=
  cursor.skip (cursor.rest.takeWhile isBlank).length

/-- Passes a version. -/
def skipVersion (cursor : Cursor) : Option Cursor := do
  let behind ← skipVersionNumber (skipBlanks cursor)
  if behind.char = '.' then skipVersionNumber (behind.pass 1) else none

/-- Reads the prefix that a handle stands for. -/
def readPrefix (cursor : Cursor) : Option (List Char × Cursor) :=
  if cursor.char = '!' then
    (readAddressOf isAddressChar (cursor.pass 1)).map fun read => ('!' :: read.1, read.2)
  else if isSuffixChar cursor.char then readAddressOf isAddressChar cursor
  else none

/-- Reads a handle and its prefix. -/
def readDeclaration (cursor : Cursor) : Option (Directive × Cursor) := do
  let (handle, behind) ← readHandle (skipBlanks cursor)
  if handle ≠ ['!'] && handle.getLast? ≠ some '!' then none
  else
    let (path, behind) ← readPrefix (skipBlanks behind)
    if isSpace behind.char then
      return (.prefixOf (String.ofList handle) (String.ofList path), behind)
    else none

/-- Reads a directive together with its line end. -/
def readDirective (cursor : Cursor) : Option (Directive × Cursor) := do
  let name := cursor.rest.tail.takeWhile isWordChar
  let behind := cursor.pass (name.length + 1)
  if name.isEmpty || !isSpace behind.char then none
  else
    let (directive, behind) ←
      if name = ['Y', 'A', 'M', 'L'] then (skipVersion behind).map (Directive.version, ·)
      else if name = ['T', 'A', 'G'] then readDeclaration behind
      else some (.prefixOf "" "", behind.toLineEnd)
    let spacing ← behind.spacing
    if spacing.cursor.char = '\n' then return (directive, spacing.cursor.nextLine)
    else if spacing.cursor.rest.isEmpty then return (directive, spacing.cursor)
    else none

end RuleVocabulary.Yaml
