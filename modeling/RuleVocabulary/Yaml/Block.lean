import RuleVocabulary.Decimal.Reading
import RuleVocabulary.Yaml.Cursor

/-!
# Blocks of lines in YAML

A block scalar is a block of indented lines behind a line of indicators, which tell whether line
ends are folded, what becomes of the line ends at the end of the block, and perhaps how far it is
indented; otherwise its first lines tell that. A block that the text ends without a line end gets
one.
-/

set_option autoImplicit false

namespace RuleVocabulary.Yaml

/-- What becomes of the line ends at the end of a block. -/
inductive Chomping where
  | strip
  | clip
  | keep
deriving DecidableEq, Repr

/-- What an indicator tells about the line ends at the end of a block. -/
def Chomping.ofChar? (c : Char) : Option Chomping :=
  if c = '+' then some .keep else if c = '-' then some .strip else none

/-- What the first line of a block tells about it. -/
structure Indicators where
  chomping : Chomping
  /-- The indentation of the block with respect to what it belongs to; zero if it is not given. -/
  further : Nat

/-- Reads the digit of an indentation, which is not zero, if there is one. -/
def readFurther (cursor : Cursor) : Option (Nat × Cursor) :=
  if !cursor.char.isDigit then some (0, cursor)
  else if cursor.char = '0' then none
  else some (Decimal.digitValue cursor.char, cursor.pass 1)

/-- Reads the indicators of a block, which stand in either order. -/
def readIndicators (cursor : Cursor) : Option (Indicators × Cursor) := do
  match Chomping.ofChar? cursor.char with
  | some chomping =>
    let (further, behind) ← readFurther (cursor.pass 1)
    return (⟨chomping, further⟩, behind)
  | none =>
    let (further, behind) ← readFurther cursor
    if further = 0 then return (⟨.clip, 0⟩, behind)
    else
      match Chomping.ofChar? behind.char with
      | some chomping => return (⟨chomping, further⟩, behind.pass 1)
      | none => return (⟨.clip, further⟩, behind)

/-- Passes the blanks of a line up to a column. -/
def skipIndent (indent : Nat) (cursor : Cursor) : Cursor :=
  cursor.skip ((cursor.rest.take (indent - cursor.column)).takeWhile (· = ' ')).length

/-- Passes lines that hold nothing but their indentation, and counts them. -/
def skipEmptyLines (indent : Nat) : (fuel : Nat) → (count : Nat) → Cursor → Nat × Cursor
  | 0, count, cursor => (count, cursor)
  | fuel + 1, count, cursor =>
    let inside := skipIndent indent cursor
    if inside.char = '\n' then skipEmptyLines indent fuel (count + 1) inside.nextLine
    else (count, inside)

/-- Passes lines that hold nothing but blanks, and finds the greatest indentation up to the first
line that holds something. -/
def findIndent : (fuel : Nat) → (greatest count : Nat) → Cursor → Nat × Nat × Cursor
  | 0, greatest, count, cursor => (greatest, count, cursor)
  | fuel + 1, greatest, count, cursor =>
    let inside := cursor.skip (cursor.rest.takeWhile (· = ' ')).length
    let greatest := max greatest inside.column
    if inside.char = '\n' then findIndent fuel greatest (count + 1) inside.nextLine
    else (greatest, count, inside)

/-- Lines of a block that have been read, and what separates them from the next one. -/
structure BlockLines where
  text : List Char
  /-- Whether a line end follows the text. -/
  ended : Bool
  /-- The number of empty lines behind it. -/
  empty : Nat
  /-- Whether the last line begins with a blank. -/
  blank : Bool

/-- Reads the lines of a block. Where lines are folded, those that begin with a blank keep the line
ends around them. -/
def readLines (folds : Bool) (indent : Nat) : (fuel : Nat) → BlockLines → Cursor →
    BlockLines × Cursor
  | 0, lines, cursor => (lines, cursor)
  | fuel + 1, lines, cursor =>
    if cursor.column ≠ indent || cursor.rest.isEmpty || (indent = 0 && cursor.isTriple '.') then
      (lines, cursor)
    else
      let blank := isBlank cursor.char
      let joint :=
        if folds && lines.ended && !lines.blank && !blank then folded lines.empty
        else (if lines.ended then ['\n'] else []) ++ List.replicate lines.empty '\n'
      let line := cursor.rest.takeWhile (· ≠ '\n')
      let text := lines.text ++ joint ++ line
      let behind := cursor.skip line.length
      if behind.rest.isEmpty then (⟨text, false, 0, blank⟩, behind)
      else
        let (empty, next) := skipEmptyLines indent (behind.rest.length + 1) 0 behind.nextLine
        readLines folds indent fuel ⟨text, true, empty, blank⟩ next

/-- The text of a block whose lines have been read up to the cursor. -/
def blockText (chomping : Chomping) (indent : Nat) (lines : BlockLines) (cursor : Cursor) :
    List Char :=
  lines.text ++
    (if chomping = .strip then []
      else (if lines.ended then ['\n'] else []) ++
        (if cursor.rest.isEmpty && max indent 1 ≤ cursor.column then ['\n'] else [])) ++
    (if chomping = .keep then List.replicate lines.empty '\n' else [])

/-- The text of a block that holds nothing up to the end of the document: its line of indicators
ends with a line end or not, and so many empty lines follow. -/
def emptyBlockText (chomping : Chomping) (ended : Bool) (empty : Nat) : List Char :=
  if chomping = .strip || !ended then []
  else if chomping = .keep && empty ≠ 0 then List.replicate empty '\n'
  else ['\n']

/-- Reads a block that belongs to what begins at the given column. -/
def readBlock (parent : Int) (cursor : Cursor) : Option (List Char × Cursor) := do
  let (indicators, behind) ← readIndicators (cursor.pass 1)
  let spacing ← behind.spacing
  if !endsLine spacing.cursor.char then none
  else
    let ended := spacing.cursor.char = '\n'
    let start := if ended then spacing.cursor.nextLine else spacing.cursor
    let fuel := start.rest.length + 1
    if start.char = '\t' then none
    else
      let given := (max parent 0).toNat + indicators.further
      let (indent, empty, inside) :=
        if indicators.further ≠ 0 then (given, skipEmptyLines given fuel 0 start)
        else
          let (greatest, empty, inside) := findIndent fuel 0 0 start
          (max greatest (parent + 1).toNat, empty, inside)
      if inside.rest.isEmpty then
        return (emptyBlockText indicators.chomping ended empty, inside)
      else if inside.column < indent ∧ parent < inside.column then none
      else
        let (lines, next) :=
          readLines (cursor.char = '>') indent fuel ⟨[], false, empty, false⟩ inside
        return (blockText indicators.chomping indent lines next, next)

end RuleVocabulary.Yaml
