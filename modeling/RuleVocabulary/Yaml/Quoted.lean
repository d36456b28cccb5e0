import RuleVocabulary.Text.Code
import RuleVocabulary.Yaml.Cursor

/-!
# Quoted scalars in YAML

A quoted scalar stands between quotation marks, which allow escapes, or between apostrophes, where
a doubled one stands for itself. The blanks around a line end are dropped and line ends are folded;
behind a backslash a line end disappears.
-/

set_option autoImplicit false

namespace RuleVocabulary.Yaml

/-- The characters that stand for others behind a backslash. -/
def escapes : List (Char × Char) :=
  [('0', '\x00'), ('a', '\x07'), ('b', '\x08'), ('t', '\t'), ('\t', '\t'), ('n', '\n'),
    ('v', '\x0B'), ('f', '\x0C'), ('r', '\r'), ('e', '\x1B'), (' ', ' '), ('"', '"'), ('/', '/'),
    ('\\', '\\'), ('N', '\u0085'), ('_', '\u00A0'), ('L', '\u2028'), ('P', '\u2029')]

/-- The number of hexadecimal digits behind a letter that announces them. -/
def hexDigits? (letter : Char) : Option Nat :=
  if letter = 'x' then some 2 else if letter = 'u' then some 4
  else if letter = 'U' then some 8 else none

/-- Reads an escape from behind its backslash. -/
def readEscape (cursor : Cursor) : Option (Char × Cursor) :=
  let letter := cursor.char
  let behind := cursor.pass 1
  match escapes.lookup letter, hexDigits? letter with
  | some c, _ => some (c, behind)
  | none, some count =>
    (Text.readHexChar count behind.rest).map fun read => (read.1, behind.pass count)
  | none, none => none

/-- What follows the part of a quoted scalar up to a blank. -/
structure QuotedPart where
  text : List Char
  /-- Whether the part ends with a line end behind a backslash. -/
  joined : Bool
  cursor : Cursor

/-- Reads the part of a quoted scalar up to a blank or the closing quote. -/
def quotedPart (mark : Char) : (fuel : Nat) → Cursor → Option QuotedPart
  | 0, _ => none
  | fuel + 1, cursor =>
    let c := cursor.char
    let more (c : Char) (cursor : Cursor) : Option QuotedPart :=
      (quotedPart mark fuel cursor).map fun part => { part with text := c :: part.text }
    if isSpace c then some ⟨[], false, cursor⟩
    else if c = mark then
      if mark = '\'' && cursor.second = mark then more mark (cursor.pass 2)
      else some ⟨[], false, cursor⟩
    else if c = '\\' && mark = '"' then
      if cursor.second = '\n' then some ⟨[], true, (cursor.pass 1).nextLine⟩
      else
        match readEscape (cursor.pass 1) with
        | some (c, behind) => more c behind
        | none => none
    else more c (cursor.pass 1)

/-- Passes the blanks and line ends within a quoted scalar: the blanks before the first line end,
the number of line ends, and what follows. A tab may not indent a line. -/
def quotedSpace (least : Int) (joined : Bool) : (fuel : Nat) → (blanks : List Char) →
    (lineEnds : Nat) → Cursor → Option (List Char × Nat × Cursor)
  | 0, _, _, _ => none
  | fuel + 1, blanks, lineEnds, cursor =>
    if cursor.char = '\n' then quotedSpace least joined fuel [] (lineEnds + 1) cursor.nextLine
    else if !isBlank cursor.char then some (blanks, lineEnds, cursor)
    else if !joined && lineEnds = 0 then
      quotedSpace least joined fuel (blanks ++ [cursor.char]) lineEnds (cursor.skip 1)
    else if cursor.char = '\t' && cursor.column < least then none
    else quotedSpace least joined fuel blanks lineEnds (cursor.skip 1)

/-- Reads a quoted scalar from behind its first quote. Its lines begin at the least column or
behind it. -/
def quotedParts (mark : Char) (least : Int) : (fuel : Nat) → Cursor → Option (List Char × Cursor)
  | 0, _ => none
  | fuel + 1, cursor =>
    if (cursor.column = 0 && cursor.isFrame) || cursor.rest.isEmpty || cursor.column < least then
      none
    else
      match quotedPart mark (cursor.rest.length + 1) cursor with
      | none => none
      | some part =>
        if part.cursor.char = mark then some (part.text, part.cursor.pass 1)
        else
          match quotedSpace least part.joined (part.cursor.rest.length + 1) [] 0 part.cursor with
          | none => none
          | some (blanks, lineEnds, next) =>
            let joint :=
              if part.joined then List.replicate lineEnds '\n'
              else if lineEnds = 0 then blanks
              else folded (lineEnds - 1)
            (quotedParts mark least fuel next).map fun read =>
              (part.text ++ joint ++ read.1, read.2)

/-- Whether a quoted scalar may be followed by what stands at the cursor. -/
def mayFollowQuoted (flow : Bool) (line : Nat) (cursor : Cursor) : Bool :=
  let c := cursor.char
  endsLine c || (flow && (c = ',' || c = '}' || c = ']')) ||
    (c = ':' && (flow || line = cursor.line))

/-- Reads a quoted scalar, and the blanks behind it on its line. -/
def readQuoted (flow : Bool) (least : Int) (cursor : Cursor) : Option (List Char × Cursor) := do
  let (text, behind) ←
    quotedParts cursor.char least (cursor.rest.length + 1) (cursor.pass 1)
  let spacing ← behind.spacing
  if mayFollowQuoted flow cursor.line spacing.cursor then return (text, spacing.cursor) else none

end RuleVocabulary.Yaml
