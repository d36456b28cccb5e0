/-!
# Places in a YAML document

Indentation decides what belongs together in YAML, so a document is read with a cursor that knows
its line and its column, and whether only blanks stand before it on the line. The text that a
cursor walks has line feeds alone for line ends, and it ends before the first character zero
(`textOf`); so `char` may give that character for the end of the text.
-/

set_option autoImplicit false

namespace RuleVocabulary.Yaml

/-- The text with line feeds alone for line ends: carriage returns become line feeds, one in front
of a line feed together with it. -/
def withLineFeeds : List Char → List Char
  | '\r' :: '\n' :: rest => '\n' :: withLineFeeds rest
  | '\r' :: rest => '\n' :: withLineFeeds rest
  | c :: rest => c :: withLineFeeds rest
  | [] => []

/-- The text of a document that is read. -/
def textOf (document : String) : List Char :=
  withLineFeeds (document.toList.takeWhile (· ≠ '\x00'))

/-! ## Characters -/

/-- The blanks within a line. -/
def isBlank (c : Char) : Bool :=
  c = ' ' || c = '\t'

/-- Whether a line or the text ends at a character. -/
def endsLine (c : Char) : Bool :=
  c = '\n' || c = '\x00'

/-- Whether a character separates tokens. -/
def isSpace (c : Char) : Bool :=
  isBlank c || endsLine c

/-- The characters that have a meaning between brackets and braces. -/
def isFlowMark (c : Char) : Bool :=
  c = ',' || c = '[' || c = ']' || c = '{' || c = '}'

/-- The characters of the names of tag handles and directives. -/
def isWordChar (c : Char) : Bool :=
  c.isAlphanum || c = '_' || c = '-'

/-- The character that a text begins with, or the character zero if it is empty. -/
def firstOf (text : List Char) : Char :=
  text.head?.getD '\x00'

/-! ## Cursors -/

/-- How far a document has been read. -/
structure Cursor where
  rest : List Char
  /-- The number of characters before this place. -/
  index : Nat
  /-- The number of line ends before this place. -/
  line : Nat
  /-- The number of characters before this place on its line. -/
  column : Nat
  /-- Whether only blanks stand before this place on its line. -/
  fresh : Bool

namespace Cursor

/-- The cursor at the beginning of a text. -/
def start (text : List Char) : Cursor := ⟨text, 0, 0, 0, true⟩

/-- The character at this place. -/
def char (cursor : Cursor) : Char := firstOf cursor.rest

/-- The character behind this place. -/
def second (cursor : Cursor) : Char := firstOf cursor.rest.tail

/-- The cursor behind so many blanks of its line. -/
def skip (cursor : Cursor) (count : Nat) : Cursor :=
  { cursor with
    rest := cursor.rest.drop count
    index := cursor.index + count
    column := cursor.column + count }

/-- The cursor behind so many characters of its line. -/
def pass (cursor : Cursor) (count : Nat) : Cursor :=
  { cursor.skip count with fresh := false }

/-- The cursor at the beginning of the next line. -/
def nextLine (cursor : Cursor) : Cursor :=
  ⟨cursor.rest.drop 1, cursor.index + 1, cursor.line + 1, 0, true⟩

/-- Whether three of a character stand here by themselves. -/
def isTriple (cursor : Cursor) (c : Char) : Bool :=
  cursor.rest.take 3 = [c, c, c] && isSpace (firstOf (cursor.rest.drop 3))

/-- Whether what opens or closes a document stands here. -/
def isFrame (cursor : Cursor) : Bool :=
  cursor.isTriple '-' || cursor.isTriple '.'

/-- The cursor at the end of its line. -/
def toLineEnd (cursor : Cursor) : Cursor :=
  cursor.pass (cursor.rest.takeWhile (· ≠ '\n')).length

end Cursor

/-! ## Between tokens -/

/-- What follows a token on its line: blanks of either kind, and perhaps a comment. -/
structure Spacing where
  cursor : Cursor
  /-- Whether there are tabs. -/
  tabbed : Bool
  /-- Whether there are plain blanks. -/
  blank : Bool

/-- Adds the blanks and the comment in front of a text. A comment needs a blank before it. -/
def Spacing.extend (spacing : Spacing) : List Char → Option Spacing
  | [] => some spacing
  | c :: rest =>
    if c = ' ' then extend { spacing with cursor := spacing.cursor.skip 1, blank := true } rest
    else if c = '\t' then
      extend { spacing with cursor := spacing.cursor.skip 1, tabbed := true } rest
    else if c = '#' then
      if spacing.tabbed || spacing.blank then
        some { spacing with cursor := spacing.cursor.toLineEnd }
      else none
    else some spacing

/-- What follows a token on its line. -/
def Cursor.spacing (cursor : Cursor) : Option Spacing :=
  Spacing.extend ⟨cursor, false, false⟩ cursor.rest

/-- The next token's place, and whether a line end was passed. A tab may stand before the least
column of a line only if the line is empty otherwise. -/
def Cursor.toToken (least : Int) : (fuel : Nat) → (newLine : Bool) → Cursor →
    Option (Cursor × Bool)
  | 0, newLine, cursor => some (cursor, newLine)
  | fuel + 1, newLine, cursor =>
    if cursor.char = '\t' && cursor.fresh && cursor.column < least then
      match cursor.spacing with
      | some spacing =>
        if endsLine spacing.cursor.char then toToken least fuel newLine spacing.cursor else none
      | none => none
    else if isBlank cursor.char then toToken least fuel newLine (cursor.skip 1)
    else if cursor.char = '\n' then toToken least fuel true cursor.nextLine
    else if cursor.char = '#' then toToken least fuel newLine cursor.toLineEnd
    else some (cursor, newLine)

/-- Passes blanks other than tabs, line ends and comments. A blank or a line end must be there. -/
def Cursor.skipSpace : (fuel : Nat) → (passed : Bool) → Cursor → Option Cursor
  | 0, _, _ => none
  | fuel + 1, passed, cursor =>
    if cursor.char = ' ' then skipSpace fuel true (cursor.skip 1)
    else if cursor.char = '\n' then skipSpace fuel true cursor.nextLine
    else if cursor.char = '#' then skipSpace fuel passed cursor.toLineEnd
    else if passed then some cursor
    else none

/-! ## Line ends within scalars -/

/-- What the line ends between two parts of a scalar become: one becomes a blank, and of more the
first is dropped. The others are counted. -/
def folded (further : Nat) : List Char :=
  if further = 0 then [' '] else List.replicate further '\n'

end RuleVocabulary.Yaml
