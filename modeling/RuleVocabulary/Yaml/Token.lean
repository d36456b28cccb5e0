import RuleVocabulary.Yaml.Block
import RuleVocabulary.Yaml.Plain
import RuleVocabulary.Yaml.Quoted
import RuleVocabulary.Yaml.Tag

/-!
# Tokens of a YAML document

The tokens of a document make the blocks that its indentation delimits explicit: blocks have a
token where they begin and one where they end, and so have the keys and the values of tables. What
a key is shows only at the colon behind it, so the place of a token that may turn out to be one is
remembered (`KeyPlace`), and its token is put in later.

Within a block, each line is indented at least to the column of the block. What stands behind a
dash or a colon is indented by one column more, if only loosely: a plain scalar or a block of lines
may do without, and a list that is the value of a key as well.
-/

set_option autoImplicit false

namespace RuleVocabulary.Yaml

/-- A token of a document. -/
inductive Token where
  | directive (directive : Directive)
  | documentStart
  | documentEnd
  | blockList
  | blockTable
  | blockEnd
  | flowList
  | flowListEnd
  | flowTable
  | flowTableEnd
  /-- The dash before an element of a block list. -/
  | dash
  | comma
  | key
  | value
  | alias (name : String)
  /-- A name for the node that follows, and whether it stands in the first column. -/
  | anchor (name : String) (outermost : Bool)
  /-- The tag of the node that follows, and whether it stands in the first column. -/
  | tag (tag : Tag) (outermost : Bool)
  | scalar (plain : Bool) (text : List Char)
deriving DecidableEq, Repr

/-- Where a token that may turn out to be a key stands. -/
structure KeyPlace where
  /-- Whether it must be a key because of its indentation. -/
  required : Bool
  /-- The number of tokens before it. -/
  token : Nat
  index : Nat
  line : Nat
  column : Nat

/-- A column to which lines are indented, either by a block or loosely. -/
structure Level where
  column : Nat
  block : Bool

/-- How far a document has been cut into tokens. -/
structure Layout where
  cursor : Cursor
  tokens : Array Token
  /-- The columns of the blocks around this place, the innermost first. -/
  levels : List Level
  /-- The number of brackets and braces around this place. -/
  depth : Nat
  /-- Whether a key may begin here. -/
  keyAllowed : Bool
  /-- The latest possible keys, within each of the brackets and braces and outside, the innermost
  first. -/
  keys : List (Option KeyPlace)
  /-- The index at which a colon between brackets and braces needs no blank behind it. -/
  adjacent : Nat
  /-- Whether tables between brackets and braces show their keys by braces or question marks. -/
  tableShown : Bool
  /-- For each of the brackets around this place, the innermost first, whether a table without
  braces has begun in it. -/
  pairs : List Bool

namespace Layout

/-- The layout at the beginning of a text. -/
def start (text : List Char) : Layout where
  cursor := .start text
  tokens := #[]
  levels := []
  depth := 0
  keyAllowed := true
  keys := [none]
  adjacent := 0
  tableShown := false
  pairs := []

/-- The column to which lines are indented here; in front of the first one if there is none. -/
def indent (layout : Layout) : Int :=
  match layout.levels with
  | [] => -1
  | level :: _ => level.column

/-- Whether brackets or braces stand around this place. -/
def inFlow (layout : Layout) : Bool :=
  layout.depth ≠ 0

/-- Adds a token. -/
def push (layout : Layout) (token : Token) : Layout :=
  { layout with tokens := layout.tokens.push token }

/-- Puts a token in behind so many others. -/
def insert (layout : Layout) (place : Nat) (token : Token) : Layout :=
  { layout with tokens := layout.tokens.insertIdxIfInBounds place token }

/-- Moves the cursor. -/
def moveTo (layout : Layout) (cursor : Cursor) : Layout :=
  { layout with cursor }

/-- Tells whether a key may begin here. -/
def allowKey (layout : Layout) (keyAllowed : Bool) : Layout :=
  { layout with keyAllowed }

/-! ## Indentation -/

/-- Begins a block at a column if it lies behind that of the block around it. Its token is put in
behind so many others. -/
def enter (layout : Layout) (column place : Nat) (token : Token) : Layout :=
  if layout.inFlow then layout
  else
    let levels := match layout.levels with
      | level :: levels =>
        if !level.block && level.column ≤ column then levels else level :: levels
      | [] => []
    let layout := { layout with levels }
    if layout.indent < (column : Int) then
      { layout.insert place token with levels := ⟨column, true⟩ :: levels }
    else layout

/-- Begins a block at a column if it lies behind that of the block around it. -/
def enterHere (layout : Layout) (column : Nat) (token : Token) : Layout :=
  layout.enter column layout.tokens.size token

/-- Indents what follows by one column, loosely. -/
def indentLoosely (layout : Layout) : Layout :=
  match layout.levels with
  | ⟨column, true⟩ :: _ =>
    if layout.inFlow then layout
    else { layout with levels := ⟨column + 1, false⟩ :: layout.levels }
  | _ => layout

/-- Takes back loose indentation. -/
def dropLoose (layout : Layout) : Layout :=
  { layout with levels := layout.levels.dropWhile (!·.block) }

/-- Ends the blocks whose columns lie behind the given one. -/
def leave (layout : Layout) (column : Int) : Layout :=
  if layout.inFlow then layout
  else
    let left := layout.levels.takeWhile fun level => column < level.column
    let ends := (left.filter Level.block).map fun _ => Token.blockEnd
    { layout with
      tokens := layout.tokens ++ ends
      levels := layout.levels.drop left.length }

/-! ## Possible keys -/

/-- Remembers that the next token may turn out to be a key. -/
def markKey (layout : Layout) : Layout :=
  if !layout.keyAllowed then layout
  else
    let cursor := layout.cursor
    let required := match layout.levels with
      | level :: _ => !layout.inFlow && level.block && level.column = cursor.column
      | [] => false
    let place : KeyPlace :=
      ⟨required, layout.tokens.size, cursor.index, cursor.line, cursor.column⟩
    { layout with keys := some place :: layout.keys.tail }

/-- Forgets the latest possible key, unless it must be one. -/
def dropKey (layout : Layout) : Option Layout :=
  match layout.keys with
  | some place :: keys =>
    if place.required then none else some { layout with keys := none :: keys }
  | _ => some layout

/-- Forgets a possible key outside of brackets and braces that stands on another line, or too far
in front, unless it must be one. -/
def dropStaleKey (layout : Layout) : Option Layout :=
  match layout.keys with
  | some place :: keys =>
    if !layout.inFlow && (place.line < layout.cursor.line ||
        place.index + 1024 < layout.cursor.index) then
      if place.required then none else some { layout with keys := none :: keys }
    else some layout
  | _ => some layout

/-! ## Tokens -/

/-- Moves to the next token. On a new line a key may begin, except between brackets and braces. -/
def toToken (layout : Layout) : Option Layout :=
  (layout.cursor.toToken layout.indent (layout.cursor.rest.length + 1) false).map
    fun (cursor, newLine) =>
      (layout.moveTo cursor).allowKey (layout.keyAllowed || (newLine && !layout.inFlow))

/-- Passes the blanks and the comment behind a token on its line. -/
def skipSpacing (layout : Layout) : Option Layout :=
  layout.cursor.spacing.map fun spacing => layout.moveTo spacing.cursor

/-- Reads a directive. -/
def readDirective (layout : Layout) : Option Layout := do
  let layout ← (layout.leave (-1)).dropKey
  let (directive, behind) ← Yaml.readDirective layout.cursor
  return ((layout.allowKey false).moveTo behind).push (.directive directive)

/-- Reads what opens a document. -/
def readDocumentStart (layout : Layout) : Option Layout := do
  let layout ← (layout.leave (-1)).dropKey
  return ((layout.allowKey false).moveTo (layout.cursor.pass 3)).push .documentStart

/-- Reads what closes a document. Nothing else may stand on its line. -/
def readDocumentEnd (layout : Layout) : Option Layout := do
  let layout ← (layout.leave (-1)).dropKey
  let layout ←
    (((layout.allowKey false).moveTo (layout.cursor.pass 3)).push .documentEnd).skipSpacing
  if endsLine layout.cursor.char then return layout else none

/-- The greatest number of brackets and braces around a place. -/
def depthLimit : Nat := 255

/-- Reads what opens a list or a table. -/
def readOpening (layout : Layout) (list : Bool) : Option Layout :=
  let layout := layout.markKey.indentLoosely
  if layout.depth = depthLimit then none
  else
    { (layout.allowKey true).moveTo (layout.cursor.pass 1) with
      keys := none :: layout.keys
      depth := layout.depth + 1
      tableShown := !list || layout.tableShown
      pairs := if list then false :: layout.pairs else layout.pairs
      tokens := layout.tokens.push (if list then .flowList else .flowTable) }.skipSpacing

/-- Ends a table without braces that has begun in the innermost brackets. -/
def endPair (layout : Layout) : Layout :=
  match layout.pairs with
  | true :: pairs =>
    { layout.push .flowTableEnd with tableShown := false, pairs := false :: pairs }
  | _ => layout

/-- Reads what closes a list or a table. -/
def readClosing (layout : Layout) (list : Bool) : Option Layout := do
  let layout ← layout.dropKey
  let layout :=
    if layout.inFlow then { layout with depth := layout.depth - 1, keys := layout.keys.tail }
    else layout
  let layout := layout.allowKey false
  let layout :=
    if list then { layout.endPair with pairs := layout.endPair.pairs.tail } else layout
  let layout ← (layout.moveTo (layout.cursor.pass 1)).skipSpacing
  let layout := if layout.inFlow then { layout with adjacent := layout.cursor.index } else layout
  return layout.push (if list then .flowListEnd else .flowTableEnd)

/-- Reads what separates elements and members between brackets and braces. -/
def readComma (layout : Layout) : Option Layout := do
  let layout ← layout.dropKey
  let layout := (layout.allowKey true).endPair
  let layout ← (layout.moveTo (layout.cursor.pass 1)).skipSpacing
  return layout.push .comma

/-- Whether the latest token belongs to a node and stands in the first column. -/
def endsOutermost (layout : Layout) : Bool :=
  match layout.tokens.back? with
  | some (.anchor _ outermost) => outermost
  | some (.tag _ outermost) => outermost
  | _ => false

/-- Reads the dash before an element. -/
def readDash (layout : Layout) : Option Layout :=
  let cursor := layout.cursor
  if layout.inFlow || !layout.keyAllowed ||
      (layout.endsOutermost && cursor.column = 0 && -1 < layout.indent) then none
  else do
    let layout := (layout.enterHere cursor.column .blockList).moveTo (cursor.pass 1)
    let spacing ← layout.cursor.spacing
    let next := spacing.cursor
    if spacing.tabbed && next.char = '-' && isSpace next.second then none
    else
      let layout := layout.moveTo next
      let layout :=
        if next.char = '\n' || isFlowMark next.char then layout.indentLoosely else layout
      let layout ← layout.dropKey
      return (layout.allowKey true).push .dash

/-- Reads the question mark before a key. -/
def readQuestion (layout : Layout) : Option Layout := do
  let cursor := layout.cursor
  if !layout.inFlow && !layout.keyAllowed then none
  else
    let layout :=
      if layout.inFlow then { layout with tableShown := true }
      else layout.enterHere cursor.column .blockTable
    let layout ← layout.dropKey
    let behind ← (cursor.pass 1).skipSpace (cursor.rest.length + 1) false
    let layout := (layout.moveTo behind).allowKey !layout.inFlow
    if behind.char = '\t' then none else return layout.push .key

/-- What follows a colon on its line, if it begins with a tab. -/
def tabSpacing (cursor : Cursor) : Option Spacing :=
  if cursor.char = '\t' then cursor.spacing else some ⟨cursor, false, false⟩

/-- Reads the colon between a key and its value. A value that begins with a word needs a blank
other than a tab before it. -/
def readColon (layout : Layout) : Option Layout := do
  let cursor := layout.cursor
  let key? := layout.keys.head?.bind id
  let pair := !layout.pairs.isEmpty && !layout.tableShown
  let layout := if pair then { layout with pairs := true :: layout.pairs.tail } else layout
  let spacing ← tabSpacing (cursor.pass 1)
  let next := spacing.cursor
  if spacing.tabbed && !spacing.blank && isWordChar next.char then none
  else
    let layout := layout.moveTo next
    match key? with
    | some place =>
      if pair && place.line < cursor.line then none
      else
        let layout := layout.insert place.token .key
        let layout := if pair then layout.insert place.token .flowTable else layout
        let layout := (layout.enter place.column place.token .blockTable).indentLoosely
        let layout := { layout with keys := none :: layout.keys.tail }
        return (layout.allowKey false).push .value
    | none =>
      let layout := if pair then layout.push .flowTable else layout
      if layout.inFlow then return (layout.allowKey false).push .value
      else if !layout.keyAllowed then none
      else
        let layout := (layout.enterHere cursor.column .blockTable).indentLoosely
        return (layout.allowKey true).push .value

/-- Reads the name of an alias or of an anchor. -/
def readName (layout : Layout) (ofAlias : Bool) : Option Layout :=
  let layout := layout.markKey.allowKey false
  let cursor := layout.cursor
  let name := cursor.rest.tail.takeWhile fun c =>
    !isSpace c && !isFlowMark c && c ≠ '\uFEFF'
  let text := String.ofList name
  if name.isEmpty then none
  else
    some ((layout.moveTo (cursor.pass (name.length + 1))).push
      (if ofAlias then .alias text else .anchor text (cursor.column = 0)))

/-- Reads a tag. -/
def readTag (layout : Layout) : Option Layout := do
  let layout := layout.markKey.allowKey false
  let cursor := layout.cursor
  let (tag, behind) ← Yaml.readTag layout.inFlow cursor
  return (layout.moveTo behind).push (.tag tag (cursor.column = 0))

/-- Reads a block of lines. -/
def readBlock (layout : Layout) : Option Layout := do
  let layout := (layout.markKey.allowKey true).dropLoose
  let (text, behind) ← Yaml.readBlock layout.indent layout.cursor
  return (layout.moveTo behind).push (.scalar false text)

/-- Reads a quoted scalar. A colon may follow it without a blank. -/
def readQuoted (layout : Layout) : Option Layout := do
  let layout := layout.markKey.allowKey false
  let (text, behind) ← Yaml.readQuoted layout.inFlow layout.indent layout.cursor
  let layout ← (layout.moveTo behind).toToken
  return { layout with adjacent := layout.cursor.index }.push (.scalar false text)

/-- Reads a plain scalar. -/
def readPlain (layout : Layout) : Option Layout := do
  let layout := (layout.markKey.allowKey false).dropLoose
  let (text, behind) ← Yaml.readPlain layout.inFlow (layout.indent + 1) layout.cursor
  return ((layout.moveTo behind).allowKey (layout.keyAllowed || behind.fresh)).push
    (.scalar true text)

/-- Whether the colon at the cursor stands before a value. -/
def isColon (layout : Layout) : Bool :=
  let next := layout.cursor.second
  isSpace next ||
    (layout.inFlow && (isFlowMark next || layout.cursor.index = layout.adjacent))

/-- Reads the token at the cursor. -/
def readToken (layout : Layout) : Option Layout :=
  let cursor := layout.cursor
  let c := cursor.char
  if cursor.column = 0 && c = '%' then layout.readDirective
  else if cursor.column = 0 && cursor.isTriple '-' then layout.readDocumentStart
  else if cursor.column = 0 && cursor.isTriple '.' then layout.readDocumentEnd
  else if cursor.column < layout.indent then none
  else if c = '[' || c = '\x7b' then layout.readOpening (c = '[')
  else if c = ']' || c = '\x7d' then layout.readClosing (c = ']')
  else if c = ',' then layout.readComma
  else if c = '-' && isSpace cursor.second then layout.readDash
  else if c = '?' && isSpace cursor.second then layout.readQuestion
  else if c = ':' && layout.isColon then layout.readColon
  else if c = '*' || c = '&' then layout.readName (c = '*')
  else if c = '!' then layout.readTag
  else if (c = '|' || c = '>') && !layout.inFlow then layout.readBlock
  else if c = '\'' || c = '"' then layout.readQuoted
  else if c = '%' || c = '@' || c = '\x60' then none
  else layout.readPlain

/-- Ends all blocks at the end of the text. -/
def finish (layout : Layout) : Option (Array Token) :=
  if layout.keys.any fun key? => (key?.map KeyPlace.required).getD false then none
  else some (layout.leave (-1)).tokens

/-- Cuts a document into tokens. Each takes a character at least. -/
def cut : (fuel : Nat) → Layout → Option (Array Token)
  | 0, _ => none
  | fuel + 1, layout => do
    let layout ← layout.toToken
    let layout ← layout.dropStaleKey
    let layout := layout.leave layout.cursor.column
    if layout.cursor.rest.isEmpty then layout.finish
    else cut fuel (← layout.readToken)

end Layout

/-- The tokens of a text. -/
def tokens? (text : List Char) : Option (List Token) :=
  (Layout.cut (text.length + 1) (.start text)).map Array.toList

end RuleVocabulary.Yaml
