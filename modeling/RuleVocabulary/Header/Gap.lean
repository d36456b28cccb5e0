/-!
# Gaps of a package header

Between the tokens of a header may stand blanks (space, tab, carriage return, line feed) and
comments: `/* … */`, and `//` or `#` up to the end of the line. A block comment that is never
closed is not a gap, so skipping stops in front of it. Main statements: skipping never lengthens
a text (`length_skipGap_le`), and the equations `skipGap_block_closed` and `skipGap_block_open`
say what becomes of a block comment.
-/

set_option autoImplicit false

namespace RuleVocabulary.Header

/-- The blanks a header allows between tokens. -/
def isGapBlank (c : Char) : Bool :=
  c = ' ' || c = '\t' || c = '\r' || c = '\n'

/-- Whether a character ends the line it stands on. -/
def endsLine (c : Char) : Bool :=
  c = '\n' || c = '\r'

/-- What follows the first `*/`, if there is one. -/
def afterComment? : List Char → Option (List Char)
  | '*' :: '/' :: rest => some rest
  | _ :: rest => afterComment? rest
  | [] => none

/-- Where in a gap a reader stands. A block comment remembers the text it was opened at. -/
inductive GapState where
  | between
  | inLine
  | inBlock (opened : List Char)

/-- Skips on from the given state. -/
def skipGapFrom : GapState → List Char → List Char
  | .between, '/' :: '*' :: rest => skipGapFrom (.inBlock ('/' :: '*' :: rest)) rest
  | .between, '/' :: '/' :: rest => skipGapFrom .inLine rest
  | .between, c :: rest =>
    if c = '#' then skipGapFrom .inLine rest
    else if isGapBlank c then skipGapFrom .between rest
    else c :: rest
  | .between, [] => []
  | .inLine, c :: rest =>
    if endsLine c then skipGapFrom .between rest else skipGapFrom .inLine rest
  | .inLine, [] => []
  | .inBlock _, '*' :: '/' :: rest => skipGapFrom .between rest
  | .inBlock opened, _ :: rest => skipGapFrom (.inBlock opened) rest
  | .inBlock opened, [] => opened

/-- The text without the blanks and comments in front. -/
def skipGap (text : List Char) : List Char :=
  skipGapFrom .between text

/-- The text behind an optional semicolon. -/
def skipSemicolon (text : List Char) : List Char :=
  match skipGap text with
  | ';' :: rest => rest
  | rest => rest

/-! ## Comments -/

theorem skipGapFrom_inBlock (opened text : List Char) :
    skipGapFrom (.inBlock opened) text =
      match afterComment? text with
      | some rest => skipGap rest
      | none => opened := by
  fun_induction afterComment? text with
  | case1 rest => simp [skipGapFrom, skipGap]
  | case2 c rest notClosed ih =>
    rw [← ih, skipGapFrom]
    exact notClosed
  | case3 => simp [skipGapFrom]

/-- A block comment that is closed is skipped together with the gap behind it. -/
theorem skipGap_block_closed {inside rest : List Char}
    (closed : afterComment? inside = some rest) :
    skipGap ('/' :: '*' :: inside) = skipGap rest := by
  rw [skipGap, skipGapFrom, skipGapFrom_inBlock, closed]

/-- A block comment that is never closed stops the skipping. -/
theorem skipGap_block_open {inside : List Char} (unclosed : afterComment? inside = none) :
    skipGap ('/' :: '*' :: inside) = '/' :: '*' :: inside := by
  rw [skipGap, skipGapFrom, skipGapFrom_inBlock, unclosed]

/-! ## Lengths -/

/-- The text a skip may fall back to. -/
def GapState.bound : GapState → List Char → Nat
  | .inBlock opened, text => max opened.length text.length
  | _, text => text.length

theorem length_skipGapFrom_le (state : GapState) (text : List Char) :
    (skipGapFrom state text).length ≤ state.bound text := by
  fun_induction skipGapFrom state text <;> simp_all [GapState.bound] <;> omega

/-- Skipping never lengthens a text. -/
theorem length_skipGap_le (text : List Char) : (skipGap text).length ≤ text.length :=
  length_skipGapFrom_le .between text

theorem length_skipSemicolon_le (text : List Char) :
    (skipSemicolon text).length ≤ text.length := by
  have shorter := length_skipGap_le text
  unfold skipSemicolon
  split
  · rename_i rest semicolon
    rw [semicolon] at shorter
    simp at shorter
    omega
  · exact shorter

end RuleVocabulary.Header
