/-!
# Places in a text

A place is a line and a column, both counted from one, columns in characters. Only a line feed
starts a new line; a carriage return before it is the last column of the line it ends.
-/

set_option autoImplicit false

namespace RuleVocabulary.Text

/-- A line and a column of a text. -/
structure Place where
  line : Nat
  column : Nat
deriving DecidableEq, Repr, Inhabited

namespace Place

/-- Where every text begins. -/
def start : Place := ⟨1, 1⟩

/-- The place behind a character that stands at the given one. -/
def next (place : Place) (c : Char) : Place :=
  if c = '\n' then ⟨place.line + 1, 1⟩ else ⟨place.line, place.column + 1⟩

/-- The place reached once the given text has been passed. -/
def past (text : List Char) : Place :=
  text.foldl next start

/-- The place in `text` at which its ending `rest` begins. -/
def ofRest (text rest : List Char) : Place :=
  past (text.take (text.length - rest.length))

/-- The passed text may be cut anywhere. -/
theorem past_append (first second : List Char) :
    past (first ++ second) = second.foldl next (past first) := by
  simp [past, List.foldl_append]

theorem ofRest_append (before rest : List Char) : ofRest (before ++ rest) rest = past before := by
  simp [ofRest]

end Place

end RuleVocabulary.Text
