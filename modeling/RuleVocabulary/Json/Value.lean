import RuleVocabulary.Json.Text

/-!
# Written JSON

The values that are written, and two ways to write them: `compact` without any blanks, and `pretty`
with a line for every element and member, two blanks of indentation for each level, and a blank
behind the colon. Lists and objects without content take no line of their own.
-/

set_option autoImplicit false

namespace RuleVocabulary.Json

open RuleVocabulary.Text

/-- A JSON value that is written. -/
inductive Value where
  | string (text : String)
  | array (elements : List Value)
  | object (members : List (String × Value))

namespace Value

/-- A list of texts. -/
def strings (texts : List String) : Value :=
  .array (texts.map .string)

mutual

/-- A value without blanks. -/
def compact : Value → List UInt8
  | .string text => quote text
  | .array elements => 0x5B :: compactElements elements ++ [0x5D]
  | .object members => 0x7B :: compactMembers members ++ [0x7D]

/-- The elements of a list, separated by commas. -/
def compactElements : List Value → List UInt8
  | [] => []
  | [element] => compact element
  | element :: elements => compact element ++ 0x2C :: compactElements elements

/-- The members of an object, separated by commas. -/
def compactMembers : List (String × Value) → List UInt8
  | [] => []
  | [(key, value)] => quote key ++ 0x3A :: compact value
  | (key, value) :: members => quote key ++ 0x3A :: compact value ++ 0x2C :: compactMembers members

end

/-- The end of a line and the indentation of the next. -/
def newLine (level : Nat) : List UInt8 :=
  0x0A :: List.replicate (2 * level) 0x20

mutual

/-- A value laid out over several lines, starting at the given level. -/
def prettyAt (level : Nat) : Value → List UInt8
  | .string text => quote text
  | .array [] => [0x5B, 0x5D]
  | .array (element :: elements) =>
    0x5B :: newLine (level + 1) ++ prettyAt (level + 1) element ++
      prettyElements (level + 1) elements ++ newLine level ++ [0x5D]
  | .object [] => [0x7B, 0x7D]
  | .object ((key, value) :: members) =>
    0x7B :: newLine (level + 1) ++ quote key ++ 0x3A :: 0x20 :: prettyAt (level + 1) value ++
      prettyMembers (level + 1) members ++ newLine level ++ [0x7D]

/-- The elements of a list behind the first. -/
def prettyElements (level : Nat) : List Value → List UInt8
  | [] => []
  | element :: elements =>
    0x2C :: newLine level ++ prettyAt level element ++ prettyElements level elements

/-- The members of an object behind the first. -/
def prettyMembers (level : Nat) : List (String × Value) → List UInt8
  | [] => []
  | (key, value) :: members =>
    0x2C :: newLine level ++ quote key ++ 0x3A :: 0x20 :: prettyAt level value ++
      prettyMembers level members

end

/-- A value laid out over several lines. -/
def pretty (value : Value) : List UInt8 :=
  prettyAt 0 value

end Value

end RuleVocabulary.Json
