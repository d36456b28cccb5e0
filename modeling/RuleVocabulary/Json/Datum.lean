import RuleVocabulary.Datum.Basic
import RuleVocabulary.Json.Reader

/-!
# Data in JSON

Any JSON value is a datum, and of two members with one key the later one counts. Lists and objects
may not be nested deeper than `depthLimit`.
-/

set_option autoImplicit false

namespace RuleVocabulary.Json

/-- How many lists and objects may be nested, themselves included. -/
def depthLimit : Nat := 127

/-- The datum of a number. -/
def Number.datum : Number → Datum
  | integer value => .integer value
  | float value => .float value

/-- Reads the value of a member, and puts it into the table of the members before it. -/
def readMember (value : List UInt8 → Read Datum) (key : String)
    (members : List (String × Datum)) (text : List UInt8) : Read (List (String × Datum)) :=
  match skipColon text with
  | .error failure => .error failure
  | .ok start => (value start).map fun read => (Table.put key read.1 members, read.2)

/-- Reads a value in which lists and objects are nested no deeper than the given depth. -/
def readDatum (depth : Nat) (text : List UInt8) : Read Datum :=
  match skipBlank text with
  | [] => fail .endInValue []
  | byte :: rest =>
    if byte = 0x6E then (skipLetters nullLetters rest).map (.null, ·)
    else if byte = 0x74 then (skipLetters trueLetters rest).map (.boolean true, ·)
    else if byte = 0x66 then (skipLetters falseLetters rest).map (.boolean false, ·)
    else if byte = 0x2D then (readNumber true rest).map fun read => (read.1.datum, read.2)
    else if isDigit byte then
      (readNumber false (byte :: rest)).map fun read => (read.1.datum, read.2)
    else if byte = 0x22 then (readString rest).map fun read => (.text read.1, read.2)
    else if byte = 0x5B then
      match depth with
      | 0 => fail .tooDeep rest
      | depth + 1 =>
        (readElements (readDatum depth) (enoughFuel rest) true rest).map fun read =>
          (.list read.1, read.2)
    else if byte = 0x7B then
      match depth with
      | 0 => fail .tooDeep rest
      | depth + 1 =>
        (readMembers (readMember (readDatum depth)) (enoughFuel rest) true [] rest).map fun read =>
          (.table read.1, read.2)
    else fail .expectedValue rest

/-- The datum that a text holds. -/
def datum? (text : List UInt8) : Option Datum :=
  (readWholeText (readDatum depthLimit) text).toOption

end RuleVocabulary.Json
