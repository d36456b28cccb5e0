import RuleVocabulary.Datum.Basic
import RuleVocabulary.Toml.Moment

/-!
# Plain values in TOML

What is neither a string nor between brackets: truth values, whole numbers with one of four bases,
64-bit binary numbers, dates and times. The digits of a number may be grouped by single
underscores, and a decimal number has no leading zeros. A number too large for its kind is refused.
-/

set_option autoImplicit false

namespace RuleVocabulary.Toml

/-- Digits without the underscores between them; each must have a digit on either side. -/
def ungrouped? (isDigit : Char → Bool) : List Char → Option (List Char)
  | [] => none
  | [digit] => if isDigit digit then some [digit] else none
  | digit :: '_' :: rest =>
    if isDigit digit then (ungrouped? isDigit rest).map (digit :: ·) else none
  | digit :: rest => if isDigit digit then (ungrouped? isDigit rest).map (digit :: ·) else none

/-- The digits of a whole number, which starts with a zero only if that is all. -/
def wholeDigits? (text : List Char) : Option (List Char) :=
  match ungrouped? Char.isDigit text with
  | some digits => if digits.head? = some '0' && 1 < digits.length then none else some digits
  | none => none

/-- A number of 64 bits with the given base and no sign. -/
def based? (base : Nat) (text : List Char) : Option Int :=
  (ungrouped? (Decimal.isDigitOf base) text).bind (Decimal.integerOf? base)

/-- A whole number. -/
def integer? (text : List Char) : Option Int :=
  match text with
  | '0' :: 'x' :: rest => based? 16 rest
  | '0' :: 'o' :: rest => based? 8 rest
  | '0' :: 'b' :: rest => based? 2 rest
  | _ =>
    let (negative, magnitude) := Decimal.splitSign text
    (wholeDigits? magnitude).bind fun digits =>
      Decimal.integer? (if negative then '-' :: digits else digits)

/-- Whether a character begins an exponent. -/
def isExponentMark (c : Char) : Bool :=
  c = 'e' || c = 'E'

/-- The exponent of a number; without one it is zero. -/
def exponent? : List Char → Option Int
  | [] => some 0
  | _ :: text =>
    let (negative, magnitude) := Decimal.splitSign text
    (ungrouped? Char.isDigit magnitude).map fun digits =>
      if negative then -Decimal.value 10 digits else Decimal.value 10 digits

/-- The digits behind the point; without a point there are none. -/
def places? : List Char → Option (List Char)
  | [] => some []
  | _ :: text => ungrouped? Char.isDigit text

/-- A number with a point, an exponent or both, without sign. Digits alone are none. -/
def fraction? (text : List Char) : Option Float := do
  let scaled := text.takeWhile (!isExponentMark ·)
  let whole ← wholeDigits? (scaled.takeWhile (· ≠ '.'))
  let places ← places? (scaled.dropWhile (· ≠ '.'))
  let exponent ← exponent? (text.dropWhile (!isExponentMark ·))
  let number := Decimal.nearest (Decimal.value 10 (whole ++ places)) (exponent - places.length)
  if number.isInf || text.all Char.isDigit then none else return number

/-- A 64-bit binary number. -/
def float? (text : List Char) : Option Float :=
  let (negative, magnitude) := Decimal.splitSign text
  let number? :=
    if magnitude = ['i', 'n', 'f'] || magnitude = ['n', 'a', 'n'] then Decimal.special? magnitude
    else fraction? magnitude
  number?.map fun number => if negative then -number else number

/-- The datum of a plain value. -/
def scalar? (text : List Char) : Option Datum :=
  if text = ['t', 'r', 'u', 'e'] then some (.boolean true)
  else if text = ['f', 'a', 'l', 's', 'e'] then some (.boolean false)
  else ((integer? text).map .integer) <|> ((moment? text).map .text) <|> ((float? text).map .float)

/-- The characters of plain values. -/
def isScalarChar (c : Char) : Bool :=
  c.isAlphanum || c = '_' || c = '+' || c = '-' || c = '.' || c = ':'

/-- Reads a plain value. A blank may stand between a date and a time. -/
def readScalar (text : List Char) : Option (Datum × List Char) :=
  let first := text.takeWhile isScalarChar
  let rest := text.dropWhile isScalarChar
  let time := (rest.drop 1).takeWhile isScalarChar
  if rest.head? = some ' ' && (time.head?.map Char.isDigit).getD false
      && ((readDate first).map fun read => read.2.isEmpty).getD false then
    (scalar? (first ++ ' ' :: time)).map (·, (rest.drop 1).dropWhile isScalarChar)
  else (scalar? first).map (·, rest)

end RuleVocabulary.Toml
