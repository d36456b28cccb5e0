/-!
# Numbers read from text

What a text means as a number: `integer?` for whole numbers of 64 bits, `float?` for 64-bit binary
numbers. Both take the whole text or nothing, with one sign in front and without blanks. A fraction
becomes the nearest binary number, an infinity if it is too large, and the words `inf`, `infinity`
and `nan` are numbers in any case.
-/

set_option autoImplicit false

namespace RuleVocabulary.Decimal

/-- Whether a text starts with a minus, and the text behind its sign. -/
def splitSign : List Char → Bool × List Char
  | '-' :: rest => (true, rest)
  | '+' :: rest => (false, rest)
  | text => (false, text)

/-- The value of a digit, in lower or upper case. -/
def digitValue (digit : Char) : Nat :=
  if digit.isDigit then digit.toNat - '0'.toNat else digit.toLower.toNat - 'a'.toNat + 10

/-- Whether a character is a digit of a number with the given base. -/
def isDigitOf (base : Nat) (c : Char) : Bool :=
  c.isAlphanum && digitValue c < base

/-- The number that digits of a base stand for. -/
def value (base : Nat) (digits : List Char) : Nat :=
  digits.foldl (fun number digit => number * base + digitValue digit) 0

/-- A whole number of 64 bits, written with the given base. -/
def integerOf? (base : Nat) (text : List Char) : Option Int :=
  let (negative, digits) := splitSign text
  let number : Int := if negative then -value base digits else value base digits
  if !digits.isEmpty && digits.all (isDigitOf base) && -0x8000000000000000 ≤ number &&
      number < 0x8000000000000000 then
    some number
  else none

/-- A whole number of 64 bits. -/
def integer? (text : List Char) : Option Int :=
  integerOf? 10 text

/-- The number too large for all others. -/
def infinity : Float := 1.0 / 0.0

/-- The 64-bit number nearest to the given one, scaled by a power of ten. -/
def nearest (number : Nat) (exponent : Int) : Float :=
  let places : Int := (toString number).length + exponent
  if number = 0 || places < -330 then 0.0
  else if 310 < places then infinity
  else Float.ofScientific number (exponent < 0) exponent.natAbs

/-- The exponent at the end of a number, zero if there is none. -/
def exponent? : List Char → Option Int
  | [] => some 0
  | mark :: text =>
    let (negative, digits) := splitSign text
    if mark.toLower = 'e' && !digits.isEmpty && digits.all Char.isDigit then
      some (if negative then -value 10 digits else value 10 digits)
    else none

/-- A number without sign, with or without point and exponent. -/
def fraction? (text : List Char) : Option Float :=
  let whole := text.takeWhile Char.isDigit
  let rest := text.dropWhile Char.isDigit
  let places := if rest.head? = some '.' then rest.tail.takeWhile Char.isDigit else []
  let rest := if rest.head? = some '.' then rest.tail.dropWhile Char.isDigit else rest
  if whole.isEmpty && places.isEmpty then none
  else
    (exponent? rest).map fun exponent => nearest (value 10 (whole ++ places))
      (exponent - places.length)

/-- A word for a number that no digits stand for. -/
def special? (text : List Char) : Option Float :=
  let word := String.ofList (text.map Char.toLower)
  if word = "inf" || word = "infinity" then some infinity
  else if word = "nan" then some (0.0 / 0.0)
  else none

/-- A 64-bit binary number. -/
def float? (text : List Char) : Option Float :=
  let (negative, magnitude) := splitSign text
  (special? magnitude <|> fraction? magnitude).map fun number =>
    if negative then -number else number

end RuleVocabulary.Decimal
