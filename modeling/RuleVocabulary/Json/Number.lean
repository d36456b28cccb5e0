import RuleVocabulary.Decimal.Notation
import RuleVocabulary.Json.Failure

/-!
# Numbers of a JSON text

A number is a whole number if it is written without fraction and exponent and fits into 64 bits;
every other number is a 64-bit binary number. Its digits are collected in 64 bits as long as they
fit, and the result is scaled by exact powers of ten up to `1e308`, one after the other; a number
that is too large on the way is refused. `skipNumber` passes a number nobody wants.
-/

set_option autoImplicit false

namespace RuleVocabulary.Json

/-- A number as read. -/
inductive Number where
  | integer (value : Int)
  | float (value : Float)

namespace Number

/-- How a message describes a number. -/
def found : Number → Found
  | integer value => .integer value
  | float value => .float (Decimal.compact value)

end Number

/-- Whether a byte is a decimal digit. -/
def isDigit (byte : UInt8) : Bool :=
  0x30 ≤ byte && byte ≤ 0x39

/-- The values of decimal digits. -/
def digitValues (digits : List UInt8) : List Nat :=
  digits.map fun digit => digit.toNat - 0x30

/-- The exponent of a number: its sign and its digits, and the bytes in front of these. -/
structure Exponent where
  negative : Bool
  digits : List UInt8
  start : List UInt8

/-- The parts of a number behind its sign. -/
structure NumberParts where
  whole : List UInt8
  fraction : Option (List UInt8)
  exponent : Option Exponent

/-- Reads the digits before the point; a zero stands alone. `missing` is the cause where the text
ends too early. -/
def readWhole (missing : Cause) : List UInt8 → Read (List UInt8)
  | [] => fail missing []
  | digit :: rest =>
    if digit = 0x30 then
      if rest.head?.any isDigit then failBehind .invalidNumber rest else .ok ([digit], rest)
    else if isDigit digit then .ok (digit :: rest.takeWhile isDigit, rest.dropWhile isDigit)
    else fail .invalidNumber rest

/-- Reads a point and the digits behind it, if there is a point. -/
def readFraction (missing : Cause) : List UInt8 → Read (Option (List UInt8))
  | 0x2E :: rest =>
    if rest.isEmpty then fail missing []
    else if rest.head?.any isDigit then
      .ok (some (rest.takeWhile isDigit), rest.dropWhile isDigit)
    else failBehind .invalidNumber rest
  | text => .ok (none, text)

/-- Reads an exponent, if there is one. -/
def readExponent (missing : Cause) (text : List UInt8) : Read (Option Exponent) :=
  match text with
  | [] => .ok (none, [])
  | mark :: rest =>
    if mark = 0x65 || mark = 0x45 then
      let negative := rest.head? = some 0x2D
      let digits := if negative || rest.head? = some 0x2B then rest.tail else rest
      match digits with
      | [] => fail missing []
      | digit :: behind =>
        if isDigit digit then
          .ok (some ⟨negative, digits.takeWhile isDigit, digits⟩, digits.dropWhile isDigit)
        else fail .invalidNumber behind
    else .ok (none, text)

/-- Reads the parts of a number from behind its sign. -/
def readParts (missing : Cause) (text : List UInt8) :
    Except Failure (NumberParts × List UInt8) := do
  let (whole, rest) ← readWhole missing text
  let (fraction, rest) ← readFraction missing rest
  let (exponent, rest) ← readExponent missing rest
  return (⟨whole, fraction, exponent⟩, rest)

/-- Passes a number from behind its sign. -/
def skipNumber (text : List UInt8) : Except Failure (List UInt8) :=
  (readParts .invalidNumber text).map (·.2)

/-! ## The value of a number -/

/-- Takes digits into a significand as long as it fits into 64 bits, and counts those left over. -/
def takeDigits (significand : Nat) : List Nat → Nat × Nat
  | [] => (significand, 0)
  | digit :: digits =>
    if significand * 10 + digit < 0x10000000000000000 then
      takeDigits (significand * 10 + digit) digits
    else (significand, digits.length + 1)

/-- A significand scaled by a power of ten, unless it gets too large. Divisions by `1e308` come
first where the exponent is smaller than that; three of them leave nothing. -/
def scale : (fuel : Nat) → Float → Int → Option Float
  | 0, _, _ => some 0.0
  | fuel + 1, value, exponent =>
    if exponent.natAbs ≤ 308 then
      let factor := Float.ofScientific 1 false exponent.natAbs
      if 0 ≤ exponent then
        let scaled := value * factor
        if scaled.isInf then none else some scaled
      else some (value / factor)
    else if value == 0.0 then some value
    else if 0 ≤ exponent then none
    else scale fuel (value / Float.ofScientific 1 false 308) (exponent + 308)

/-- How many digits of an exponent can be read before it exceeds 31 bits, if it does. -/
def exponentLimit? (value count : Nat) : List Nat → Option Nat
  | [] => none
  | digit :: digits =>
    if 0x80000000 ≤ value * 10 + digit then some (count + 1)
    else exponentLimit? (value * 10 + digit) (count + 1) digits

/-- The number of a sequence of digits. -/
def digitsValue (digits : List Nat) : Nat :=
  digits.foldl (fun value digit => value * 10 + digit) 0

/-- A number with a fraction, an exponent, or too many digits. -/
def floatValue (negative : Bool) (parts : NumberParts) (rest : List UInt8) : Read Number :=
  let whole := takeDigits 0 (digitValues parts.whole)
  let fraction := digitValues (parts.fraction.getD [])
  let all := takeDigits whole.1 fraction
  let places : Int := (whole.2 : Int) - ((fraction.length : Int) - all.2)
  let signed (value : Float) : Number := .float (if negative then -value else value)
  let scaled (exponent : Int) : Read Number :=
    match scale 5 (Float.ofNat all.1) exponent with
    | some value => .ok (signed value, rest)
    | none => fail .numberOutOfRange rest
  match parts.exponent with
  | none => scaled places
  | some exponent =>
    let digits := digitValues exponent.digits
    match exponentLimit? 0 0 digits with
    | some count =>
      if all.1 ≠ 0 && !exponent.negative then fail .numberOutOfRange (exponent.start.drop count)
      else .ok (signed 0.0, rest)
    | none =>
      let raised : Int := digitsValue digits
      scaled (if exponent.negative then places - raised else places + raised)

/-- The value of a number with the given sign and parts; `rest` is what follows it. -/
def numberValue (negative : Bool) (parts : NumberParts) (rest : List UInt8) : Read Number :=
  let whole := takeDigits 0 (digitValues parts.whole)
  if parts.fraction.isNone && parts.exponent.isNone && whole.2 = 0 then
    if !negative then .ok (.integer whole.1, rest)
    else if whole.1 ≠ 0 && whole.1 ≤ 0x8000000000000000 then .ok (.integer (-whole.1), rest)
    else .ok (.float (-Float.ofNat whole.1), rest)
  else floatValue negative parts rest

/-- Reads a number from behind its sign. -/
def readNumber (negative : Bool) (text : List UInt8) : Except Failure (Number × List UInt8) := do
  let (parts, rest) ← readParts .endInValue text
  numberValue negative parts rest

end RuleVocabulary.Json
