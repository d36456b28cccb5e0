import RuleVocabulary.Decimal.Shortest

/-!
# Written numbers

Two notations for 64-bit numbers. `positional` never uses an exponent and writes no fraction for a
whole number. `compact` marks every number as fractional, and takes to an exponent, which has a
sign, where more than sixteen places before the point or more than four zeros behind it would be
needed. Of two shortest decimals that are equally near, `positional` writes the greater one, and
`compact` the one with an even last digit.
-/

set_option autoImplicit false

namespace RuleVocabulary.Decimal

/-- A run of zeros. -/
def zeros (count : Int) : String :=
  String.ofList (List.replicate count.toNat '0')

/-- The digits of a number with the point set behind the given count of them. -/
def withPoint (digits : String) (places : Nat) : String :=
  String.ofList (digits.toList.take places) ++ "." ++ String.ofList (digits.toList.drop places)

namespace Scaled

/-- Written with all places and without a needless fraction. -/
def positional (decimal : Scaled) : String :=
  let digits := toString decimal.digits
  let whole : Int := digits.length + decimal.exponent
  if 0 ≤ decimal.exponent then digits ++ zeros decimal.exponent
  else if 0 < whole then withPoint digits whole.toNat
  else "0." ++ zeros (-whole) ++ digits

/-- Written with a point, or with an exponent where the number is very large or very small. -/
def compact (decimal : Scaled) : String :=
  let digits := toString decimal.digits
  let whole : Int := digits.length + decimal.exponent
  if 0 ≤ decimal.exponent ∧ whole ≤ 16 then digits ++ zeros decimal.exponent ++ ".0"
  else if 0 < whole ∧ whole ≤ 16 then withPoint digits whole.toNat
  else if -5 < whole ∧ whole ≤ 0 then "0." ++ zeros (-whole) ++ digits
  else
    (if digits.length = 1 then digits else withPoint digits 1) ++ "e" ++
      (if 0 < whole then "+" else "") ++ toString (whole - 1)

end Scaled

/-- A 64-bit number written by a notation for positive numbers and a text for zero. -/
def written (tie : Tie) (notate : Scaled → String) (zero : String) (value : Float) : String :=
  let bits := value.toBits.toNat
  let magnitude := bits % 0x8000000000000000
  let sign := if bits = magnitude then "" else "-"
  if 0x7FF0000000000000 < magnitude then "NaN"
  else if magnitude = 0x7FF0000000000000 then sign ++ "inf"
  else if magnitude = 0 then sign ++ zero
  else sign ++ notate ((Binary.ofBits magnitude).shortest tie)

/-- A number with all its places. -/
def positional (value : Float) : String :=
  written .up Scaled.positional "0" value

/-- A number that shows that it may have a fraction. -/
def compact (value : Float) : String :=
  written .even Scaled.compact "0.0" value

end RuleVocabulary.Decimal
