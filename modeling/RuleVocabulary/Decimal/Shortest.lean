/-!
# The shortest decimal of a binary number

A 64-bit number stands for every real that rounds to it. Among the decimals that stand for the same
number, the one with the fewest digits is chosen, and of those the nearest; where two are equally
near, a rule decides (`Tie`). All arithmetic is exact and on natural numbers: a value is
`significand * 2 ^ exponent`, a decimal `digits * 10 ^ exponent`, and the two are compared by
multiplying crosswise.
-/

set_option autoImplicit false

namespace RuleVocabulary.Decimal

/-- A positive finite number, and whether the number below it is only half as far away as the one
above. -/
structure Binary where
  significand : Nat
  exponent : Int
  narrowBelow : Bool
deriving DecidableEq, Repr

/-- Which of two decimals is chosen that are equally near to a number. -/
inductive Tie where
  /-- The greater one. -/
  | up
  /-- The one with an even last digit. -/
  | even
deriving DecidableEq, Repr

/-- A natural number of powers of ten. -/
structure Scaled where
  digits : Nat
  exponent : Int
deriving DecidableEq, Repr

/-- The power of a base with a positive exponent; one for a negative exponent. -/
def power (base : Nat) (exponent : Int) : Nat :=
  Nat.pow base exponent.toNat

namespace Binary

/-- The finite, positive number with the given bits, its sign aside. -/
def ofBits (bits : Nat) : Binary :=
  let raised : Nat := bits / 0x10000000000000 % 0x800
  let fraction : Nat := bits % 0x10000000000000
  if raised = 0 then ⟨fraction, -1074, false⟩
  else ⟨0x10000000000000 + fraction, (raised : Int) - 1075, fraction = 0 && 1 < raised⟩

/-- How a decimal compares with a quarter multiple of the number's unit. -/
def compareQuarters (number : Binary) (decimal : Scaled) (quarters : Nat) : Ordering :=
  compare
    (decimal.digits * power 10 decimal.exponent * 4 * power 2 (-number.exponent))
    (quarters * power 2 number.exponent * power 10 (-decimal.exponent))

/-- Whether a decimal rounds to the number: it lies between the halfway points to both neighbours,
which themselves belong to the number with the even significand. -/
def readsBack (number : Binary) (decimal : Scaled) : Bool :=
  let least := 4 * number.significand - (if number.narrowBelow then 1 else 2)
  let greatest := 4 * number.significand + 2
  let above := number.compareQuarters decimal least
  let below := number.compareQuarters decimal greatest
  if number.significand % 2 = 0 then above != .lt && below != .gt
  else above == .gt && below == .lt

/-- The exponent of the leading digit. -/
def leadingExponent (number : Binary) : Int :=
  let guess := Int.fdiv ((Nat.log2 number.significand + number.exponent) * 30103) 100000
  let next : Scaled := ⟨1, guess + 1⟩
  if number.compareQuarters next (4 * number.significand) == .gt then guess else guess + 1

/-- The greatest multiple of a power of ten that does not exceed the number. -/
def floorAt (number : Binary) (exponent : Int) : Scaled :=
  ⟨number.significand * power 2 number.exponent * power 10 (-exponent) /
    (power 2 (-number.exponent) * power 10 exponent), exponent⟩

/-- Of the two neighbours on a decimal grid, the nearer one that reads back. -/
def onGrid? (tie : Tie) (number : Binary) (exponent : Int) : Option Scaled :=
  let low := number.floorAt exponent
  let high : Scaled := ⟨low.digits + 1, exponent⟩
  match number.readsBack low, number.readsBack high with
  | true, true =>
    let middle : Scaled := ⟨2 * low.digits + 1, exponent⟩
    match number.compareQuarters middle (8 * number.significand) with
    | .lt => some high
    | .gt => some low
    | .eq => some (if tie = .even && low.digits % 2 = 0 then low else high)
  | true, false => some low
  | false, true => some high
  | false, false => none

end Binary

/-- Without the zeros at the end of its digits. -/
def Scaled.normalized (decimal : Scaled) : (fuel : Nat) → Scaled
  | 0 => decimal
  | fuel + 1 =>
    if decimal.digits ≠ 0 ∧ decimal.digits % 10 = 0 then
      Scaled.normalized ⟨decimal.digits / 10, decimal.exponent + 1⟩ fuel
    else decimal

/-- The decimal with the fewest digits that reads back as the number. Seventeen always suffice. -/
def Binary.shortest (tie : Tie) (number : Binary) : Scaled :=
  let leading := number.leadingExponent
  let grids := (List.range 17).map fun (finer : Nat) => leading - finer
  let found := (grids.findSome? (number.onGrid? tie)).getD (number.floorAt (leading - 16))
  found.normalized 20

end RuleVocabulary.Decimal
