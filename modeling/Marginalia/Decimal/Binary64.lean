/-!
# Binary numbers of 53 bits

Decimal numbers are rounded to the nearest number of the form
`significand · 2 ^ exponent` with a significand of at most 53 bits, and such
a number is written with the fewest decimal digits that round back to it. All
arithmetic is on whole numbers.
-/

namespace Marginalia

/-- The number `digits · 10 ^ exponent`. -/
structure Decimal where
  digits : Nat
  exponent : Int
  deriving DecidableEq

/-- The number `significand · 2 ^ exponent`. -/
structure Binary64 where
  significand : Nat
  exponent : Int
  deriving DecidableEq

/-- A positive fraction of whole numbers. -/
structure Ratio where
  numerator : Nat
  denominator : Nat

namespace Ratio

/-- The fraction `factor · base ^ exponent`. -/
def scaled (factor base : Nat) : Int → Ratio
  | .ofNat exponent => ⟨factor * base.pow exponent, 1⟩
  | .negSucc exponent => ⟨factor, base.pow (exponent + 1)⟩

def dividedBy (left right : Ratio) : Ratio :=
  ⟨left.numerator * right.denominator, left.denominator * right.numerator⟩

def floor (ratio : Ratio) : Nat :=
  ratio.numerator / ratio.denominator

/-- The nearest whole number; a half goes to the even neighbour. -/
def nearest (ratio : Ratio) : Nat :=
  let below := ratio.floor
  let twice := 2 * (ratio.numerator % ratio.denominator)
  if twice < ratio.denominator then below
  else if ratio.denominator < twice then below + 1
  else if below % 2 = 0 then below
  else below + 1

def isBelow (left right : Ratio) : Bool :=
  left.numerator * right.denominator < right.numerator * left.denominator

/-- The exponent of the greatest power of two that is not above a positive
fraction. -/
def binaryExponent (ratio : Ratio) : Int :=
  let estimate : Int :=
    Int.ofNat ratio.numerator.log2 - Int.ofNat ratio.denominator.log2
  if ratio.isBelow (scaled 1 2 estimate) then estimate - 1 else estimate

/-- The least exponent, from `low` on and within a number of steps, of a
power of ten above a fraction. -/
def decimalExponentFrom (ratio : Ratio) : Nat → Int → Int
  | 0, low => low
  | steps + 1, low =>
      if ratio.isBelow (scaled 1 10 low) then low
      else decimalExponentFrom ratio steps (low + 1)

end Ratio

namespace Binary64

def leastExponent : Int := -1074

def greatestExponent : Int := 971

/-- The nearest binary number, unless the decimal number is beyond the
range. -/
def nearest? (decimal : Decimal) : Option Binary64 :=
  let magnitude : Int :=
    Int.ofNat (Nat.toDigits 10 decimal.digits).length + decimal.exponent
  -- Far out of range the answer is known without computing huge powers.
  if decimal.digits = 0 || magnitude < -400 then some ⟨0, leastExponent⟩
  else if 400 < magnitude then none
  else
    let ratio := Ratio.scaled decimal.digits 10 decimal.exponent
    let exponent := max (ratio.binaryExponent - 52) leastExponent
    let significand := (ratio.dividedBy (.scaled 1 2 exponent)).nearest
    let rounded : Binary64 :=
      -- Rounding up may carry into a bit that does not fit.
      if significand = Nat.pow 2 53 then ⟨Nat.pow 2 52, exponent + 1⟩
      else ⟨significand, exponent⟩
    if greatestExponent < rounded.exponent then none else some rounded

def value (number : Binary64) : Ratio :=
  .scaled number.significand 2 number.exponent

/-- Whether a fraction rounds to a binary number: it lies between the
midpoints to the two neighbours, a midpoint itself going to the even one. -/
def isRoundedFrom (number : Binary64) (ratio : Ratio) : Bool :=
  let quarters := 4 * number.significand
  -- Below a power of two the neighbours are half as far apart as above it.
  let isLowestOfBinade :=
    number.significand = Nat.pow 2 52 && leastExponent < number.exponent
  let low := Ratio.scaled (quarters - if isLowestOfBinade then 1 else 2) 2
    (number.exponent - 2)
  let high := Ratio.scaled (quarters + 2) 2 (number.exponent - 2)
  if number.significand % 2 = 0 then
    !ratio.isBelow low && !high.isBelow ratio
  else low.isBelow ratio && ratio.isBelow high

/-- The nearest decimal number on a grid of powers of ten that rounds to a
binary number. -/
def onGrid? (number : Binary64) (unit : Int) : Option Decimal :=
  let scaledValue := number.value.dividedBy (.scaled 1 10 unit)
  let below := scaledValue.floor
  let fits (digits : Nat) : Bool :=
    number.isRoundedFrom (.scaled digits 10 unit)
  match fits below, fits (below + 1) with
  | true, true => some ⟨scaledValue.nearest, unit⟩
  | true, false => some ⟨below, unit⟩
  | false, true => some ⟨below + 1, unit⟩
  | false, false => none

/-- The decimal number with the fewest digits that rounds to a binary number,
from a grid on and within a number of finer grids. -/
def shortestFrom (number : Binary64) : Nat → Int → Decimal
  | 0, unit => ⟨(number.value.dividedBy (.scaled 1 10 unit)).nearest, unit⟩
  | steps + 1, unit =>
      match onGrid? number unit with
      | some decimal => decimal
      | none => shortestFrom number steps (unit - 1)

/-- The decimal number with the fewest digits that rounds to a binary
number. -/
def shortest (number : Binary64) : Decimal :=
  if number.significand = 0 then ⟨0, 0⟩
  else
    let exponent := number.value.decimalExponentFrom 700 (-330)
    -- Seventeen digits tell any two numbers of 53 bits apart.
    shortestFrom number 17 (exponent - 1)

end Binary64

end Marginalia
