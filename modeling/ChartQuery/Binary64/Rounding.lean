import ChartQuery.Binary64.Basic

/-!
# Rounding to binary64

A positive fraction is rounded to the nearest finite number, a tie to the even
index; a fraction that rounds past the largest number has no result.  All
arithmetic is exact on natural numbers: the fraction is scaled by the power of
two that leaves 53 bits before the point, or by `2^1074` for the smallest
numbers, and the quotient is rounded once.
-/

namespace ChartQuery.Binary64

/-- The quotient rounded to the nearest integer, a tie to the even one. -/
def divideHalfEven (numerator denominator : Nat) : Nat :=
  let quotient := numerator / denominator
  let twice := 2 * (numerator % denominator)
  if twice < denominator then quotient
  else if denominator < twice then quotient + 1
  else quotient + quotient % 2

/-- The whole part of the binary logarithm of a positive fraction. -/
def binaryLog (numerator denominator : Nat) : Int :=
  let guess : Int := (Nat.log2 numerator : Int) - Nat.log2 denominator
  if denominator * Nat.pow 2 guess.toNat ≤ numerator * Nat.pow 2 (-guess).toNat then
    guess
  else guess - 1

/-- The index of the nearest number, which may lie past the finite ones. -/
def nearestIndex (numerator denominator : Nat) : Nat :=
  if numerator = 0 then 0
  else
    let scale : Int := max (binaryLog numerator denominator - 52) (-1074)
    (scale + 1074).toNat * Nat.pow 2 52 +
      divideHalfEven
        (numerator * Nat.pow 2 (-scale).toNat)
        (denominator * Nat.pow 2 scale.toNat)

/-- The nearest number of either sign; `none` past the largest one. -/
def ofFraction? (negative : Bool) (numerator denominator : Nat) :
    Option Binary64 :=
  let index := nearestIndex numerator denominator
  if isFinite : index < 2047 * Nat.pow 2 52 then
    some ⟨negative, index, isFinite⟩
  else none

/-- The nearest number to a natural number; `none` past the largest one. -/
def ofNat? (negative : Bool) (value : Nat) : Option Binary64 :=
  ofFraction? negative value 1

/-- The product of the magnitudes, rounded once, with the first sign. -/
def multiply? (left right : Binary64) : Option Binary64 :=
  ofFraction? left.negative
    (left.numerator * right.numerator)
    (left.denominator * right.denominator)

/-- The quotient of the magnitudes, rounded once, with the first sign. -/
def divide? (left right : Binary64) : Option Binary64 :=
  ofFraction? left.negative
    (left.numerator * right.denominator)
    (left.denominator * right.numerator)

/-- The number nearest to `10 ^ power`. -/
def powerOfTen? (power : Nat) : Option Binary64 := ofNat? false (Nat.pow 10 power)

/--
A decimal fraction rounded once: `digits * 10 ^ power` for a digit string read
as a number.  Powers far outside the range are decided by the count of digits.
-/
def ofDecimal? (negative : Bool) (digits : Nat) (power : Int) :
    Option Binary64 :=
  let length : Int := (Nat.log2 digits : Int)
  if digits = 0 then some (zero.withSign negative)
  else if power < -400 - length then some (zero.withSign negative)
  else if 400 < power then none
  else ofFraction? negative
    (digits * Nat.pow 10 power.toNat) (Nat.pow 10 (-power).toNat)

end ChartQuery.Binary64
