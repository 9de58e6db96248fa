/-!
# Finite binary64 numbers

A finite 64-bit float is a sign and an index.  The index is the 63-bit pattern
below the sign, so indices order the magnitudes: index `0` is zero, the first
`2^52` indices are the subnormal numbers, and every further block of `2^52`
indices doubles the spacing.  The magnitude is `significand * 2 ^ exponent`.

Infinities and not-a-number are no values of this type.  Rounding lives in
`ChartQuery.Binary64.Rounding`, decimal digits in `ChartQuery.Binary64.Shortest`.
-/

namespace ChartQuery

/-- A finite 64-bit floating point number. -/
structure Binary64 where
  /-- The sign bit, also of a zero. -/
  negative : Bool
  /-- The bit pattern below the sign. -/
  index : Nat
  /-- The all-ones exponent is left to infinities. -/
  isFinite : index < 2047 * Nat.pow 2 52
deriving DecidableEq

namespace Binary64

/-- The integer factor of the magnitude. -/
def significand (number : Binary64) : Nat :=
  if number.index < Nat.pow 2 52 then number.index
  else Nat.pow 2 52 + number.index % Nat.pow 2 52

/-- The power of two of the magnitude; `-1074` for the smallest numbers. -/
def exponent (number : Binary64) : Int :=
  if number.index < Nat.pow 2 52 then -1074
  else (number.index / Nat.pow 2 52 : Nat) - 1075

/-- Positive zero. -/
def zero : Binary64 := ⟨false, 0, by decide⟩

/-- The number with its sign replaced. -/
def withSign (negative : Bool) (number : Binary64) : Binary64 :=
  { number with negative }

/-- Whether the number is a zero of either sign. -/
def isZero (number : Binary64) : Bool := number.index = 0

/-- The numerator of the magnitude as a fraction. -/
def numerator (number : Binary64) : Nat :=
  number.significand * Nat.pow 2 number.exponent.toNat

/-- The denominator of the magnitude as a fraction, a power of two. -/
def denominator (number : Binary64) : Nat := Nat.pow 2 (-number.exponent).toNat

/-- The integer that the number equals, if it is one; `-0.0` counts as `0`. -/
def toInt? (number : Binary64) : Option Int :=
  if number.numerator % number.denominator = 0 then
    let magnitude : Int := (number.numerator / number.denominator : Nat)
    some (if number.negative then -magnitude else magnitude)
  else none

end Binary64

end ChartQuery
