import ChartQuery.Binary64.Rounding
import ChartQuery.Binary64.Shortest
import ChartQuery.Text.Digit

/-!
# JSON numbers

A number is an integer between `-2^63` and `2^64 - 1` or a finite binary64
number; the two are different even where they are equal as reals, and `-0` is a
binary64 number.  Reading a literal keeps the digits in a 64-bit significand,
drops the digits that no longer fit, and scales once by the nearest power of
ten, so a literal with many digits need not read as the nearest number.

Text: a binary64 number is written with its shortest digits, positionally for
decimal exponents from `-5` to `15` and otherwise as `d.ddde+XX`, always with a
point or an exponent.
-/

namespace ChartQuery.Json

/-- A JSON number: an integer from `-2^63` to below `2^64`, or a float. -/
inductive Number where
  | integer (value : Int)
      (fits : -9223372036854775808 ≤ value ∧ value < 18446744073709551616)
  | float (value : Binary64)
deriving DecidableEq

/-- A number literal in pieces; digits are values below ten. -/
structure Literal where
  negative : Bool
  whole : List Nat
  fraction : Option (List Nat)
  exponent : Option (Bool × List Nat)

namespace Number

/-- The integer number of a value that fits. -/
def ofInt? (value : Int) : Option Number :=
  if fits : -9223372036854775808 ≤ value ∧ value < 18446744073709551616 then
    some (.integer value fits)
  else none

/-- An unsigned word as a number. -/
def ofUInt64 (word : UInt64) : Number :=
  .integer word.toNat (by have := word.toNat_lt; omega)

/-- A signed word as a number. -/
def ofInt64 (word : Int64) : Number :=
  .integer word.toInt (by
    have low := word.le_toInt
    have high := word.toInt_lt
    omega)

/-- The unsigned word that an integer number is; nothing for a float. -/
def toUInt64? : Number → Option UInt64
  | .integer value _ => if 0 ≤ value then some (UInt64.ofNat value.toNat) else none
  | .float _ => none

/-- The signed word that an integer number is; nothing for a float. -/
def toInt64? : Number → Option Int64
  | .integer value _ =>
      if value < 9223372036854775808 then some (Int64.ofInt value) else none
  | .float _ => none

/-- The nearest binary64 number. -/
def toBinary64 : Number → Binary64
  | .integer value _ =>
      (Binary64.ofNat? (value < 0) value.natAbs).getD Binary64.zero
  | .float value => value

/-! ## Reading -/

/-- Take digits while the significand stays a 64-bit word. -/
def absorb (significand : Nat) : List Nat → Nat × List Nat
  | [] => (significand, [])
  | digit :: rest =>
      if 10 * significand + digit < Nat.pow 2 64 then
        absorb (10 * significand + digit) rest
      else (significand, digit :: rest)

/--
Multiply or divide by the nearest power of ten; powers past `308` are first
brought into range by dividing, and have no result when they are positive.
-/
def scale (number : Binary64) (power : Int) : Option Binary64 :=
  if power.natAbs ≤ 308 then do
    let factor ← Binary64.powerOfTen? power.natAbs
    if 0 ≤ power then number.multiply? factor else number.divide? factor
  else if number.isZero then some number
  else if 0 ≤ power then none
  else do
    let factor ← Binary64.powerOfTen? 308
    let smaller ← number.divide? factor
    scale smaller (power + 308)
termination_by power.natAbs

/-- The float of a significand and a decimal power, rounded step by step. -/
def ofParts? (negative : Bool) (significand : Nat) (power : Int) :
    Option Number := do
  let start ← Binary64.ofNat? negative significand
  return .float (← scale start power)

/-- The value of a literal; nothing past the largest float. -/
def ofLiteral? (literal : Literal) : Option Number :=
  let (significand, dropped) := absorb 0 literal.whole
  match literal.fraction, literal.exponent with
  | none, none =>
      if dropped = [] ∧ ¬(literal.negative ∧ significand = 0) then
        match ofInt? (if literal.negative then -(significand : Int) else significand) with
        | some number => some number
        | none => ofParts? literal.negative significand 0
      else ofParts? literal.negative significand dropped.length
  | fraction?, exponent? =>
      let fraction := fraction?.getD []
      let (significand, left) := absorb significand fraction
      let power : Int :=
        (dropped.length : Int) - (fraction.length - left.length : Nat)
      match exponent? with
      | none => ofParts? literal.negative significand power
      | some (down, digits) =>
          let size : Nat :=
            digits.foldl (fun value digit => 10 * value + digit) (0 : Nat)
          if size < Nat.pow 2 31 then
            ofParts? literal.negative significand
              (if down then power - size else power + size)
          else if significand = 0 ∨ down then
            some (.float (Binary64.zero.withSign literal.negative))
          else none

/-! ## Writing -/

/-- Shortest digits laid out positionally or with an exponent. -/
def layout (form : Binary64.DecimalForm) : String :=
  let exponent := form.leading
  if -5 ≤ exponent ∧ exponent ≤ 15 then form.positional
  else
    form.mantissa ++ "e" ++ (if exponent < 0 then "-" else "+") ++
      exponent.natAbs.repr

/-- The text of a float. -/
def floatText (value : Binary64) : String :=
  (if value.negative then "-" else "") ++ layout (value.shortest .even)

/-- The text of an integer. -/
def integerText (value : Int) : String :=
  (if value < 0 then "-" else "") ++ value.natAbs.repr

/-- The text of a number. -/
def text : Number → String
  | .integer value _ => integerText value
  | .float value => floatText value

end Number

end ChartQuery.Json
