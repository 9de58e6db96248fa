import ChartQuery.Binary64.Basic

/-!
# The shortest decimal digits of a binary64 number

The reals that round to a number form an interval around it, closed when the
index is even.  The shortest decimal in that interval is found grid by grid:
on the grid of `n` significant digits only the two neighbours of the number can
be the nearest hit, so they are tested for `n = 1, 2, ..., 17` in exact
arithmetic, and the first grid with a hit wins.  Of two hits the nearer one is
taken; of two equally near ones, as `1125899906842624.25` has them, the writer
of the number chooses.
-/

namespace ChartQuery.Binary64

/-- A decimal `digits * 10 ^ power` without sign. -/
structure DecimalForm where
  digits : Nat
  power : Int
deriving DecidableEq, Repr

/-- Which of two equally near decimals is taken. -/
inductive Tie where
  /-- The one with an even last digit. -/
  | even
  /-- The larger one. -/
  | up
deriving DecidableEq

/-- Whether the one after `floor` is taken of two equally near decimals. -/
def Tie.takesUpper (tie : Tie) (floor : Nat) : Bool :=
  match tie with
  | .even => floor % 2 = 1
  | .up => true

/--
Lower and upper end of the rounding interval in quarters of `2 ^ exponent`.
Below a power of two the spacing halves, so the lower end is nearer there.
-/
def interval (number : Binary64) : Nat × Nat :=
  let quarters := 4 * number.significand
  let below :=
    if number.index % Nat.pow 2 52 = 0 ∧ Nat.pow 2 53 ≤ number.index then 1 else 2
  (quarters - below, quarters + 2)

/-- Whether the ends of the interval round to the number. -/
def closed (number : Binary64) : Bool := number.index % 2 = 0

/-- Whether `candidate * 10 ^ power` rounds to the number. -/
def contains (number : Binary64) (candidate : Nat) (power : Int) : Bool :=
  let (low, high) := number.interval
  let scaled :=
    candidate * Nat.pow 10 power.toNat * 4 * Nat.pow 2 (-number.exponent).toNat
  let unit := Nat.pow 10 (-power).toNat * Nat.pow 2 number.exponent.toNat
  if number.closed then low * unit ≤ scaled && scaled ≤ high * unit
  else low * unit < scaled && scaled < high * unit

/-- The position of the first decimal digit of a positive fraction. -/
def decimalLog (numerator denominator : Nat) : Int :=
  if denominator ≤ numerator then
    ((Nat.toDigits 10 (numerator / denominator)).length : Int) - 1
  else
    match (List.range 400).find? (fun places =>
        denominator ≤ numerator * Nat.pow 10 places) with
    | some places => -places
    | none => -400

/-- The nearer neighbour on the grid `10 ^ power` that rounds to the number. -/
def neighbour? (tie : Tie) (number : Binary64) (power : Int) : Option Nat :=
  let scaledNumerator := number.numerator * Nat.pow 10 (-power).toNat
  let scaledDenominator := number.denominator * Nat.pow 10 power.toNat
  let floor := scaledNumerator / scaledDenominator
  let twice := 2 * (scaledNumerator % scaledDenominator)
  let upperFirst :=
    scaledDenominator < twice ∨
      (scaledDenominator = twice ∧ tie.takesUpper floor)
  let ordered := if upperFirst then [floor + 1, floor] else [floor, floor + 1]
  ordered.find? (fun candidate => number.contains candidate power)

/-- Remove trailing zeros from the digits; the power grows in step. -/
def DecimalForm.trim (fuel : Nat) (form : DecimalForm) : DecimalForm :=
  match fuel with
  | 0 => form
  | fuel + 1 =>
      if form.digits ≠ 0 ∧ form.digits % 10 = 0 then
        DecimalForm.trim fuel ⟨form.digits / 10, form.power + 1⟩
      else form

/-- The shortest decimal that reads back as the number; of zero, `0`. -/
def shortest (tie : Tie) (number : Binary64) : DecimalForm :=
  if number.isZero then ⟨0, 0⟩
  else
    let first := decimalLog number.numerator number.denominator
    let hit? := (List.range 17).findSome? (fun (count : Nat) =>
      let power := first - count
      (neighbour? tie number power).map (fun digits =>
        DecimalForm.mk digits power))
    (hit?.getD ⟨number.numerator, 0⟩).trim 20

/-! ## Layout of digits -/

/-- The decimal exponent of the first digit. -/
def DecimalForm.leading (form : DecimalForm) : Int :=
  form.power + form.digits.repr.length - 1

/-- The digits around a decimal point, with `.0` where no fraction is left. -/
def DecimalForm.positional (form : DecimalForm) : String :=
  let digits := form.digits.repr
  if form.leading < 0 then
    "0." ++ "".pushn '0' (-form.leading - 1).toNat ++ digits
  else if 0 ≤ form.power then
    digits ++ "".pushn '0' form.power.toNat ++ ".0"
  else
    let point := (form.leading + 1).toNat
    (digits.take point).toString ++ "." ++ (digits.drop point).toString

/-- The digits with a point after the first one. -/
def DecimalForm.mantissa (form : DecimalForm) : String :=
  let digits := form.digits.repr
  if digits.length = 1 then digits
  else (digits.take 1).toString ++ "." ++ (digits.drop 1).toString

end ChartQuery.Binary64
