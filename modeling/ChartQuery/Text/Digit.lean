/-!
# Digits

Decimal digits of ASCII, hexadecimal digits, and the decimal digits of all
scripts.  Every script keeps its ten digits in one run, so the last class is a
table of the places where a zero stands.
-/

namespace ChartQuery.Text

/-- The value of an ASCII decimal digit. -/
def digit? (char : Char) : Option Nat :=
  if '0' ≤ char ∧ char ≤ '9' then some (char.toNat - '0'.toNat) else none

/-- The value of a hexadecimal digit of either case. -/
def hexDigit? (char : Char) : Option Nat :=
  if '0' ≤ char ∧ char ≤ '9' then some (char.toNat - '0'.toNat)
  else if 'a' ≤ char ∧ char ≤ 'f' then some (char.toNat - 'a'.toNat + 10)
  else if 'A' ≤ char ∧ char ≤ 'F' then some (char.toNat - 'A'.toNat + 10)
  else none

/-- The lower-case hexadecimal digit of a value below sixteen. -/
def hexDigit (value : Nat) : Char :=
  if value < 10 then Char.ofNat ('0'.toNat + value)
  else Char.ofNat ('a'.toNat + (value - 10))

/-- The code points of the digit zero in the scripts of Unicode 16. -/
def zeros : List Nat :=
  [0x0030, 0x0660, 0x06F0, 0x07C0, 0x0966, 0x09E6, 0x0A66, 0x0AE6, 0x0B66,
   0x0BE6, 0x0C66, 0x0CE6, 0x0D66, 0x0DE6, 0x0E50, 0x0ED0, 0x0F20, 0x1040,
   0x1090, 0x17E0, 0x1810, 0x1946, 0x19D0, 0x1A80, 0x1A90, 0x1B50, 0x1BB0,
   0x1C40, 0x1C50, 0xA620, 0xA8D0, 0xA900, 0xA9D0, 0xA9F0, 0xAA50, 0xABF0,
   0xFF10, 0x104A0, 0x10D30, 0x10D40, 0x11066, 0x110F0, 0x11136, 0x111D0,
   0x112F0, 0x11450, 0x114D0, 0x11650, 0x116C0, 0x116D0, 0x116DA, 0x11730,
   0x118E0, 0x11950, 0x11BF0, 0x11C50, 0x11D50, 0x11DA0, 0x11F50, 0x16130,
   0x16A60, 0x16AC0, 0x16B50, 0x16D70, 0x1CCF0, 0x1D7CE, 0x1D7D8, 0x1D7E2,
   0x1D7EC, 0x1D7F6, 0x1E140, 0x1E2F0, 0x1E4F0, 0x1E5F1, 0x1E950, 0x1FBF0]

/-- Whether the character is a decimal digit of some script. -/
def isDecimalDigit (char : Char) : Bool :=
  zeros.any (fun first => first ≤ char.toNat && char.toNat < first + 10)

/-- An ASCII digit is a decimal digit. -/
theorem isDecimalDigit_of_digit?
    {char : Char} {value : Nat} (found : digit? char = some value) :
    isDecimalDigit char = true := by
  unfold digit? at found
  split at found
  · rename_i bounds
    have low : 48 ≤ char.toNat := bounds.1
    have high : char.toNat ≤ 57 := bounds.2
    have below : char.toNat < 58 := by omega
    simp [isDecimalDigit, zeros, low, below]
  · simp at found

example : zeros.length = 76 := by decide

/-- The value of a nonempty list of ASCII digits, read in base ten. -/
def natural? : List Char → Option Nat
  | [] => none
  | chars => (chars.mapM digit?).map (fun digits =>
      digits.foldl (fun value digit => 10 * value + digit) 0)

/-- A decimal integer: an optional single sign and one or more ASCII digits. -/
def integer? : List Char → Option Int
  | '+' :: rest => (natural? rest).map Int.ofNat
  | '-' :: rest => (natural? rest).map (fun value => -(value : Int))
  | chars => (natural? chars).map Int.ofNat

/-- A decimal integer that fits 64 bits with a sign. -/
def int64? (text : String) : Option Int :=
  match integer? text.toList with
  | some value =>
      if -9223372036854775808 ≤ value ∧ value < 9223372036854775808 then some value
      else none
  | none => none

end ChartQuery.Text
