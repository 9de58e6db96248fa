import ChartQuery.Binary64.Rounding
import ChartQuery.Text.Digit
import ChartQuery.Toml.Basic

/-!
# TOML scalars

Strings of four kinds, integers in four bases, floats, dates and times, and
keys.  Every reader takes the characters that are left and gives back what
remains behind the scalar.
-/

namespace ChartQuery.Toml

/-- What was read, and the characters behind it. -/
abbrev Found (α : Type) := α × List Char

/-- Drop spaces and tabs. -/
def skipBlanks : List Char → List Char
  | [] => []
  | char :: rest =>
      if char = ' ' ∨ char = '\t' then skipBlanks rest else char :: rest

/-- The characters behind a line end, if one is next. -/
def afterBreak? : List Char → Option (List Char)
  | '\n' :: rest => some rest
  | '\r' :: '\n' :: rest => some rest
  | _ => none

/-! ## Strings -/

/-- Characters that stand for themselves in text: no control character but the tab. -/
def isText (char : Char) : Bool :=
  char = '\t' || (32 ≤ char.toNat && char.toNat ≠ 127)

/-- The character of a one-letter escape. -/
def escaped? (char : Char) : Option Char :=
  match char with
  | 'b' => some (Char.ofNat 8)
  | 't' => some '\t'
  | 'n' => some '\n'
  | 'f' => some (Char.ofNat 12)
  | 'r' => some '\r'
  | '"' => some '"'
  | '\\' => some '\\'
  | _ => none

/-- The character of a code point written with so many hexadecimal digits. -/
def codePoint? (width : Nat) (rest : List Char) : Option (Found Char) := do
  let digits := rest.take width
  let values ← digits.mapM Text.hexDigit?
  let code := values.foldl (fun code digit => 16 * code + digit) 0
  if digits.length < width ∨ 0xD800 ≤ code ∧ code ≤ 0xDFFF ∨ 0x10FFFF < code then
    none
  else return (Char.ofNat code, rest.drop width)

/-- Read an escape after its backslash. -/
def readEscape : List Char → Option (Found Char)
  | [] => none
  | 'u' :: rest => codePoint? 4 rest
  | 'U' :: rest => codePoint? 8 rest
  | char :: rest => (escaped? char).map (fun meant => (meant, rest))

/-- Put a character in front of what is read from the rest. -/
def prepend (char : Char) (more : Option (Found (List Char))) :
    Option (Found (List Char)) :=
  more.map (fun (chars, rest) => (char :: chars, rest))

/-- Read a basic string after its quote. -/
def readBasic (fuel : Nat) (chars : List Char) : Option (Found (List Char)) :=
  match fuel with
  | 0 => none
  | fuel + 1 =>
      match chars with
      | '"' :: rest => some ([], rest)
      | '\\' :: rest => do
          let (meant, rest) ← readEscape rest
          prepend meant (readBasic fuel rest)
      | char :: rest =>
          if isText char then prepend char (readBasic fuel rest) else none
      | [] => none

/-- Read a literal string after its quote. -/
def readLiteral : List Char → Option (Found (List Char))
  | [] => none
  | '\'' :: rest => some ([], rest)
  | char :: rest => if isText char then prepend char (readLiteral rest) else none

/-- Drop blanks and line ends. -/
def skipLines (fuel : Nat) (chars : List Char) : List Char :=
  match fuel with
  | 0 => chars
  | fuel + 1 =>
      match afterBreak? (skipBlanks chars) with
      | some rest => skipLines fuel rest
      | none => skipBlanks chars

/-- The closing of a multi-line string, before which two more quotes may stand. -/
def closing? (quote : Char) : List Char → Option (Found (List Char))
  | a :: b :: c :: rest =>
      if a = quote ∧ b = quote ∧ c = quote then
        match rest with
        | d :: e :: rest =>
            if d = quote ∧ e = quote then some ([quote, quote], rest)
            else if d = quote then some ([quote], e :: rest)
            else some ([], d :: e :: rest)
        | [d] => if d = quote then some ([quote], []) else some ([], [d])
        | [] => some ([], [])
      else none
  | _ => none

/--
Read the rest of a multi-line string.  In a basic one a backslash before a line
end drops the line end and all blanks and line ends after it.
-/
def readMultiline (quote : Char) (fuel : Nat) (chars : List Char) :
    Option (Found (List Char)) :=
  match fuel with
  | 0 => none
  | fuel + 1 =>
      match closing? quote chars with
      | some closed => some closed
      | none =>
          match afterBreak? chars with
          | some rest => prepend '\n' (readMultiline quote fuel rest)
          | none =>
              match chars with
              | [] => none
              | '\\' :: rest =>
                  if quote = '\'' then
                    prepend '\\' (readMultiline quote fuel rest)
                  else
                    match afterBreak? (skipBlanks rest) with
                    | some rest =>
                        readMultiline quote fuel (skipLines rest.length rest)
                    | none => do
                        let (meant, rest) ← readEscape rest
                        prepend meant (readMultiline quote fuel rest)
              | char :: rest =>
                  if isText char then
                    prepend char (readMultiline quote fuel rest)
                  else none

/-- Drop the line end right after the opening of a multi-line string. -/
def dropFirstBreak (chars : List Char) : List Char :=
  (afterBreak? chars).getD chars

/-- Read a string of any kind. -/
def readString : List Char → Option (Found String)
  | '"' :: '"' :: '"' :: rest =>
      (readMultiline '"' (rest.length + 1) (dropFirstBreak rest)).map
        (fun (chars, rest) => (String.ofList chars, rest))
  | '\'' :: '\'' :: '\'' :: rest =>
      (readMultiline '\'' (rest.length + 1) (dropFirstBreak rest)).map
        (fun (chars, rest) => (String.ofList chars, rest))
  | '"' :: rest =>
      (readBasic (rest.length + 1) rest).map
        (fun (chars, rest) => (String.ofList chars, rest))
  | '\'' :: rest =>
      (readLiteral rest).map (fun (chars, rest) => (String.ofList chars, rest))
  | _ => none

/-! ## Keys -/

/-- Characters of keys that need no quotes. -/
def isBare (char : Char) : Bool :=
  ('a' ≤ char && char ≤ 'z') || ('A' ≤ char && char ≤ 'Z') ||
    ('0' ≤ char && char ≤ '9') || char = '-' || char = '_'

/-- Read one part of a key. -/
def readKeyPart (chars : List Char) : Option (Found String) :=
  match chars with
  | '"' :: rest =>
      (readBasic (rest.length + 1) rest).map
        (fun (chars, rest) => (String.ofList chars, rest))
  | '\'' :: rest =>
      (readLiteral rest).map (fun (chars, rest) => (String.ofList chars, rest))
  | chars =>
      let bare := chars.takeWhile isBare
      if bare.isEmpty then none
      else some (String.ofList bare, chars.drop bare.length)

/-- The parts and levels that a text may nest. -/
def nestingLimit : Nat := 80

/-- Read a key: parts with dots between them. -/
def readKey (fuel : Nat) (chars : List Char) : Option (Found (List String)) :=
  match fuel with
  | 0 => none
  | fuel + 1 => do
      let (part, rest) ← readKeyPart (skipBlanks chars)
      match skipBlanks rest with
      | '.' :: rest =>
          let (more, rest) ← readKey fuel rest
          return (part :: more, rest)
      | rest => return ([part], rest)

/-! ## Numbers -/

/-- Read the further digits of a base; a single underscore may separate two. -/
def readMoreDigits (digit? : Char → Option Nat) :
    List Char → Option (Found (List Nat))
  | [] => some ([], [])
  | '_' :: char :: rest =>
      match digit? char with
      | some value =>
          (readMoreDigits digit? rest).map (fun (more, rest) => (value :: more, rest))
      | none => none
  | char :: rest =>
      match digit? char with
      | some value =>
          (readMoreDigits digit? rest).map (fun (more, rest) => (value :: more, rest))
      | none => if char = '_' then none else some ([], char :: rest)

/-- Read digits of a base, at least one. -/
def readDigits (digit? : Char → Option Nat) (chars : List Char) :
    Option (Found (List Nat)) :=
  match chars with
  | [] => none
  | char :: rest => do
      let value ← digit? char
      let (more, rest) ← readMoreDigits digit? rest
      return (value :: more, rest)

/-- The number that digits of a base write. -/
def ofDigits (base : Nat) (digits : List Nat) : Nat :=
  digits.foldl (fun value digit => base * value + digit) 0

/-- An integer that fits 64 bits with a sign. -/
def int64? (value : Int) : Option Int64 :=
  if -9223372036854775808 ≤ value ∧ value < 9223372036854775808 then
    some (Int64.ofInt value)
  else none

/-- Read the digits after a base mark. -/
def readBase (base : Nat) (chars : List Char) : Option (Found Toml) := do
  let digit? (char : Char) : Option Nat :=
    (Text.hexDigit? char).filter (fun value => value < base)
  let (digits, rest) ← readDigits digit? chars
  let value ← int64? (ofDigits base digits)
  return (.integer value, rest)

/-- Read an optional sign; `true` for a minus. -/
def readSign : List Char → Bool × List Char
  | '-' :: rest => (true, rest)
  | '+' :: rest => (false, rest)
  | chars => (false, chars)

/-- Read the digits of a whole part: a lone zero, or no zero in front. -/
def readWhole (chars : List Char) : Option (Found (List Nat)) :=
  match chars with
  | '0' :: rest => some ([0], rest)
  | chars => readDigits Text.digit? chars

/-- Read an exponent, if its mark is next. -/
def readExponent (chars : List Char) : Option (Found (Option Int)) :=
  match chars with
  | mark :: rest =>
      if mark = 'e' ∨ mark = 'E' then do
        let (down, rest) := readSign rest
        let (digits, rest) ← readDigits Text.digit? rest
        let size : Int := ofDigits 10 digits
        return (some (if down then -size else size), rest)
      else some (none, chars)
  | [] => some (none, [])

/-- Read the digits after a point, if one is next. -/
def readFraction (chars : List Char) : Option (Found (Option (List Nat))) :=
  match chars with
  | '.' :: rest => do
      let (digits, rest) ← readDigits Text.digit? rest
      return (some digits, rest)
  | chars => some (none, chars)

/--
The float nearest to a decimal; past the range a negative one is infinite and a
positive one is refused.
-/
def floatOf (negative : Bool) (digits : List Nat) (power : Int) : Option Toml :=
  match Binary64.ofDecimal? negative (ofDigits 10 digits) power with
  | some value => some (.float (some value))
  | none => if negative then some (.float none) else none

/-- Read a decimal number: an integer, or a float if a point or exponent follows. -/
def readDecimal (chars : List Char) : Option (Found Toml) := do
  let (negative, rest) := readSign chars
  let (whole, rest) ← readWhole rest
  let (fraction, rest) ← readFraction rest
  let (exponent, rest) ← readExponent rest
  match fraction, exponent with
  | none, none =>
      let magnitude : Int := ofDigits 10 whole
      let value ← int64? (if negative then -magnitude else magnitude)
      return (.integer value, rest)
  | fraction, exponent =>
      let fraction := fraction.getD []
      let float ← floatOf negative (whole ++ fraction)
        (exponent.getD 0 - fraction.length)
      return (float, rest)

/-- Read a number of any kind. -/
def readNumber (chars : List Char) : Option (Found Toml) :=
  match chars with
  | '0' :: 'x' :: rest => readBase 16 rest
  | '0' :: 'o' :: rest => readBase 8 rest
  | '0' :: 'b' :: rest => readBase 2 rest
  | chars =>
      match (readSign chars).2 with
      | 'i' :: 'n' :: 'f' :: rest => some (.float none, rest)
      | 'n' :: 'a' :: 'n' :: rest => some (.float none, rest)
      | _ => readDecimal chars

/-! ## Dates and times -/

/-- A number written with exactly so many digits, between two bounds. -/
def readField (width low high : Nat) (chars : List Char) : Option (Found Nat) := do
  let digits := chars.take width
  if digits.length < width then none
  else
    let value ← Text.natural? digits
    if low ≤ value ∧ value ≤ high then some (value, chars.drop width) else none

/-- Read one character. -/
def readMark (mark : Char) : List Char → Option (List Char)
  | char :: rest => if char = mark then some rest else none
  | [] => none

/-- A number with zeros in front up to a width. -/
def padded (width value : Nat) : String :=
  "".pushn '0' (width - value.repr.length) ++ value.repr

/-- The number of days of a month. -/
def daysOf (year month : Nat) : Nat :=
  if month = 2 then
    if year % 4 = 0 ∧ (year % 100 ≠ 0 ∨ year % 400 = 0) then 29 else 28
  else if month ∈ [4, 6, 9, 11] then 30
  else 31

/-- Read a date and give its text. -/
def readDate (chars : List Char) : Option (Found String) := do
  let (year, rest) ← readField 4 0 9999 chars
  let rest ← readMark '-' rest
  let (month, rest) ← readField 2 1 12 rest
  let rest ← readMark '-' rest
  let (day, rest) ← readField 2 1 (daysOf year month) rest
  return (padded 4 year ++ "-" ++ padded 2 month ++ "-" ++ padded 2 day, rest)

/-- The text of a fraction of a second: nine digits at most, no zeros at the end. -/
def fractionText (digits : List Char) : String :=
  let kept := ((digits.take 9).reverse.dropWhile (fun char => char = '0')).reverse
  if kept.isEmpty then "" else "." ++ String.ofList kept

/-- Read a time of day and give its text. -/
def readTime (chars : List Char) : Option (Found String) := do
  let (hour, rest) ← readField 2 0 23 chars
  let rest ← readMark ':' rest
  let (minute, rest) ← readField 2 0 59 rest
  let rest ← readMark ':' rest
  let (second, rest) ← readField 2 0 60 rest
  let text := padded 2 hour ++ ":" ++ padded 2 minute ++ ":" ++ padded 2 second
  match rest with
  | '.' :: rest =>
      let digits := rest.takeWhile (fun char => (Text.digit? char).isSome)
      if digits.isEmpty then none
      else return (text ++ fractionText digits, rest.drop digits.length)
  | rest => return (text, rest)

/-- Read an offset from UTC, if one is next, and give its text. -/
def readOffset (chars : List Char) : Option (Found String) :=
  match chars with
  | 'Z' :: rest => some ("Z", rest)
  | 'z' :: rest => some ("Z", rest)
  | sign :: rest =>
      if sign = '+' ∨ sign = '-' then do
        let (hour, rest) ← readField 2 0 23 rest
        let rest ← readMark ':' rest
        let (minute, rest) ← readField 2 0 59 rest
        let west := sign = '-' ∧ (hour ≠ 0 ∨ minute ≠ 0)
        return ((if west then "-" else "+") ++ padded 2 hour ++ ":" ++
          padded 2 minute, rest)
      else some ("", chars)
  | [] => some ("", [])

/-- Read the time that may follow a date. -/
def readTimeAfterDate (chars : List Char) : Option (Found String) :=
  match chars with
  | mark :: rest =>
      if mark = 'T' ∨ mark = 't' ∨ mark = ' ' then
        match readTime rest with
        | some (time, rest) =>
            (readOffset rest).map (fun (offset, rest) =>
              ("T" ++ time ++ offset, rest))
        | none => some ("", chars)
      else some ("", chars)
  | [] => some ("", [])

/-- Whether a date or a time of day starts here. -/
def startsDateTime : List Char → Bool
  | a :: b :: c :: rest =>
      let isDigit (char : Char) : Bool := (Text.digit? char).isSome
      (isDigit a && isDigit b && c = ':') ||
        match rest with
        | d :: e :: _ => isDigit a && isDigit b && isDigit c && isDigit d && e = '-'
        | _ => false
  | _ => false

/-- Read a date, a time of day, or both. -/
def readDateTime (chars : List Char) : Option (Found Toml) :=
  match readTime chars with
  | some (time, rest) => some (.dateTime time, rest)
  | none => do
      let (date, rest) ← readDate chars
      let (time, rest) ← readTimeAfterDate rest
      return (.dateTime (date ++ time), rest)

end ChartQuery.Toml
