import ChartQuery.Json.Basic

/-!
# Reading JSON text

A text is read strictly: no comments, no trailing commas, no leading zeros, no
raw control characters in strings, surrogates only in pairs, at most 127 nested
arrays and objects, nothing after the value but white space.

A `Plan` says which members of a document are read and which objects in it are
free-form.  Other members are passed over: they have to be well formed, but
their depth, the size of their numbers and the pairing of their surrogates do
not matter, because nothing is built from them.  In a free-form object a
repeated key keeps its first place and its last value; in any other object all
members are kept as they are written.
-/

namespace ChartQuery.Json

/-- What is read and how, as the places of a walk through the document. -/
structure Plan (σ : Type) where
  /-- The place of a member's value, or nothing to pass the member over. -/
  member : σ → String → Option σ
  /-- The place of the element of an array at a position. -/
  element : σ → Nat → σ
  /-- Whether an object in this place is free-form. -/
  isFree : σ → Bool
  /-- Whether the keys of an object in this place are written without escapes. -/
  isBare : σ → Bool := fun _ => false

/-- The whole document is free-form. -/
def Plan.free : Plan Unit where
  member _ _ := some ()
  element _ _ := ()
  isFree _ := true

namespace Reader

/-- Drop the white space in front. -/
def skipSpace : List Char → List Char
  | [] => []
  | char :: rest =>
      if char = ' ' ∨ char = '\n' ∨ char = '\t' ∨ char = '\r' then skipSpace rest
      else char :: rest

/-! ## Strings -/

/-- The code unit of four hexadecimal digits. -/
def codeUnit? (first second third fourth : Char) : Option Nat := do
  let a ← Text.hexDigit? first
  let b ← Text.hexDigit? second
  let c ← Text.hexDigit? third
  let d ← Text.hexDigit? fourth
  return ((a * 16 + b) * 16 + c) * 16 + d

/-- The character of a one-letter escape. -/
def shortEscape? (char : Char) : Option Char :=
  if char = '"' then some '"'
  else if char = '\\' then some '\\'
  else if char = '/' then some '/'
  else if char = 'b' then some (Char.ofNat 8)
  else if char = 'f' then some (Char.ofNat 12)
  else if char = 'n' then some '\n'
  else if char = 'r' then some '\r'
  else if char = 't' then some '\t'
  else none

/-- Put a character in front of what is read from the rest. -/
def prepend (char : Char) :
    Option (List Char × List Char) → Option (List Char × List Char) :=
  Option.map (fun (chars, rest) => (char :: chars, rest))

/-- Read a string after its opening quote. -/
def string? : List Char → Option (List Char × List Char)
  | [] => none
  | '"' :: rest => some ([], rest)
  | '\\' :: 'u' :: a :: b :: c :: d :: '\\' :: 'u' :: e :: f :: g :: h :: rest =>
      match codeUnit? a b c d with
      | none => none
      | some unit =>
          if 0xD800 ≤ unit ∧ unit ≤ 0xDBFF then
            match codeUnit? e f g h with
            | none => none
            | some low =>
                if 0xDC00 ≤ low ∧ low ≤ 0xDFFF then
                  prepend
                    (Char.ofNat (0x10000 + (unit - 0xD800) * 0x400 + (low - 0xDC00)))
                    (string? rest)
                else none
          else if 0xDC00 ≤ unit ∧ unit ≤ 0xDFFF then none
          else
            prepend (Char.ofNat unit)
              (string? ('\\' :: 'u' :: e :: f :: g :: h :: rest))
  | '\\' :: 'u' :: a :: b :: c :: d :: rest =>
      match codeUnit? a b c d with
      | none => none
      | some unit =>
          if 0xD800 ≤ unit ∧ unit ≤ 0xDFFF then none
          else prepend (Char.ofNat unit) (string? rest)
  | '\\' :: char :: rest =>
      match shortEscape? char with
      | some meant => prepend meant (string? rest)
      | none => none
  | char :: rest =>
      if char.toNat < 32 ∨ char = '\\' then none else prepend char (string? rest)

/-- Read a key after its opening quote; a bare one is written without escapes. -/
def key? (bare : Bool) (chars : List Char) : Option (List Char × List Char) :=
  match string? chars with
  | none => none
  | some (key, rest) =>
      if bare ∧ chars.take key.length ≠ key then none else some (key, rest)

/-- Pass over a string after its opening quote. -/
def passString? : List Char → Option (List Char)
  | [] => none
  | '"' :: rest => some rest
  | '\\' :: 'u' :: a :: b :: c :: d :: rest =>
      if (codeUnit? a b c d).isSome then passString? rest else none
  | '\\' :: char :: rest =>
      if (shortEscape? char).isSome then passString? rest else none
  | char :: rest =>
      if char.toNat < 32 ∨ char = '\\' then none else passString? rest

/-! ## Numbers -/

/-- The ASCII digits in front and what follows them. -/
def digits : List Char → List Nat × List Char
  | [] => ([], [])
  | char :: rest =>
      match Text.digit? char with
      | some value =>
          let (more, left) := digits rest
          (value :: more, left)
      | none => ([], char :: rest)

/-- The digits after a point, at least one. -/
def fraction? : List Char → Option (Option (List Nat) × List Char)
  | '.' :: rest =>
      match digits rest with
      | ([], _) => none
      | (found, left) => some (some found, left)
  | chars => some (none, chars)

/-- The sign and digits after an exponent mark; `true` for a negative one. -/
def exponent? : List Char → Option (Option (Bool × List Nat) × List Char)
  | mark :: rest =>
      if mark = 'e' ∨ mark = 'E' then
        let (down, rest) := match rest with
          | '+' :: rest => (false, rest)
          | '-' :: rest => (true, rest)
          | rest => (false, rest)
        match digits rest with
        | ([], _) => none
        | (found, left) => some (some (down, found), left)
      else some (none, mark :: rest)
  | [] => some (none, [])

/-- A number literal: no leading zero, digits on both sides of a point. -/
def literal? (chars : List Char) : Option (Literal × List Char) := do
  let (negative, rest) := match chars with
    | '-' :: rest => (true, rest)
    | rest => (false, rest)
  let (whole, rest) := digits rest
  if whole = [] ∨ (whole.head? = some 0 ∧ 1 < whole.length) then none
  else
    let (fraction, rest) ← fraction? rest
    let (exponent, rest) ← exponent? rest
    return (⟨negative, whole, fraction, exponent⟩, rest)

/-! ## Values -/

mutual
/-- Pass over one value. -/
def passValue (fuel : Nat) (chars : List Char) : Option (List Char) :=
  match fuel with
  | 0 => none
  | fuel + 1 =>
      match skipSpace chars with
      | 'n' :: 'u' :: 'l' :: 'l' :: rest => some rest
      | 't' :: 'r' :: 'u' :: 'e' :: rest => some rest
      | 'f' :: 'a' :: 'l' :: 's' :: 'e' :: rest => some rest
      | '"' :: rest => passString? rest
      | '[' :: rest =>
          match skipSpace rest with
          | ']' :: rest => some rest
          | rest => passElements fuel rest
      | '\x7b' :: rest =>
          match skipSpace rest with
          | '\x7d' :: rest => some rest
          | rest => passMembers fuel rest
      | rest => (literal? rest).map Prod.snd

/-- Pass over the elements of an array up to its closing bracket. -/
def passElements (fuel : Nat) (chars : List Char) : Option (List Char) :=
  match fuel with
  | 0 => none
  | fuel + 1 =>
      match passValue fuel chars with
      | none => none
      | some rest =>
          match skipSpace rest with
          | ',' :: rest => passElements fuel rest
          | ']' :: rest => some rest
          | _ => none

/-- Pass over the members of an object up to its closing brace. -/
def passMembers (fuel : Nat) (chars : List Char) : Option (List Char) :=
  match fuel with
  | 0 => none
  | fuel + 1 =>
      match skipSpace chars with
      | '"' :: rest =>
          match (passString? rest).map skipSpace with
          | some (':' :: rest) =>
              match (passValue fuel rest).map skipSpace with
              | some (',' :: rest) => passMembers fuel rest
              | some ('\x7d' :: rest) => some rest
              | _ => none
          | _ => none
      | _ => none
end

variable {σ : Type}

mutual
/-- Read one value that may hold `depth` more levels. -/
def value (plan : Plan σ) (fuel depth : Nat) (state : σ) (chars : List Char) :
    Option (Json × List Char) :=
  match fuel with
  | 0 => none
  | fuel + 1 =>
      match skipSpace chars with
      | 'n' :: 'u' :: 'l' :: 'l' :: rest => some (.null, rest)
      | 't' :: 'r' :: 'u' :: 'e' :: rest => some (.bool true, rest)
      | 'f' :: 'a' :: 'l' :: 's' :: 'e' :: rest => some (.bool false, rest)
      | '"' :: rest =>
          (string? rest).map (fun (text, rest) =>
            (.string (String.ofList text), rest))
      | '[' :: rest =>
          if depth = 0 then none
          else
            match skipSpace rest with
            | ']' :: rest => some (.array [], rest)
            | rest =>
                (elements plan fuel (depth - 1) state 0 rest).map
                  (fun (found, rest) => (.array found, rest))
      | '\x7b' :: rest =>
          if depth = 0 then none
          else
            match skipSpace rest with
            | '\x7d' :: rest => some (.object [], rest)
            | rest =>
                (members plan fuel (depth - 1) state rest).map
                  (fun (found, rest) =>
                    (.object (if plan.isFree state then Keyed.ofList found else found),
                      rest))
      | rest => do
          let (literal, rest) ← literal? rest
          let number ← Number.ofLiteral? literal
          return (.number number, rest)

/-- Read the elements of an array up to its closing bracket. -/
def elements (plan : Plan σ) (fuel depth : Nat) (state : σ)
    (position : Nat) (chars : List Char) : Option (List Json × List Char) :=
  match fuel with
  | 0 => none
  | fuel + 1 =>
      match value plan fuel depth (plan.element state position) chars with
      | none => none
      | some (first, rest) =>
          match skipSpace rest with
          | ',' :: rest =>
              (elements plan fuel depth state (position + 1) rest).map
                (fun (more, rest) => (first :: more, rest))
          | ']' :: rest => some ([first], rest)
          | _ => none

/-- Read the members of an object up to its closing brace. -/
def members (plan : Plan σ) (fuel depth : Nat) (state : σ)
    (chars : List Char) : Option (List (String × Json) × List Char) :=
  match fuel with
  | 0 => none
  | fuel + 1 =>
      match skipSpace chars with
      | '"' :: rest =>
          match key? (plan.isBare state) rest with
          | none => none
          | some (key, rest) =>
              match skipSpace rest with
              | ':' :: rest =>
                  let key := String.ofList key
                  let read? : Option (List (String × Json) × List Char) :=
                    match plan.member state key with
                    | some inner =>
                        (value plan fuel depth inner rest).map
                          (fun (found, rest) => ([(key, found)], rest))
                    | none => (passValue fuel rest).map (fun rest => ([], rest))
                  match read? with
                  | none => none
                  | some (member, rest) =>
                      match skipSpace rest with
                      | ',' :: rest =>
                          (members plan fuel depth state rest).map
                            (fun (more, rest) => (member ++ more, rest))
                      | '\x7d' :: rest => some (member, rest)
                      | _ => none
              | _ => none
      | _ => none
end

end Reader

/-- The levels of arrays and objects that a document may have. -/
def depthLimit : Nat := 127

/-- Read a document by a plan. -/
def readBy? {σ : Type} (plan : Plan σ) (start : σ) (text : String) : Option Json :=
  let chars := text.toList
  match Reader.value plan (2 * chars.length + 2) depthLimit start chars with
  | some (value, rest) => if Reader.skipSpace rest = [] then some value else none
  | none => none

/-- Read a free-form document. -/
def read? (text : String) : Option Json := readBy? Plan.free () text

end ChartQuery.Json
