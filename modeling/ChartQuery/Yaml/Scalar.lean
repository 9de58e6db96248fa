import ChartQuery.Text.Digit
import ChartQuery.Yaml.Cursor

/-!
# YAML scalars

Plain, single-quoted and double-quoted scalars.  A line end inside a scalar is
folded: alone it becomes a space, with empty lines after it the empty lines
remain.  A plain scalar ends before a comment, before a colon with a gap after
it, and where the indentation falls back.
-/

namespace ChartQuery.Yaml

/-- A scalar that was read: its characters and what comes after it. -/
abbrev Scalar := List Char × Cursor

/-- What separates two words of a scalar. -/
structure Gap where
  /-- The blanks before the first line end. -/
  blanks : List Char
  /-- The line ends, in order. -/
  breaks : List Char

/-- What a gap means inside a scalar. -/
def Gap.fold (gap : Gap) : List Char :=
  match gap.breaks with
  | [] => gap.blanks
  | '\n' :: [] => [' ']
  | '\n' :: more => more
  | first :: more => first :: more

/-- Read a gap; with a least column, a tab left of it after a line end is refused. -/
def readGap (least : Nat) (gap : Gap) (rest : List Char) (line column : Nat) :
    Option (Gap × Cursor) :=
  match rest with
  | [] => some (gap, ⟨[], line, column, !gap.breaks.isEmpty⟩)
  | char :: rest =>
      if isBreak char then
        readGap least ⟨gap.blanks, gap.breaks ++ [char]⟩ rest (line + 1) 0
      else if isBlank char then
        if gap.breaks.isEmpty then
          readGap least ⟨gap.blanks ++ [char], []⟩ rest line (column + 1)
        else if char = '\t' ∧ column < least then none
        else readGap least gap rest line (column + 1)
      else some (gap, ⟨char :: rest, line, column, !gap.breaks.isEmpty⟩)

/-- The gap at a cursor. -/
def Cursor.gap (cursor : Cursor) (least : Nat) : Option (Gap × Cursor) :=
  readGap least ⟨[], []⟩ cursor.rest cursor.line cursor.column

/-! ## Plain scalars -/

/-- The brackets, braces and comma of flow collections. -/
def isFlowMark (char : Char) : Bool :=
  char = ',' || char = '[' || char = ']' || char = '\x7b' || char = '\x7d'

/-- Characters that no plain scalar starts with. -/
def isReserved (char : Char) : Bool :=
  isFlowMark char || char ∈
    ['-', '?', ':', '#', '&', '*', '!', '|', '>', '\'', '"', '%', '@', '\x60']

/-- Whether a plain scalar starts here. -/
def startsPlain (flow : Bool) : List Char → Bool
  | [] => false
  | char :: rest =>
      !atGap [char] &&
        (!isReserved char ||
          (char = '-' && !atGap rest) ||
          (!flow && (char = '?' || char = ':') && !atGap rest))

/--
The characters of a plain scalar up to the next gap or its end.  Inside
brackets a colon right before a mark is refused.
-/
def readWord (flow : Bool) (line column : Nat) : List Char → Option Scalar
  | [] => some ([], ⟨[], line, column, false⟩)
  | char :: rest =>
      if isBlank char ∨ isBreak char ∨ (char = ':' ∧ atGap rest) ∨
          (flow ∧ isFlowMark char) then
        some ([], ⟨char :: rest, line, column, false⟩)
      else if flow ∧ char = ':' ∧
          rest.head?.any (fun mark => isFlowMark mark || mark = '?') then none
      else
        (readWord flow line (column + 1) rest).map
          (fun (word, after) => (char :: word, after))

/-- Read a plain scalar whose further lines start at the least column or later. -/
def readPlain (flow : Bool) (least : Nat) (fuel : Nat) (cursor : Cursor) :
    Option Scalar :=
  match fuel with
  | 0 => none
  | fuel + 1 => do
      let (word, ending) ← readWord flow cursor.line cursor.column cursor.rest
      if !atGap ending.rest then return (word, ending)
      else
        let (gap, after) ← ending.gap least
        if after.atEnd ∨ after.atDocumentMark ∨ after.rest.head? = some '#' ∨
            (!flow ∧ !gap.breaks.isEmpty ∧ after.column < least) then
          return (word, after)
        else
          let (more, last) ← readPlain flow least fuel after
          if more.isEmpty then return (word, after)
          else return (word ++ gap.fold ++ more, last)

/-! ## Quoted scalars -/

/-- Read a single-quoted scalar after its opening quote. -/
def readSingle (fuel : Nat) (cursor : Cursor) : Option Scalar :=
  match fuel with
  | 0 => none
  | fuel + 1 =>
      if cursor.atDocumentMark then none
      else
        match cursor.rest with
        | [] => none
        | '\'' :: '\'' :: rest =>
            (readSingle fuel (cursor.along rest 2)).map
              (fun (chars, after) => ('\'' :: chars, after))
        | '\'' :: rest => some ([], cursor.along rest 1)
        | char :: rest =>
            if isBlank char ∨ isBreak char then do
              let (gap, after) ← cursor.gap 0
              let (chars, last) ← readSingle fuel after
              return (gap.fold ++ chars, last)
            else
              (readSingle fuel (cursor.along rest 1)).map
                (fun (chars, after) => (char :: chars, after))

/-- The character of a one-letter escape. -/
def escaped? (char : Char) : Option Char :=
  match char with
  | '0' => some (Char.ofNat 0)
  | 'a' => some (Char.ofNat 7)
  | 'b' => some (Char.ofNat 8)
  | 't' => some '\t'
  | '\t' => some '\t'
  | 'n' => some '\n'
  | 'v' => some (Char.ofNat 11)
  | 'f' => some (Char.ofNat 12)
  | 'r' => some '\r'
  | 'e' => some (Char.ofNat 27)
  | ' ' => some ' '
  | '"' => some '"'
  | '/' => some '/'
  | '\\' => some '\\'
  | 'N' => some '\u0085'
  | '_' => some '\u00A0'
  | 'L' => some '\u2028'
  | 'P' => some '\u2029'
  | _ => none

/-- The number of hexadecimal digits after an escape letter. -/
def escapeWidth (char : Char) : Nat :=
  if char = 'x' then 2 else if char = 'u' then 4 else if char = 'U' then 8 else 0

/-- The character of a code point written with hexadecimal digits. -/
def codePoint? (digits : List Char) : Option Char := do
  let values ← digits.mapM Text.hexDigit?
  let code := values.foldl (fun code digit => 16 * code + digit) 0
  if 0xD800 ≤ code ∧ code ≤ 0xDFFF ∨ 0x10FFFF < code then none
  else some (Char.ofNat code)

/-- Read an escape after its backslash. -/
def readEscape (rest : List Char) : Option (Char × List Char × Nat) :=
  match rest with
  | [] => none
  | char :: rest =>
      let width := escapeWidth char
      if width = 0 then (escaped? char).map (fun meant => (meant, rest, 2))
      else if rest.length < width then none
      else (codePoint? (rest.take width)).map
        (fun meant => (meant, rest.drop width, width + 2))

/-- Read a double-quoted scalar after its opening quote. -/
def readDouble (fuel : Nat) (cursor : Cursor) : Option Scalar :=
  match fuel with
  | 0 => none
  | fuel + 1 =>
      if cursor.atDocumentMark then none
      else
        match cursor.rest with
        | [] => none
        | '"' :: rest => some ([], cursor.along rest 1)
        | '\\' :: rest =>
            if rest.head?.any isBreak then do
              let (gap, after) ← (cursor.along rest 1).gap 0
              let (chars, last) ← readDouble fuel after
              return (gap.breaks.drop 1 ++ chars, last)
            else do
              let (meant, left, width) ← readEscape rest
              let (chars, last) ← readDouble fuel (cursor.along left width)
              return (meant :: chars, last)
        | char :: rest =>
            if isBlank char ∨ isBreak char then do
              let (gap, after) ← cursor.gap 0
              let (chars, last) ← readDouble fuel after
              return (gap.fold ++ chars, last)
            else
              (readDouble fuel (cursor.along rest 1)).map
                (fun (chars, after) => (char :: chars, after))

end ChartQuery.Yaml
