import ChartQuery.Text.Digit
import ChartQuery.Yaml.Scalar

/-!
# Literal and folded scalars

A scalar behind `|` or `>` is made of the lines that are indented under it.  A
literal scalar keeps its line ends; a folded one reads a line end between two
lines that start with no blank as a space, or drops it if empty lines follow.
The header says what becomes of the last line ends, and how far the lines are
indented; without a digit the first line that is not empty shows it.
-/

namespace ChartQuery.Yaml

/-- What becomes of the line ends behind the last line. -/
inductive Tail where
  | strip
  | clip
  | keep
deriving DecidableEq

/-- The mark of a tail. -/
def Tail.ofMark? : Char → Option Tail
  | '-' => some .strip
  | '+' => some .keep
  | _ => none

/-- The mark of a tail in front, if there is one. -/
def readTail : List Char → Option Tail × List Char
  | [] => (none, [])
  | char :: rest =>
      match Tail.ofMark? char with
      | some tail => (some tail, rest)
      | none => (none, char :: rest)

/-- The indentation digit in front, if there is one; zero is refused. -/
def readIncrement? : List Char → Option (Option Nat × List Char)
  | [] => some (none, [])
  | char :: rest =>
      match Text.digit? char with
      | some 0 => none
      | some value => some (some value, rest)
      | none => some (none, char :: rest)

/-- Read the digit and the mark of a header in either order. -/
def readHeader? (rest : List Char) : Option (Tail × Option Nat × List Char) := do
  let (before, rest) := readTail rest
  let (increment, rest) ← readIncrement? rest
  match before, increment with
  | some tail, _ => return (tail, increment, rest)
  | none, none => return (.clip, none, rest)
  | none, some _ =>
      let (behind, rest) := readTail rest
      return (behind.getD .clip, increment, rest)

/-- A line of a block scalar. -/
structure BlockLine where
  text : List Char
  /-- The line end, unless the text ends first. -/
  ending : List Char
  /-- The ends of the empty lines that follow. -/
  more : List Char

/-- What stands between two lines. -/
def BlockLine.between (folded : Bool) (first second : BlockLine) : List Char :=
  let startsBlank (line : BlockLine) : Bool := line.text.head?.any isBlank
  if folded ∧ first.ending = ['\n'] ∧ !startsBlank first ∧ !startsBlank second then
    if first.more.isEmpty then [' '] else first.more
  else first.ending ++ first.more

/-- What is left of the line ends behind the last line. -/
def Tail.apply (last : BlockLine) : Tail → List Char
  | .strip => []
  | .clip => last.ending
  | .keep => last.ending ++ last.more

/-- The text of lines behind a line. -/
def joinLines (folded : Bool) (tail : Tail) (before : BlockLine) :
    List BlockLine → List Char
  | [] => tail.apply before
  | line :: rest =>
      before.between folded line ++ line.text ++ joinLines folded tail line rest

/-- What is in front of a line: empty lines, and the furthest column reached. -/
structure Indentation where
  breaks : List Char
  furthest : Nat

/--
Skip empty lines and the spaces that indent a line, up to `indent` if it is
known.  A tab in their place is refused.
-/
def readIndentation (indent : Option Nat) (skipped : Indentation)
    (rest : List Char) (line column : Nat) : Option (Indentation × Cursor) :=
  let reached : Indentation := ⟨skipped.breaks, max skipped.furthest column⟩
  match rest with
  | [] => some (reached, ⟨[], line, column, true⟩)
  | char :: rest =>
      let inside := indent.all (fun indent => column < indent)
      if char = ' ' ∧ inside then
        readIndentation indent skipped rest line (column + 1)
      else if char = '\t' ∧ inside then none
      else if isBreak char then
        readIndentation indent ⟨reached.breaks ++ [char], reached.furthest⟩ rest
          (line + 1) 0
      else some (reached, ⟨char :: rest, line, column, true⟩)

/-- The indentation at a cursor. -/
def Cursor.indentation (cursor : Cursor) (indent : Option Nat) :
    Option (Indentation × Cursor) :=
  readIndentation indent ⟨[], 0⟩ cursor.rest cursor.line cursor.column

/-- Read the lines that start at the column `indent`. -/
def readLines (indent fuel : Nat) (cursor : Cursor) :
    Option (List BlockLine × Cursor) :=
  match fuel with
  | 0 => none
  | fuel + 1 =>
      if cursor.atEnd ∨ cursor.column ≠ indent then some ([], cursor)
      else
        let text := cursor.rest.takeWhile (fun char => !isBreak char)
        let behind := cursor.rest.dropWhile (fun char => !isBreak char)
        let next : Cursor := match behind with
          | [] => cursor.upTo []
          | _ :: rest => ⟨rest, cursor.line + 1, 0, true⟩
        do
          let (skipped, start) ← next.indentation (some indent)
          let (lines, last) ← readLines indent fuel start
          return (⟨text, behind.take 1, skipped.breaks⟩ :: lines, last)

/-- Read a block scalar behind its mark; its lines start at `least` or later. -/
def readBlock (folded : Bool) (least : Nat) (cursor : Cursor) : Option Scalar := do
  let (tail, increment, rest) ← readHeader? cursor.rest
  let start ← (cursor.upTo rest).nextLine?
  let given := increment.map (fun increment => least - 1 + increment)
  let (skipped, first) ← start.indentation given
  let indent := given.getD (max skipped.furthest (max least 1))
  let (lines, last) ← readLines indent (first.rest.length + 1) first
  return (joinLines folded tail ⟨[], [], skipped.breaks⟩ lines,
    { last with fresh := true })

end ChartQuery.Yaml
