/-!
# Places in a YAML text

A cursor is what is left of a text, with the line and the column at which it
starts; columns matter because indentation does.  It also knows whether the
place is fresh: whether a block collection may start there.  Line ends are all
written as line feeds before the walk begins; the two Unicode separators also
end a line.
-/

namespace ChartQuery.Yaml

/-- What is left of a text, and where it starts. -/
structure Cursor where
  rest : List Char
  line : Nat
  column : Nat
  /-- A block collection may start here. -/
  fresh : Bool

/-- Whether the character ends a line. -/
def isBreak (char : Char) : Bool :=
  char = '\n' || char = '\u2028' || char = '\u2029'

/-- A space or a tab. -/
def isBlank (char : Char) : Bool := char = ' ' || char = '\t'

/-- Whether a blank, the end of a line or the end of the text comes next. -/
def atGap : List Char → Bool
  | [] => true
  | char :: _ => isBlank char || isBreak char

/-- Characters that a text may hold. -/
def isPrintable (char : Char) : Bool :=
  let code := char.toNat
  code = 9 || code = 10 || code = 13 || (32 ≤ code && code ≤ 126) ||
    code = 0x85 || (0xA0 ≤ code && code ≤ 0xFFFD) || 0x10000 ≤ code

/-- Write every line end as a line feed. -/
def unifyBreaks : List Char → List Char
  | [] => []
  | '\r' :: '\n' :: rest => '\n' :: unifyBreaks rest
  | '\r' :: rest => '\n' :: unifyBreaks rest
  | '\u0085' :: rest => '\n' :: unifyBreaks rest
  | char :: rest => char :: unifyBreaks rest

namespace Cursor

/-- The start of a text. -/
def ofText? (text : String) : Option Cursor :=
  let chars := text.toList
  if chars.all isPrintable then some ⟨unifyBreaks chars, 0, 0, true⟩ else none

/-- Go on by `count` characters of the line, to `rest`. -/
def along (cursor : Cursor) (rest : List Char) (count : Nat) : Cursor :=
  ⟨rest, cursor.line, cursor.column + count, false⟩

/-- Go on to `rest`, which is further along the line. -/
def upTo (cursor : Cursor) (rest : List Char) : Cursor :=
  cursor.along rest (cursor.rest.length - rest.length)

/-- Whether the text is at its end. -/
def atEnd (cursor : Cursor) : Bool := cursor.rest.isEmpty

/-- Whether a line starts with three times this character and a gap. -/
def atMark (char : Char) (cursor : Cursor) : Bool :=
  match cursor.rest with
  | first :: second :: third :: rest =>
      cursor.column = 0 && first = char && second = char && third = char &&
        atGap rest
  | _ => false

/-- Whether the line marks the start or the end of a document. -/
def atDocumentMark (cursor : Cursor) : Bool :=
  cursor.atMark '-' || cursor.atMark '.'

/--
Skip blanks, comments and line ends.  Outside brackets a new line is fresh, and
in a fresh place a tab is not skipped.  A byte order mark at the start of a line
is skipped like a blank.
-/
def skipGap (flow fresh comment : Bool) (rest : List Char) (line column : Nat) :
    Cursor :=
  match rest with
  | [] => ⟨[], line, column, fresh⟩
  | char :: rest =>
      if isBreak char then skipGap flow (fresh || !flow) false rest (line + 1) 0
      else if comment ∨ char = ' ' ∨ (char = '\t' ∧ (flow ∨ ¬fresh)) ∨
          (char = '\uFEFF' ∧ column = 0) then
        skipGap flow fresh comment rest line (column + 1)
      else if char = '#' then skipGap flow fresh true rest line (column + 1)
      else ⟨char :: rest, line, column, fresh⟩

/-- The place of the next token, inside brackets or outside. -/
def token (flow : Bool) (cursor : Cursor) : Cursor :=
  skipGap flow cursor.fresh false cursor.rest cursor.line cursor.column

/-- Skip blanks, a comment and a line end; nothing else may be left on the line. -/
def skipLine? (comment : Bool) (rest : List Char) (line column : Nat) :
    Option Cursor :=
  match rest with
  | [] => some ⟨[], line, column, false⟩
  | char :: rest =>
      if isBreak char then some ⟨rest, line + 1, 0, false⟩
      else if comment ∨ isBlank char ∨ char = '#' then
        skipLine? (comment || char = '#') rest line (column + 1)
      else none

/-- The next line, if nothing but a comment is left on this one. -/
def nextLine? (cursor : Cursor) : Option Cursor :=
  skipLine? false cursor.rest cursor.line cursor.column

end Cursor

end ChartQuery.Yaml
