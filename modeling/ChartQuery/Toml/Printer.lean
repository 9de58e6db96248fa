import ChartQuery.Binary64.Shortest
import ChartQuery.Json.Number
import ChartQuery.Toml.Scalar

/-!
# TOML text

A table writes its values first, then its tables, each under a header of its
own and after a blank line; a header is left out when only tables follow it.
An array of tables has a header per table.  Inside an array tables are written
inline, and an array of two or more elements has a line per element.
-/

namespace ChartQuery.Toml

/-! ## Strings and keys -/

/-- What a text holds that decides how it is quoted. -/
structure Quoting where
  /-- Control characters other than tabs and line ends. -/
  controls : Bool
  backslashes : Bool
  breaks : Bool
  /-- The longest run of double quotes. -/
  doubles : Nat
  /-- The longest run of single quotes. -/
  singles : Nat

/-- The length of the longest run of a character, behind a run of `current`. -/
def longestRun (char : Char) (current : Nat) : List Char → Nat
  | [] => current
  | next :: rest =>
      if next = char then longestRun char (current + 1) rest
      else max current (longestRun char 0 rest)

/-- Whether a character has to be escaped wherever it stands. -/
def isControl (char : Char) : Bool :=
  (char.toNat < 32 && char ≠ '\t' && char ≠ '\n') || char.toNat = 127

/-- What a text holds. -/
def Quoting.ofText (chars : List Char) : Quoting where
  controls := chars.any isControl
  backslashes := chars.contains '\\'
  breaks := chars.contains '\n'
  doubles := longestRun '"' 0 chars
  singles := longestRun '\'' 0 chars

/-- A code point with four upper-case hexadecimal digits. -/
def fourDigits (code : Nat) : String :=
  let digits := (String.ofList (Nat.toDigits 16 code)).map Char.toUpper
  "".pushn '0' (4 - digits.length) ++ digits

/-- The escaped form of a character other than a double quote. -/
def escape (multiline : Bool) (char : Char) : String :=
  if char.toNat = 8 then "\\b"
  else if char = '\t' then "\\t"
  else if char = '\n' then (if multiline then "\n" else "\\n")
  else if char.toNat = 12 then "\\f"
  else if char = '\r' then "\\r"
  else if char = '\\' then "\\\\"
  else if char.toNat < 32 ∨ char.toNat = 127 then "\\u" ++ fourDigits char.toNat
  else String.singleton char

/-- Escape a text; of double quotes in a row, `allowed` may stand as they are. -/
def escapeAll (multiline : Bool) (allowed run : Nat) : List Char → String
  | [] => ""
  | '"' :: rest =>
      if run < allowed then "\"" ++ escapeAll multiline allowed (run + 1) rest
      else "\\\"" ++ escapeAll multiline allowed 0 rest
  | char :: rest => escape multiline char ++ escapeAll multiline allowed 0 rest

/-- A basic string on one line. -/
def basicText (chars : List Char) : String :=
  "\"" ++ escapeAll false 0 0 chars ++ "\""

/-- A line end in front of a multi-line text that has line ends. -/
def leadingBreak (quoting : Quoting) : String := if quoting.breaks then "\n" else ""

/-- A string, quoted in the first way that needs no escapes. -/
def stringText (text : String) : String :=
  let chars := text.toList
  let quoting := Quoting.ofText chars
  let multiline :=
    "\"\"\"" ++ leadingBreak quoting ++ escapeAll true 2 0 chars ++ "\"\"\""
  if !quoting.controls ∧ !quoting.backslashes ∧ quoting.doubles = 0 ∧
      !quoting.breaks then basicText chars
  else if !quoting.controls ∧ quoting.singles = 0 ∧ !quoting.breaks then
    "'" ++ text ++ "'"
  else if !quoting.controls ∧ !quoting.backslashes ∧ quoting.doubles ≤ 2 then
    multiline
  else if !quoting.controls ∧ quoting.singles ≤ 2 then
    "'''" ++ leadingBreak quoting ++ text ++ "'''"
  else if quoting.breaks then multiline
  else basicText chars

/-- A key, bare where that is possible. -/
def keyText (key : String) : String :=
  let chars := key.toList
  let quoting := Quoting.ofText chars
  if !chars.isEmpty ∧ chars.all isBare then key
  else if !quoting.controls ∧ !quoting.breaks ∧ !quoting.backslashes ∧
      quoting.doubles = 0 then basicText chars
  else if !quoting.controls ∧ !quoting.breaks ∧ quoting.singles = 0 then
    "'" ++ key ++ "'"
  else basicText chars

/-! ## Values -/

/--
The text of a float: its shortest digits without an exponent, of two equally
near ones the larger.
-/
def floatText : Option Binary64 → String
  | some value =>
      (if value.negative then "-" else "") ++ (value.shortest .up).positional
  | none => "nan"

mutual
/-- The text of a value behind a key or in an array. -/
def valueText : Toml → String
  | .string text => stringText text
  | .integer value => Json.Number.integerText value.toInt
  | .float value => floatText value
  | .boolean value => if value then "true" else "false"
  | .dateTime text => text
  | .array elements =>
      match elementTexts elements with
      | [] => "[]"
      | [element] => "[" ++ element ++ "]"
      | lines =>
          "[\n" ++ String.join (lines.map (fun line => "    " ++ line ++ ",\n")) ++
            "]"
  | .table members =>
      match memberTexts members with
      | [] => "\x7b\x7d"
      | texts => "\x7b " ++ ", ".intercalate texts ++ " \x7d"

/-- The texts of the elements. -/
def elementTexts : List Toml → List String
  | [] => []
  | element :: rest => element.valueText :: elementTexts rest

/-- The texts of the members of an inline table. -/
def memberTexts : List (String × Toml) → List String
  | [] => []
  | (key, value) :: rest =>
      (keyText key ++ " = " ++ value.valueText) :: memberTexts rest
end

/-! ## Tables -/

/-- Whether a value is a table. -/
def isTable : Toml → Bool
  | .table _ => true
  | _ => false

/-- Whether a member is written under headers of its own. -/
def hasHeader : Toml → Bool
  | .table _ => true
  | .array elements => !elements.isEmpty && elements.all isTable
  | _ => false

/-- The lines of the members that have no header. -/
def ownLines (members : List (String × Toml)) : String :=
  String.join (members.map (fun (key, value) =>
    if hasHeader value then "" else keyText key ++ " = " ++ value.valueText ++ "\n"))

/-- The text of a path between the brackets of a header. -/
def pathText (path : List String) : String := ".".intercalate (path.map keyText)

/-- The table itself: a header, unless only tables follow it, and its own lines. -/
def ownBlock (path : List String) (members : List (String × Toml)) : List String :=
  if !members.isEmpty ∧ members.all (fun member => hasHeader member.2) then []
  else ["[" ++ pathText path ++ "]\n" ++ ownLines members]

mutual
/-- The blocks of a member that is written under headers; none for others. -/
def blocks (path : List String) : Toml → List String
  | .table members => ownBlock path members ++ memberBlocks path members
  | .array elements =>
      if !elements.isEmpty ∧ elements.all isTable then elementBlocks path elements
      else []
  | _ => []

/-- The blocks of the members of a table, in order. -/
def memberBlocks (path : List String) : List (String × Toml) → List String
  | [] => []
  | (key, value) :: rest =>
      value.blocks (path ++ [key]) ++ memberBlocks path rest

/-- The blocks of an array of tables. -/
def elementBlocks (path : List String) : List Toml → List String
  | [] => []
  | .table members :: rest =>
      (("[[" ++ pathText path ++ "]]\n" ++ ownLines members) ::
        memberBlocks path members) ++ elementBlocks path rest
  | _ :: rest => elementBlocks path rest
end

/-- The text of a document: its blocks with a blank line between two. -/
def documentText (members : Keyed String Toml) : String :=
  let top := ownLines members
  "\n".intercalate
    ((if top.isEmpty then [] else [top]) ++ memberBlocks [] members)

end ChartQuery.Toml
