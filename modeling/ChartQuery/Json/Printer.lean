import ChartQuery.Json.Basic

/-!
# JSON text

Two layouts of a value: `compact` without any space, and `indented` with two
spaces per level, one member or element a line, and `{}` or `[]` for empty
ones.  A string escapes the quote, the backslash and the characters below
U+0020; everything else stands for itself.
-/

namespace ChartQuery.Json

/-- The written form of one character of a string. -/
def escape (char : Char) : String :=
  if char = '"' then "\\\""
  else if char = '\\' then "\\\\"
  else if char = '\n' then "\\n"
  else if char = '\r' then "\\r"
  else if char = '\t' then "\\t"
  else if char.toNat = 8 then "\\b"
  else if char.toNat = 12 then "\\f"
  else if char.toNat < 32 then
    "\\u00" ++ String.singleton (Text.hexDigit (char.toNat / 16)) ++
      String.singleton (Text.hexDigit (char.toNat % 16))
  else String.singleton char

/-- A string between quotes. -/
def quote (text : String) : String :=
  "\"" ++ String.join (text.toList.map escape) ++ "\""

mutual
/-- The text of a value without any space. -/
def compact : Json → String
  | .null => "null"
  | .bool value => if value then "true" else "false"
  | .number value => value.text
  | .string text => quote text
  | .array elements =>
      "[" ++ ",".intercalate (compactList elements) ++ "]"
  | .object members =>
      "\x7b" ++ ",".intercalate (compactMembers members) ++ "\x7d"

/-- The texts of the elements. -/
def compactList : List Json → List String
  | [] => []
  | element :: rest => element.compact :: compactList rest

/-- The texts of the members. -/
def compactMembers : List (String × Json) → List String
  | [] => []
  | (key, value) :: rest =>
      (quote key ++ ":" ++ value.compact) :: compactMembers rest
end

/-- Lines between an opening and a closing bracket, none when there are none. -/
def bracketed
    (opening closing indent : String) (lines : List String) : String :=
  if lines.isEmpty then opening ++ closing
  else
    opening ++ "\n" ++ ",\n".intercalate lines ++ "\n" ++ indent ++ closing

mutual
/-- The text of a value inside lines that start with `indent`. -/
def indentedFrom (indent : String) : Json → String
  | .null => "null"
  | .bool value => if value then "true" else "false"
  | .number value => value.text
  | .string text => quote text
  | .array elements =>
      bracketed "[" "]" indent (indentedList (indent ++ "  ") elements)
  | .object members =>
      bracketed "\x7b" "\x7d" indent (indentedMembers (indent ++ "  ") members)

/-- The lines of the elements. -/
def indentedList (indent : String) : List Json → List String
  | [] => []
  | element :: rest =>
      (indent ++ element.indentedFrom indent) :: indentedList indent rest

/-- The lines of the members. -/
def indentedMembers (indent : String) : List (String × Json) → List String
  | [] => []
  | (key, value) :: rest =>
      (indent ++ quote key ++ ": " ++ value.indentedFrom indent) ::
        indentedMembers indent rest
end

/-- The text of a value with two spaces per level. -/
def indented (value : Json) : String := value.indentedFrom ""

end ChartQuery.Json
