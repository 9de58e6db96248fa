import ChartQuery.Toml.Scalar
import ChartQuery.Toml.Tree

/-!
# Reading TOML text

A document is a sequence of lines: comments, headers, and keys with values.
Arrays may span lines; an inline table may not, and nothing can be added to it
later.  Arrays, inline tables and keys nest less than eighty levels.
-/

namespace ChartQuery.Toml

/-- Drop a comment up to the end of its line. -/
def skipComment : List Char → List Char
  | '#' :: rest => rest.dropWhile isText
  | chars => chars

/-- The characters behind the end of a line, before which a comment may stand. -/
def afterLine? (chars : List Char) : Option (List Char) :=
  match skipComment (skipBlanks chars) with
  | [] => some []
  | rest => afterBreak? rest

/-- Drop blanks, comments and line ends. -/
def skipSpace (fuel : Nat) (chars : List Char) : List Char :=
  match fuel with
  | 0 => chars
  | fuel + 1 =>
      let chars := skipBlanks chars
      match afterBreak? (skipComment chars) with
      | some rest => skipSpace fuel rest
      | none => chars

/-- A key with less parts than the limit. -/
def readShortKey (chars : List Char) : Option (Found (List String)) :=
  (readKey (chars.length + 1) chars).filter
    (fun (path, _) => path.length < nestingLimit)

mutual
/-- Read a value inside `depth` arrays and inline tables. -/
def readValue (fuel depth : Nat) (chars : List Char) : Option (Found Toml) :=
  match fuel with
  | 0 => none
  | fuel + 1 =>
      match chars with
      | 't' :: 'r' :: 'u' :: 'e' :: rest => some (.boolean true, rest)
      | 'f' :: 'a' :: 'l' :: 's' :: 'e' :: rest => some (.boolean false, rest)
      | '[' :: rest =>
          if depth + 1 < nestingLimit then
            (readElements fuel (depth + 1) rest).map
              (fun (elements, rest) => (.array elements, rest))
          else none
      | '\x7b' :: rest =>
          if depth + 1 < nestingLimit then do
            let rest := skipBlanks rest
            let (entries, rest) ← (match rest with
              | '\x7d' :: rest => some ([], rest)
              | rest => readEntries fuel (depth + 1) rest :
              Option (Found (List (List String × Toml))))
            let items ← addValues [] entries
            return (.table (finishMembers items), rest)
          else none
      | chars =>
          if chars.head? = some '"' ∨ chars.head? = some '\'' then
            (readString chars).map (fun (text, rest) => (.string text, rest))
          else if startsDateTime chars then readDateTime chars
          else readNumber chars

/-- Read the elements of an array up to its bracket. -/
def readElements (fuel depth : Nat) (chars : List Char) :
    Option (Found (List Toml)) :=
  match fuel with
  | 0 => none
  | fuel + 1 =>
      match skipSpace chars.length chars with
      | ']' :: rest => some ([], rest)
      | start => do
          let (element, rest) ← readValue fuel depth start
          match skipSpace rest.length rest with
          | ',' :: rest =>
              let (more, rest) ← readElements fuel depth rest
              return (element :: more, rest)
          | ']' :: rest => return ([element], rest)
          | _ => none

/-- Read the entries of an inline table up to its brace. -/
def readEntries (fuel depth : Nat) (chars : List Char) :
    Option (Found (List (List String × Toml))) :=
  match fuel with
  | 0 => none
  | fuel + 1 => do
      let (key, rest) ← readShortKey chars
      let rest ← readMark '=' rest
      let (value, rest) ← readValue fuel depth (skipBlanks rest)
      match skipBlanks rest with
      | ',' :: rest =>
          let (more, rest) ← readEntries fuel depth rest
          return ((key, value) :: more, rest)
      | '\x7d' :: rest => return ([(key, value)], rest)
      | _ => none
end

/-- Read a key with its value. -/
def readEntry (chars : List Char) : Option (Found (List String × Toml)) := do
  let (key, rest) ← readShortKey chars
  let rest ← readMark '=' rest
  let (value, rest) ← readValue (2 * rest.length + 2) 0 (skipBlanks rest)
  return ((key, value), rest)

/-- Read a header. -/
def readHeader : List Char → Option (Found Header)
  | '[' :: '[' :: rest => do
      let (path, rest) ← readShortKey rest
      let rest ← readMark ']' rest
      let rest ← readMark ']' rest
      return (.element path, rest)
  | '[' :: rest => do
      let (path, rest) ← readShortKey rest
      let rest ← readMark ']' rest
      return (.table path, rest)
  | _ => none

/-- Read the lines of a document into its parts, the last part first. -/
def readSections (fuel : Nat) (done : List Section) (part : Section)
    (chars : List Char) : Option (List Section) :=
  match fuel with
  | 0 => none
  | fuel + 1 =>
      match skipBlanks chars with
      | [] => some (part :: done)
      | '[' :: rest => do
          let (header, rest) ← readHeader ('[' :: rest)
          let rest ← afterLine? rest
          readSections fuel (part :: done) ⟨header, []⟩ rest
      | start =>
          if start.head? = some '#' ∨ (afterBreak? start).isSome then do
            let rest ← afterLine? start
            readSections fuel done part rest
          else do
            let (entry, rest) ← readEntry start
            let rest ← afterLine? rest
            readSections fuel done
              { part with entries := part.entries ++ [entry] } rest

/-- Read a document as the members of its table. -/
def read? (text : String) : Option (Keyed String Toml) := do
  let chars := match text.toList with
    | '\uFEFF' :: rest => rest
    | chars => chars
  let parts ← readSections (chars.length + 1) [] ⟨.top, []⟩ chars
  let items ← addSections [] parts.reverse
  return finishMembers items

end ChartQuery.Toml
