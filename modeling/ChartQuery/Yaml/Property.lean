import ChartQuery.Text.Digit
import ChartQuery.Yaml.Basic
import ChartQuery.Yaml.Cursor

/-!
# Anchors, tags and directives

An anchor is a name.  A tag is a URI, whole between angle brackets or shortened
by a handle, for which a directive of the document may give the start.  A
percent sign in a URI writes the octets of one character.
-/

namespace ChartQuery.Yaml

/-- Characters of anchors, handles and directive names. -/
def isNameChar (char : Char) : Bool :=
  char.isAlphanum || char = '-' || char = '_'

/-- Split off the name in front. -/
def splitName (rest : List Char) : List Char × List Char :=
  (rest.takeWhile isNameChar, rest.dropWhile isNameChar)

/-- Skip the blanks in front. -/
def skipBlanks (rest : List Char) : List Char := rest.dropWhile isBlank

/-- Whether the name of an anchor may end here. -/
def endsAnchor (rest : List Char) : Bool :=
  atGap rest ||
    rest.head?.any (· ∈ ['?', ':', ',', ']', '\x7d', '%', '@', '\x60'])

/-- Read the name of an anchor. -/
def readAnchor? (cursor : Cursor) : Option (String × Cursor) :=
  let (name, rest) := splitName cursor.rest
  if name.isEmpty ∨ !endsAnchor rest then none
  else some (String.ofList name, cursor.along rest name.length)

/-! ## URIs -/

/-- Characters of a URI; flow marks are among them where nothing is shortened. -/
def isUriChar (whole : Bool) (char : Char) : Bool :=
  isNameChar char ||
    char ∈ [';', '/', '?', ':', '@', '&', '=', '+', '$', '.', '!', '~', '*',
      '\'', '(', ')'] ||
    (whole && (char = ',' || char = '[' || char = ']'))

/-- The octet of an ASCII character. -/
def octet (char : Char) : UInt8 := UInt8.ofNat char.toNat

/-- Read an octet that is written with a percent sign and two digits. -/
def readOctet? : List Char → Option (UInt8 × List Char)
  | '%' :: high :: low :: rest => do
      let high ← Text.hexDigit? high
      let low ← Text.hexDigit? low
      return (UInt8.ofNat (16 * high + low), rest)
  | _ => none

/-- The number of octets that follow the first octet of a character. -/
def followers? (first : UInt8) : Option Nat :=
  if first < 0x80 then some 0
  else if first < 0xC0 then none
  else if first < 0xE0 then some 1
  else if first < 0xF0 then some 2
  else if first < 0xF8 then some 3
  else none

/-- Read the further octets of a character. -/
def readFollowers? (count : Nat) (rest : List Char) :
    Option (List UInt8 × List Char) :=
  match count with
  | 0 => some ([], rest)
  | count + 1 => do
      let (next, rest) ← readOctet? rest
      if next < 0x80 ∨ 0xC0 ≤ next then none
      else
        let (more, rest) ← readFollowers? count rest
        return (next :: more, rest)

/-- Read the octets of a URI up to a character that does not belong to it. -/
def readUri? (whole : Bool) (fuel : Nat) (rest : List Char) :
    Option (List UInt8 × List Char) :=
  match fuel, rest with
  | _, [] => some ([], [])
  | 0, _ => none
  | fuel + 1, char :: more =>
      if char = '%' then do
        let (first, rest) ← readOctet? rest
        let (others, rest) ← readFollowers? (← followers? first) rest
        let (octets, rest) ← readUri? whole fuel rest
        return (first :: others ++ octets, rest)
      else if isUriChar whole char then do
        let (octets, rest) ← readUri? whole fuel more
        return (octet char :: octets, rest)
      else some ([], rest)

/-- Octets up to the first that is zero. -/
def beforeZero (octets : List UInt8) : List UInt8 := octets.takeWhile (· ≠ 0)

/-- Read a URI that is not empty. -/
def readSomeUri? (whole : Bool) (rest : List Char) :
    Option (List UInt8 × List Char) := do
  let (octets, rest) ← readUri? whole rest.length rest
  if octets.isEmpty then none else return (beforeZero octets, rest)

/-! ## Tags -/

/-- A tag as it is written: a handle, if there is one, and what follows it. -/
structure Shorthand where
  handle : Option String
  suffix : List UInt8

/-- The tag of an exclamation mark alone. -/
def Shorthand.bare : Shorthand := ⟨none, [octet '!']⟩

/-- Read a tag after its exclamation mark, whatever follows it. -/
def readShorthand? (rest : List Char) : Option (Shorthand × List Char) :=
  match rest with
  | '<' :: rest => do
      let (suffix, rest) ← readSomeUri? true rest
      match rest with
      | '>' :: rest => return (⟨none, suffix⟩, rest)
      | _ => none
  | _ => do
      let (name, behind) := splitName rest
      match behind with
      | '!' :: behind =>
          let (suffix, rest) ← readSomeUri? false behind
          return (⟨some (String.ofList ('!' :: name ++ ['!'])), suffix⟩, rest)
      | _ =>
          let (octets, rest) ← readUri? false rest.length rest
          let suffix := beforeZero octets
          if suffix.isEmpty then return (.bare, rest)
          else return (⟨some "!", suffix⟩, rest)

/-- Read a tag; a blank ends it, or inside brackets a comma. -/
def readTag? (flow : Bool) (cursor : Cursor) : Option (Shorthand × Cursor) := do
  let (tag, rest) ← readShorthand? cursor.rest
  if atGap rest ∨ (flow ∧ rest.head? = some ',') then
    return (tag, cursor.upTo rest)
  else none

/-! ## Directives -/

/-- A directive of a document. -/
inductive Directive where
  | version (major minor : Nat)
  /-- What a handle stands for. -/
  | handle (name : String) (start : List UInt8)

/-- Read a number of at most nine digits. -/
def readNumber? (rest : List Char) : Option (Nat × List Char) := do
  let digits := rest.takeWhile Char.isDigit
  let value ← Text.natural? digits
  if digits.length ≤ 9 then return (value, rest.dropWhile Char.isDigit) else none

/-- Read a version. -/
def readVersion? (rest : List Char) : Option (Directive × List Char) := do
  let (major, rest) ← readNumber? rest
  match rest with
  | '.' :: rest =>
      let (minor, rest) ← readNumber? rest
      return (.version major minor, rest)
  | _ => none

/-- Read a handle in full: an exclamation mark, or a name between two. -/
def readHandle? : List Char → Option (String × List Char)
  | '!' :: rest =>
      let (name, behind) := splitName rest
      match name, behind with
      | _, '!' :: behind => some (String.ofList ('!' :: name ++ ['!']), behind)
      | [], _ => some ("!", behind)
      | _, _ => none
  | _ => none

/-- Read a handle and what it stands for. -/
def readMeaning? (rest : List Char) : Option (Directive × List Char) := do
  let (name, rest) ← readHandle? rest
  if !rest.head?.any isBlank then none
  else
    let (start, rest) ← readSomeUri? true (skipBlanks rest)
    if atGap rest then return (.handle name start, rest) else none

/-- Read a directive after its percent sign, and go on to the next line. -/
def readDirective? (cursor : Cursor) : Option (Directive × Cursor) := do
  let (name, rest) := splitName cursor.rest
  if !atGap rest then none
  else
    let (directive, rest) ←
      match String.ofList name with
      | "YAML" => readVersion? (skipBlanks rest)
      | "TAG" => readMeaning? (skipBlanks rest)
      | _ => none
    return (directive, ← (cursor.upTo rest).nextLine?)

end ChartQuery.Yaml
