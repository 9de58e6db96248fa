import ChartQuery.Keyed
import ChartQuery.Yaml.Lexer

/-!
# Reading YAML text

A text holds one document, which is one node; a text without any token holds
nothing.  A node may have an anchor and a tag in either order in front of it,
and a node with one of them may be written by nothing else.

An anchor takes as its number the number of names that were known before it, and
its name stands for that number from there on.  When a name is used again, later
numbers may be taken twice.
-/

namespace ChartQuery.Yaml

/-- What is left of the tokens, and the numbers of the known anchors. -/
structure Progress where
  tokens : List Token
  anchors : Keyed String Nat

/-- A step in reading the tokens. -/
abbrev Grammar (α : Type) := StateT Progress Option α

namespace Grammar

/-- The next token. -/
def peek : Grammar (Option Token) := return (← get).tokens.head?

/-- Go on behind the next token. -/
def skip : Grammar Unit :=
  modify (fun progress => { progress with tokens := progress.tokens.drop 1 })

/-- Give an anchor its number. -/
def define (name : String) : Grammar Nat := do
  let progress ← get
  let number := progress.anchors.length
  set { progress with anchors := Keyed.insert name number progress.anchors }
  return number

/-- The number of an anchor that is known. -/
def number (name : String) : Grammar Nat := do
  match Keyed.get? name (← get).anchors with
  | some number => return number
  | none => failure

end Grammar

/-! ## Tags -/

/-- What the handles of a document stand for. -/
abbrev Handles := Keyed String (List UInt8)

/-- What the two common handles stand for unless a directive says otherwise. -/
def commonHandles : Handles :=
  [("!", (Tag.ofText "!").octets), ("!!", (Tag.ofText "tag:yaml.org,2002:").octets)]

/-- The tag of a shorthand whose handle is known. -/
def Handles.tag? (handles : Handles) (written : Shorthand) : Option Tag :=
  match written.handle with
  | none => some ⟨written.suffix⟩
  | some handle =>
      (Keyed.get? handle (handles ++ commonHandles)).map
        (fun start => ⟨start ++ written.suffix⟩)

/-- What is written in front of a node. -/
structure Properties where
  anchor : Option String
  tag : Option Tag

/-- Whether nothing is written in front of a node. -/
def Properties.isEmpty (properties : Properties) : Bool :=
  properties.anchor.isNone && properties.tag.isNone

namespace Grammar

/-- Read an anchor, if one comes next. -/
def readAnchor : Grammar (Option String) := do
  match ← peek with
  | some (.anchor name) => skip; return some name
  | _ => return none

/-- Read a tag, if one comes next. -/
def readTag (handles : Handles) : Grammar (Option Tag) := do
  match ← peek with
  | some (.tag written) =>
      skip
      match handles.tag? written with
      | some tag => return some tag
      | none => failure
  | _ => return none

/-- Read an anchor and a tag in either order. -/
def readProperties (handles : Handles) : Grammar Properties := do
  match ← readAnchor with
  | some anchor => return ⟨some anchor, ← readTag handles⟩
  | none =>
      let tag ← readTag handles
      if tag.isNone then return ⟨none, none⟩ else return ⟨← readAnchor, tag⟩

/-- Read content, and give it the number of its anchor, which is known inside. -/
def anchored (anchor : Option String) (content : Grammar Yaml) : Grammar Yaml := do
  match anchor with
  | none => content
  | some name =>
      let number ← define name
      return .anchored number (← content)

end Grammar

/-- The tag of a scalar; an exclamation mark alone is none. -/
def scalarTag (tag : Option Tag) : Option Tag :=
  tag.filter (fun tag => tag ≠ Tag.ofText "!")

/-! ## Nodes -/

/-- What the surroundings of a node admit. -/
inductive Position where
  /-- Inside brackets. -/
  | flow
  /-- An entry of a block sequence, or the node of a document. -/
  | block
  /-- A key or value of a block mapping: a sequence need not be indented. -/
  | member
deriving DecidableEq

/-- Whether the place of a key or value in a block mapping is left empty. -/
def endsMember : Option Token → Bool
  | some .key => true
  | some .value => true
  | some .blockEnd => true
  | _ => false

/-- Whether the place behind a dash is left empty. -/
def endsEntry (indented : Bool) : Option Token → Bool
  | some .entry => true
  | some .blockEnd => true
  | some .key => !indented
  | some .value => !indented
  | _ => false

/-- Whether a value inside brackets is left empty. -/
def endsFlow (shape : Shape) : Option Token → Bool
  | some .comma => true
  | some (.flowEnd other) => other = shape
  | _ => false

namespace Grammar

mutual
/-- Read a node. -/
def readNode (handles : Handles) (position : Position) (fuel : Nat) : Grammar Yaml :=
  match fuel with
  | 0 => failure
  | fuel + 1 => do
      match ← peek with
      | some (.alias name) =>
          skip
          return .alias (← number name)
      | _ =>
          let properties ← readProperties handles
          anchored properties.anchor (readContent handles position properties fuel)

/-- Read what a node consists of. -/
def readContent (handles : Handles) (position : Position) (properties : Properties)
    (fuel : Nat) : Grammar Yaml :=
  match fuel with
  | 0 => failure
  | fuel + 1 => do
      let blank : Grammar Yaml :=
        if properties.isEmpty then failure
        else return .scalar "" true properties.tag
      match ← peek with
      | some (.scalar text plain) =>
          skip
          return .scalar text plain (scalarTag properties.tag)
      | some (.flowStart .sequence) =>
          skip
          return .sequence (← readElements handles true fuel)
      | some (.flowStart .mapping) =>
          skip
          return .mapping (← readPairs handles true fuel)
      | some (.blockStart .sequence) =>
          if position = .flow then blank
          else
            skip
            return .sequence (← readEntries handles true fuel)
      | some (.blockStart .mapping) =>
          if position = .flow then blank
          else
            skip
            return .mapping (← readMembers handles fuel)
      | some .entry =>
          if position = .member then
            return .sequence (← readEntries handles false fuel)
          else blank
      | _ => blank

/-- Read a node, or nothing where its place is left empty. -/
def readUnless (handles : Handles) (position : Position) (isLeftOut : Bool)
    (fuel : Nat) : Grammar Yaml :=
  match fuel with
  | 0 => failure
  | fuel + 1 =>
      if isLeftOut then return empty else readNode handles position fuel

/-- Read the value of a pair, if it has one. -/
def readPairValue (handles : Handles) (shape : Shape) (fuel : Nat) : Grammar Yaml :=
  match fuel with
  | 0 => failure
  | fuel + 1 => do
      match ← peek with
      | some .value =>
          skip
          readUnless handles .flow (endsFlow shape (← peek)) fuel
      | _ => return empty

/--
Read an element of a flow sequence.  A pair is a mapping of its own; where its
key is left out, the mark in the place of the key is passed over.
-/
def readElement (handles : Handles) (fuel : Nat) : Grammar Yaml :=
  match fuel with
  | 0 => failure
  | fuel + 1 => do
      match ← peek with
      | some .key =>
          skip
          let next ← peek
          let isLeftOut := endsFlow .sequence next || next matches some .value
          let key ← readUnless handles .flow isLeftOut fuel
          if isLeftOut then skip
          let value ← readPairValue handles .sequence fuel
          return .mapping [(key, value)]
      | _ => readNode handles .flow fuel

/-- Read the elements of a flow sequence up to its bracket. -/
def readElements (handles : Handles) (isFirst : Bool) (fuel : Nat) :
    Grammar (List Yaml) :=
  match fuel with
  | 0 => failure
  | fuel + 1 => do
      match isFirst, ← peek with
      | _, some (.flowEnd .sequence) => skip; return []
      | false, some .comma => skip
      | false, _ => failure
      | true, _ => pure ()
      match ← peek with
      | some (.flowEnd .sequence) => skip; return []
      | _ =>
          let element ← readElement handles fuel
          return element :: (← readElements handles false fuel)

/-- Read a pair of a flow mapping; a node alone is a key. -/
def readPair (handles : Handles) (fuel : Nat) : Grammar (Yaml × Yaml) :=
  match fuel with
  | 0 => failure
  | fuel + 1 => do
      match ← peek with
      | some .key =>
          skip
          let next ← peek
          let isLeftOut := endsFlow .mapping next || next matches some .value
          let key ← readUnless handles .flow isLeftOut fuel
          return (key, ← readPairValue handles .mapping fuel)
      | _ => return (← readNode handles .flow fuel, empty)

/-- Read the pairs of a flow mapping up to its brace. -/
def readPairs (handles : Handles) (isFirst : Bool) (fuel : Nat) :
    Grammar (List (Yaml × Yaml)) :=
  match fuel with
  | 0 => failure
  | fuel + 1 => do
      match isFirst, ← peek with
      | _, some (.flowEnd .mapping) => skip; return []
      | false, some .comma => skip
      | false, _ => failure
      | true, _ => pure ()
      match ← peek with
      | some (.flowEnd .mapping) => skip; return []
      | _ =>
          let pair ← readPair handles fuel
          return pair :: (← readPairs handles false fuel)

/-- Read the entries of a block sequence; one that is not indented has no end. -/
def readEntries (handles : Handles) (indented : Bool) (fuel : Nat) :
    Grammar (List Yaml) :=
  match fuel with
  | 0 => failure
  | fuel + 1 => do
      match indented, ← peek with
      | _, some .entry =>
          skip
          let entry ← readUnless handles .block (endsEntry indented (← peek)) fuel
          return entry :: (← readEntries handles indented fuel)
      | true, some .blockEnd => skip; return []
      | true, _ => failure
      | false, _ => return []

/-- Read the members of a block mapping up to its end. -/
def readMembers (handles : Handles) (fuel : Nat) : Grammar (List (Yaml × Yaml)) :=
  match fuel with
  | 0 => failure
  | fuel + 1 => do
      match ← peek with
      | some .blockEnd => skip; return []
      | some .key =>
          skip
          let key ← readUnless handles .member (endsMember (← peek)) fuel
          let value ← readMemberValue handles fuel
          return (key, value) :: (← readMembers handles fuel)
      | _ => failure

/-- Read the value of a member, if it has one. -/
def readMemberValue (handles : Handles) (fuel : Nat) : Grammar Yaml :=
  match fuel with
  | 0 => failure
  | fuel + 1 => do
      match ← peek with
      | some .value =>
          skip
          readUnless handles .member (endsMember (← peek)) fuel
      | _ => return empty
end

/-! ## Documents -/

/-- Read the directives of a document: one version at most, each handle once. -/
def readDirectives (version : Bool) (handles : Handles) :
    List Token → Option (Handles × List Token)
  | .directive (.version major minor) :: rest =>
      if version ∨ major ≠ 1 ∨ (minor ≠ 1 ∧ minor ≠ 2) then none
      else readDirectives true handles rest
  | .directive (.handle name start) :: rest =>
      if Keyed.has name handles then none
      else readDirectives version (handles ++ [(name, start)]) rest
  | rest => some (handles, rest)

end Grammar

/-- Whether a document that was announced is left empty. -/
def endsDocument : List Token → Bool
  | [] => true
  | .directive _ :: _ => true
  | .documentStart :: _ => true
  | .documentEnd :: _ => true
  | _ => false

/-- Whether nothing but end marks is left. -/
def isFinished (tokens : List Token) : Bool :=
  tokens.all (fun token => token matches .documentEnd)

/-- Read a document and all tokens. -/
def ofTokens? (handles : Handles) (isLeftOut : Bool) (tokens : List Token) :
    Option Yaml := do
  let (node, progress) ←
    (Grammar.readUnless handles .block isLeftOut (4 * tokens.length + 4)).run
      ⟨tokens, []⟩
  if isFinished progress.tokens then return node else none

/-- Read the only document of a text. -/
def read? (text : String) : Option Yaml := do
  let tokens ← tokens? text
  match tokens with
  | [] => return empty
  | .directive _ :: _ | .documentStart :: _ =>
      let (handles, rest) ← Grammar.readDirectives false [] tokens
      match rest with
      | .documentStart :: rest => ofTokens? handles (endsDocument rest) rest
      | _ => none
  | _ => ofTokens? [] false tokens

end ChartQuery.Yaml
