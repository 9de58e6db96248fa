/-!
# YAML nodes

A scalar keeps its text as written, its tag, and whether it was plain, because
only a plain scalar can stand for nothing.  The members of a mapping keep their
order and their repetitions.  A node may carry an anchor, and an alias stands
for the node of an anchor; anchors have numbers here, since a name can be used
again for another node.
-/

namespace ChartQuery

/-- The tag of a node: the octets of a URI. -/
structure Yaml.Tag where
  octets : List UInt8
deriving DecidableEq

/-- A node of a YAML document. -/
inductive Yaml where
  | scalar (text : String) (plain : Bool) (tag : Option Yaml.Tag)
  | sequence (elements : List Yaml)
  | mapping (members : List (Yaml × Yaml))
  /-- A node that aliases may stand for. -/
  | anchored (number : Nat) (node : Yaml)
  | alias (number : Nat)

namespace Yaml

/-- The tag of a URI that is written as text. -/
def Tag.ofText (text : String) : Tag := ⟨text.toUTF8.toList⟩

/-- The tag of what stands for nothing. -/
def Tag.null : Tag := .ofText "tag:yaml.org,2002:null"

/-- The text of octets, if they spell one. -/
def textOfOctets? (octets : List UInt8) : Option String :=
  String.fromUTF8? ⟨octets.toArray⟩

/-- The name that a local tag spells behind its exclamation mark. -/
def Tag.localName? (tag : Tag) : Option String :=
  match tag.octets with
  | 0x21 :: name => textOfOctets? name
  | _ => none

/-- The node of a place where nothing is written. -/
def empty : Yaml := .scalar "" true none

/-- The words that stand for nothing. -/
def nullWords : List String := ["~", "null", "Null", "NULL"]

/-- Whether nothing is written. -/
def isEmpty : Yaml → Bool
  | .scalar text plain _ => plain && text.isEmpty
  | _ => false

mutual
/-- The number of marks that a node takes: one, or two and those inside. -/
def size : Yaml → Nat
  | .scalar _ _ _ => 1
  | .alias _ => 1
  | .anchored _ node => node.size
  | .sequence elements => elementsSize elements + 2
  | .mapping members => membersSize members + 2

/-- The marks of elements. -/
def elementsSize : List Yaml → Nat
  | [] => 0
  | element :: rest => element.size + elementsSize rest

/-- The marks of members. -/
def membersSize : List (Yaml × Yaml) → Nat
  | [] => 0
  | (key, value) :: rest => key.size + value.size + membersSize rest
end

mutual
/-- The nodes with an anchor, in the order in which they start. -/
def anchors : Yaml → List (Nat × Yaml)
  | .scalar _ _ _ => []
  | .alias _ => []
  | .anchored number node => (number, node) :: node.anchors
  | .sequence elements => elementsAnchors elements
  | .mapping members => membersAnchors members

/-- The nodes with an anchor among elements. -/
def elementsAnchors : List Yaml → List (Nat × Yaml)
  | [] => []
  | element :: rest => element.anchors ++ elementsAnchors rest

/-- The nodes with an anchor among members. -/
def membersAnchors : List (Yaml × Yaml) → List (Nat × Yaml)
  | [] => []
  | (key, value) :: rest => key.anchors ++ value.anchors ++ membersAnchors rest
end

end Yaml

end ChartQuery
