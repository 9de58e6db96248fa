import ChartQuery.Keyed
import ChartQuery.Yaml.Basic

/-!
# Typed YAML nodes

A typed structure is a mapping with declared members, each written at most
once; members that are not declared are left alone.  In a table a repeated key
keeps its first place and its last value.  Where nothing is written, a
structure, a table and a list are empty; an optional value is absent.

An alias stands for the last node with its number.  So that a small text cannot
stand for a huge one, at most a hundred aliases may be followed for every mark
of the document.
-/

namespace ChartQuery.Yaml

/-- The nodes of a document that aliases stand for, the last one first. -/
abbrev Named := List (Nat × Yaml)

/--
A step in reading a typed document; the state is the number of aliases that may
still be followed.
-/
abbrev Typed (α : Type) := ReaderT Named (StateT Nat Option) α

/-- The number of aliases that may be followed for every mark. -/
def aliasLimit : Nat := 100

/-- Read a typed document. -/
def typed? {α : Type} (node : Yaml) (read : Yaml → Typed α) : Option α :=
  ((read node).run node.anchors.reverse).run' (aliasLimit * node.size)

/-- The node itself, or the node that an alias stands for. -/
def content : Yaml → Typed Yaml
  | .anchored _ node => return node
  | .alias number => do
      let left ← get
      match left, (← read).lookup number with
      | left + 1, some node =>
          set left
          return node
      | _, _ => failure
  | node => return node

/-- The text of a scalar. -/
def text (node : Yaml) : Typed String := do
  match ← node.content with
  | .scalar text _ _ => return text
  | _ => failure

/--
A word of a fixed set: the text of a scalar, or its local tag if nothing else is
written.
-/
def word (node : Yaml) : Typed String := do
  match ← node.content with
  | .scalar text plain tag =>
      match tag.bind Tag.localName? with
      | none => return text
      | some name =>
          if text.isEmpty ∨ (plain ∧ text ∈ nullWords) then return name else failure
  | _ => failure

/-- A value that a word names. -/
def named {α : Type} (ofName? : String → Option α) (node : Yaml) : Typed α := do
  match ofName? (← node.word) with
  | some value => return value
  | none => failure

/-- Whether a node stands for nothing where a value is optional. -/
def isNull : Yaml → Typed Bool
  | .scalar text true none => return text.isEmpty || text ∈ nullWords
  | .scalar text true (some tag) =>
      if tag = Tag.null then if text ∈ nullWords then return true else failure
      else return false
  | _ => return false

/-- A value that may stand for nothing. -/
def optional {α : Type} (read : Yaml → Typed α) (node : Yaml) :
    Typed (Option α) := do
  let node ← node.content
  if ← node.isNull then return none else return some (← read node)

/-! ## Structures -/

/-- The members of a mapping whose keys are all scalars. -/
def keyed : List (Yaml × Yaml) → Typed (List (String × Yaml))
  | [] => return []
  | (key, value) :: rest => do
      let name ← key.text
      return (name, value) :: (← keyed rest)

/-- The members of a mapping; none where nothing is written. -/
def members (node : Yaml) : Typed (List (String × Yaml)) := do
  match ← node.content with
  | .mapping members => keyed members
  | node => if node.isEmpty then return [] else failure

/-- The declared members that a structure writes, each at most once. -/
def record (declared : List String) (node : Yaml) : Typed (Keyed String Yaml) := do
  let found := (← node.members).filter (fun member => member.1 ∈ declared)
  if Keyed.Distinct found then return found else failure

/-- A member that has to be there. -/
def required {α : Type} (fields : Keyed String Yaml) (name : String)
    (read : Yaml → Typed α) : Typed α :=
  match Keyed.get? name fields with
  | none => failure
  | some node => read node

/-- A member that may be left out. -/
def defaulted {α : Type} (fields : Keyed String Yaml) (name : String)
    (default : α) (read : Yaml → Typed α) : Typed α :=
  match Keyed.get? name fields with
  | none => return default
  | some node => read node

/-! ## Tables and lists -/

/-- Read every value of a list of members. -/
def entries {α : Type} (read : Yaml → Typed α) :
    List (String × Yaml) → Typed (List (String × α))
  | [] => return []
  | (key, node) :: rest => do
      let found ← read node
      return (key, found) :: (← entries read rest)

/-- A table of entries that are all read alike. -/
def table {α : Type} (read : Yaml → Typed α) (node : Yaml) :
    Typed (Keyed String α) :=
  return Keyed.ofList (← entries read (← node.members))

/-- Read every element of a list. -/
def elements {α : Type} (read : Yaml → Typed α) : List Yaml → Typed (List α)
  | [] => return []
  | node :: rest => do
      let found ← read node
      return found :: (← elements read rest)

/-- A list of elements that are all read alike. -/
def list {α : Type} (read : Yaml → Typed α) (node : Yaml) : Typed (List α) := do
  match ← node.content with
  | .sequence nodes => elements read nodes
  | node => if node.isEmpty then return [] else failure

end ChartQuery.Yaml
