import ChartQuery.Toml.Basic

/-!
# Building TOML tables

A document gives its tables piece by piece: by headers, by arrays of tables and
by keys with dots.  While it is read, every table remembers how it came into
being, because a table may be opened by a header once only, and a dotted key
may only add to tables that dotted keys made.  A table that was only passed
through may still be opened; it then moves to the end of its parent.
-/

namespace ChartQuery.Toml

/-- How a table came into being. -/
inductive Origin where
  /-- By its own header. -/
  | header
  /-- On the way of a longer header. -/
  | passage
  /-- On the way of a dotted key. -/
  | dotted
deriving DecidableEq

/-- An entry of a table that is being built. -/
inductive Item where
  /-- A value that nothing can be added to. -/
  | value (value : Toml)
  | table (origin : Origin) (members : List (String × Item))
  /-- An array of tables; headers add to the last one. -/
  | tables (elements : List (List (String × Item)))

/-- The entries of a table that is being built. -/
abbrev Items := Keyed String Item

/-- Change the last element of a list that has one. -/
def changeLast {α : Type} (change : α → Option α) : List α → Option (List α)
  | [] => none
  | [last] => (change last).map (fun changed => [changed])
  | first :: rest => (changeLast change rest).map (fun changed => first :: changed)

/--
Change the table at a path.  Tables that are missing on the way are made with
the given origin; a dotted key does not go through a table with a header.
-/
def changeAt (made : Origin) (change : Origin → Items → Option Items) :
    List String → Origin → Items → Option Items
  | [], origin, items => change origin items
  | key :: path, _, items =>
      match Keyed.get? key items with
      | none => do
          let inner ← changeAt made change path made []
          return items ++ [(key, .table made inner)]
      | some (.value _) => none
      | some (.tables elements) => do
          let changed ← changeLast (changeAt made change path .header) elements
          return Keyed.insert key (.tables changed) items
      | some (.table origin inner) =>
          if made = .dotted ∧ origin = .header then none
          else do
            let changed ← changeAt made change path origin inner
            return Keyed.insert key (.table origin changed) items

/-- A key of one or more parts: the way and the last part. -/
def splitLast : List String → Option (List String × String)
  | [] => none
  | [last] => some ([], last)
  | first :: rest =>
      (splitLast rest).map (fun (path, last) => (first :: path, last))

/-- Put a value under a key into a table. -/
def addValue (items : Items) (entry : List String × Toml) : Option Items := do
  let (path, key) ← splitLast entry.1
  changeAt .dotted
    (fun origin items =>
      if (path.isEmpty ∧ origin = .dotted) ∨ (¬path.isEmpty ∧ origin ≠ .dotted) ∨
          Keyed.has key items then none
      else some (items ++ [(key, .value entry.2)]))
    path .header items

/-- Put values under their keys into a table, one after the other. -/
def addValues : Items → List (List String × Toml) → Option Items
  | items, [] => some items
  | items, entry :: rest => do
      let items ← addValue items entry
      addValues items rest

/-- What opens a part of a document. -/
inductive Header where
  /-- Nothing: the entries before the first header. -/
  | top
  | table (path : List String)
  | element (path : List String)

/-- A header with the entries up to the next one. -/
structure Section where
  header : Header
  entries : List (List String × Toml)

/-- The entries of a parent without the one under a key. -/
def without (key : String) (items : Items) : Items :=
  items.filter (fun item => item.1 ≠ key)

/-- Add a part of a document to its tables. -/
def addSection (items : Items) (part : Section) : Option Items :=
  match part.header with
  | .top => addValues items part.entries
  | .table path => do
      let (parent, key) ← splitLast path
      changeAt .passage
        (fun _ siblings =>
          match Keyed.get? key siblings with
          | none =>
              (addValues [] part.entries).map (fun members =>
                siblings ++ [(key, .table .header members)])
          | some (.table .passage members) =>
              (addValues members part.entries).map (fun members =>
                without key siblings ++ [(key, .table .header members)])
          | some _ => none)
        parent .header items
  | .element path => do
      let (parent, key) ← splitLast path
      changeAt .passage
        (fun _ siblings =>
          match Keyed.get? key siblings with
          | none =>
              (addValues [] part.entries).map (fun members =>
                siblings ++ [(key, .tables [members])])
          | some (.tables elements) =>
              (addValues [] part.entries).map (fun members =>
                Keyed.insert key (.tables (elements ++ [members])) siblings)
          | some _ => none)
        parent .header items

/-- Add the parts of a document one after the other. -/
def addSections : Items → List Section → Option Items
  | items, [] => some items
  | items, part :: rest => do
      let items ← addSection items part
      addSections items rest

mutual
/-- The value that an entry has come to. -/
def Item.finish : Item → Toml
  | .value value => value
  | .table _ members => .table (finishMembers members)
  | .tables elements => .array (finishTables elements)

/-- The values of the entries of a table. -/
def finishMembers : List (String × Item) → List (String × Toml)
  | [] => []
  | (key, item) :: rest => (key, item.finish) :: finishMembers rest

/-- The values of an array of tables. -/
def finishTables : List (List (String × Item)) → List Toml
  | [] => []
  | members :: rest => .table (finishMembers members) :: finishTables rest
end

end ChartQuery.Toml
