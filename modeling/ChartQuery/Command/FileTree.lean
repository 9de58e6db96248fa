import ChartQuery.Command.Run

/-!
# Directories in memory

A file tree is a working directory with files below it.  Relative paths start in
the working directory.  Around it there are only the directories that lead to
it, the directory for temporary files, and the null device, which is always
empty.  A step through something that is no directory fails.
-/

namespace ChartQuery.Command

/-- Files by the steps that lead to them, and the working directory. -/
structure FileTree where
  /-- The steps to the working directory. -/
  base : List String
  files : Keyed (List String) String

/-- Split characters at the slashes. -/
def splitPath : List Char → List Char → List String
  | part, [] => [String.ofList part.reverse]
  | part, '/' :: rest => String.ofList part.reverse :: splitPath [] rest
  | part, char :: rest => splitPath (char :: part) rest

/-- The parts of a path. -/
def pathParts (path : String) : List String := splitPath [] path.toList

/-- The number of bytes that a path may have. -/
def pathLimit : Nat := 4095

/-- The number of bytes that a part of a path may have. -/
def partLimit : Nat := 255

/-- Whether a path can name anything. -/
def isPath (path : String) : Bool :=
  !path.isEmpty && !path.contains (Char.ofNat 0) &&
    path.utf8ByteSize ≤ pathLimit &&
    (pathParts path).all (fun part => part.utf8ByteSize ≤ partLimit)

namespace FileTree

/-- The steps of a path that has no steps upwards. -/
def steps (path : String) : List String :=
  (pathParts path).filter (fun part => part ≠ "" ∧ part ≠ ".")

/-- A working directory with files by their relative names. -/
def ofFiles (root : String) (files : Keyed String String) : FileTree where
  base := steps root
  files := files.map (fun (name, content) => (steps root ++ steps name, content))

/-- The device that keeps nothing. -/
def nullDevice : List String := ["dev", "null"]

/-- The directory for temporary files. -/
def temporary : List String := ["tmp"]

/-- The places of all files. -/
def places (tree : FileTree) : List (List String) :=
  nullDevice :: Keyed.keys tree.files

/-- Whether a place is a directory. -/
def isDirectory (tree : FileTree) (place : List String) : Bool :=
  place.isPrefixOf tree.base || place = temporary ||
    tree.places.any (fun file =>
      place.length < file.length && place.isPrefixOf file)

/-- Walk the parts of a path; every part but the last leads through a directory. -/
def walk (tree : FileTree) (place : List String) :
    List String → Option (List String)
  | [] => some place
  | part :: rest =>
      if !tree.isDirectory place then none
      else if part = "" ∨ part = "." then walk tree place rest
      else if part = ".." then walk tree place.dropLast rest
      else walk tree (place ++ [part]) rest

/-- The place that a path leads to. -/
def resolve? (tree : FileTree) (path : String) : Option (List String) :=
  if isPath path then
    walk tree (if path.front = '/' then [] else tree.base) (pathParts path)
  else none

/-- The content of the file at a path. -/
def content? (tree : FileTree) (path : String) : Option String := do
  let place ← tree.resolve? path
  if place = nullDevice then return "" else Keyed.get? place tree.files

/-- Whether something is at a path. -/
def hasPlace (tree : FileTree) (path : String) : Bool :=
  (tree.resolve? path).any (fun place =>
    tree.isDirectory place || tree.places.contains place)

/-- The tree after a text is appended to the file at a path, if that is possible. -/
def append? (tree : FileTree) (path text : String) : Option FileTree := do
  let place ← tree.resolve? path
  if tree.isDirectory place ∨ !tree.isDirectory place.dropLast then none
  else if place = nullDevice then return tree
  else
    let content := (Keyed.get? place tree.files).getD ""
    return { tree with files := Keyed.insert place (content ++ text) tree.files }

/-- The files of a tree, which changes when they are written to. -/
def access : FileAccess (StateM FileTree) where
  exists? path := return (← get).hasPlace path
  read? path := return (← get).content? path
  append path text := do
    match (← get).append? path text with
    | some tree =>
        set tree
        return true
    | none => return false

end FileTree

/-- Run arguments in a directory that is also the home directory. -/
def runIn (root : String) (files : Keyed String String) (arguments : List String) :
    Outcome :=
  ((run FileTree.access root arguments).run (.ofFiles root files)).1

end ChartQuery.Command
