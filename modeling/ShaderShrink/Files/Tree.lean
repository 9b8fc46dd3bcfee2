import ShaderShrink.Files.Path

/-!
# File trees

A file tree maps places to directories and files.  A place is a list of names from the directory in
which the program runs, which is the empty place and always a directory.  A path leads to a place
through directories that exist; only its last part may be absent.
-/

namespace ShaderShrink

/-- A place in a file tree. -/
abbrev Place := List String

/-- What stands at a place. -/
inductive Entry where
  | directory
  | file (content : ByteArray)

/-- The entries of a tree, each place at most once. -/
structure FileTree where
  entries : List (Place × Entry)

namespace FileTree

/-- The tree without entries. -/
def empty : FileTree := ⟨[]⟩

/-- The entry at a place. -/
def lookup? (tree : FileTree) (place : Place) : Option Entry :=
  if place = [] then some .directory
  else (tree.entries.find? fun entry => entry.1 = place).map (·.2)

/-- Replaces the entry at a place in a list of entries, or puts it at the end. -/
def setEntry (place : Place) (entry : Entry) : List (Place × Entry) → List (Place × Entry)
  | [] => [(place, entry)]
  | head :: rest => if head.1 = place then (place, entry) :: rest else head :: setEntry place entry rest

/-- The tree with an entry at a place. -/
def set (tree : FileTree) (place : Place) (entry : Entry) : FileTree :=
  ⟨setEntry place entry tree.entries⟩

/-- The tree without the entry at a place. -/
def erase (tree : FileTree) (place : Place) : FileTree :=
  ⟨tree.entries.filter fun entry => entry.1 != place⟩

/-- The tree without a place and everything below it. -/
def eraseBelow (tree : FileTree) (place : Place) : FileTree :=
  ⟨tree.entries.filter fun entry => !place.isPrefixOf entry.1⟩

/-- The names in a directory. -/
def children (tree : FileTree) (place : Place) : List String :=
  tree.entries.filterMap fun entry =>
    match entry.1.reverse with
    | name :: rest => if rest.reverse = place then some name else none
    | [] => none

/-- The greatest number of bytes in a part of a path. -/
def maxPartBytes : Nat := 255

/-- The greatest number of bytes in a path. -/
def maxPathBytes : Nat := 4095

/-- Where the parts of a path lead from a place. -/
def locateFrom (tree : FileTree) (place : Place) : List String → Except SystemFailure Place
  | [] => .ok place
  | part :: rest =>
    match tree.lookup? place with
    | none => .error .missing
    | some (.file _) => .error .notDirectory
    | some .directory =>
      if maxPartBytes < part.utf8ByteSize then .error .nameTooLong
      else if part = ".." then
        if place = [] then .error .missing else tree.locateFrom place.dropLast rest
      else tree.locateFrom (place ++ [part]) rest

/-- Where a path leads.  Outside of the directory in which the program runs nothing exists. -/
def locate (tree : FileTree) (path : Path) : Except SystemFailure Place :=
  if path.text.toList.contains '\x00' then .error .nullInPath
  else if maxPathBytes < path.text.utf8ByteSize then .error .nameTooLong
  else if path.root.isEmpty then tree.locateFrom [] path.parts
  else .error .missing

/-- The entry that a path leads to. -/
def at? (tree : FileTree) (path : Path) : Option Entry :=
  match tree.locate path with
  | .ok place => tree.lookup? place
  | .error _ => none

/-- Whether a path can be looked up: none of its names is too long where the path leads. -/
def canLook (tree : FileTree) (path : Path) : Bool :=
  match tree.locate path with
  | .error .nameTooLong => false
  | _ => true

/-- Whether anything stands at a path. -/
def has (tree : FileTree) (path : Path) : Bool := (tree.at? path).isSome

/-- Whether a file stands at a path. -/
def isFile (tree : FileTree) (path : Path) : Bool :=
  match tree.at? path with
  | some (.file _) => true
  | _ => false

/-- Whether a directory stands at a path. -/
def isDirectory (tree : FileTree) (path : Path) : Bool :=
  match tree.at? path with
  | some .directory => true
  | _ => false

/-- The content of the file at a path. -/
def read (tree : FileTree) (path : Path) : Except SystemFailure ByteArray := do
  let place ← tree.locate path
  match tree.lookup? place with
  | none => .error .missing
  | some .directory => .error .isDirectory
  | some (.file content) => .ok content

/-- The tree with a file at a path, whose directory has to exist. -/
def write (tree : FileTree) (path : Path) (content : ByteArray) : Except SystemFailure FileTree := do
  let place ← tree.locate path
  match tree.lookup? place with
  | some .directory => .error .isDirectory
  | _ => .ok (tree.set place (.file content))

/-- The tree with one more directory. -/
def makeDirectory (tree : FileTree) (path : Path) : Except SystemFailure FileTree := do
  let place ← tree.locate path
  match tree.lookup? place with
  | some _ => .error .exists
  | none => .ok (tree.set place .directory)

/-- The tree with a directory at a path and at every path above it; `fuel` bounds their number. -/
def makeDirectories (path : Path) : Nat → FileTree → Except SystemFailure FileTree
  | 0, tree => if tree.isDirectory path then .ok tree else tree.makeDirectory path
  | fuel + 1, tree =>
    if tree.isDirectory path then .ok tree
    else
      match tree.makeDirectory path with
      | .error .missing => do
        let tree ← makeDirectories path.parent fuel tree
        if tree.isDirectory path then .ok tree else tree.makeDirectory path
      | result => result

/-- The tree without the file at a path; if there is none, the tree as it is. -/
def remove (tree : FileTree) (path : Path) : Except SystemFailure FileTree :=
  match tree.locate path with
  | .error .missing => .ok tree
  | .error failure => .error failure
  | .ok place =>
    match tree.lookup? place with
    | none => .ok tree
    | some .directory => .error .isDirectory
    | some (.file _) => .ok (tree.erase place)

/-- An entry that was just set is found again. -/
theorem lookup?_set_self (tree : FileTree) {place : Place} (inside : place ≠ []) (entry : Entry) :
    (tree.set place entry).lookup? place = some entry := by
  simp only [lookup?, set, inside, ↓reduceIte]
  induction tree.entries with
  | nil => simp [setEntry]
  | cons head rest ih => by_cases same : head.1 = place <;> simp_all [setEntry]

/-- Setting an entry changes no other place. -/
theorem lookup?_set_of_ne (tree : FileTree) {place other : Place} (differ : other ≠ place)
    (entry : Entry) : (tree.set place entry).lookup? other = tree.lookup? other := by
  simp only [lookup?, set]
  split
  · rfl
  · congr 1
    induction tree.entries with
    | nil => simp [setEntry, Ne.symm differ]
    | cons head rest ih =>
      by_cases same : head.1 = place
      · simp [setEntry, same, Ne.symm differ]
      · by_cases found : head.1 = other <;> simp_all [setEntry]

end FileTree

end ShaderShrink
