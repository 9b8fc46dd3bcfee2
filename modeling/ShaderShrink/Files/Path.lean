import ShaderShrink.Fault

/-!
# Paths

A path is a root, which may be empty, and a list of parts.  Empty parts and single dots are dropped
when a path is read; double dots stay.  The last part is the path's name, and a name splits at its
last dot into a stem and a suffix, unless the dot begins or ends the name.
-/

namespace ShaderShrink

/-- A path. -/
structure Path where
  /-- What the path starts with: nothing, one slash or two. -/
  root : String
  parts : List String
  deriving DecidableEq, Repr, Inhabited

namespace Path

/-- Splits at every slash. -/
def splitSlash : List Char → List (List Char)
  | [] => [[]]
  | c :: rest =>
    if c = '/' then [] :: splitSlash rest
    else
      match splitSlash rest with
      | [] => [[c]]
      | part :: parts => (c :: part) :: parts

/-- The path that a text names. -/
def ofText (text : String) : Path where
  root :=
    match text.toList with
    | '/' :: '/' :: '/' :: _ => "/"
    | '/' :: '/' :: _ => "//"
    | '/' :: _ => "/"
    | _ => ""
  parts := ((splitSlash text.toList).filter fun part => part != [] && part != ['.']).map String.ofList

/-- The text of a path; the empty path is a dot. -/
def text (path : Path) : String :=
  if path.root.isEmpty && path.parts.isEmpty then "."
  else path.root ++ "/".intercalate path.parts

/-- A path behind another one; a path with a root stands alone. -/
def join (path next : Path) : Path :=
  if next.root.isEmpty then { path with parts := path.parts ++ next.parts } else next

/-- The path with the parts of a text behind it. -/
def child (path : Path) (name : String) : Path := path.join (ofText name)

/-- The path without its last part. -/
def parent (path : Path) : Path := { path with parts := path.parts.dropLast }

/-- The last part, or nothing for a path without parts. -/
def name (path : Path) : String := path.parts.getLast?.getD ""

/-- The stem and the suffix of a name. -/
def splitName (name : String) : String × String :=
  let reversed := name.toList.reverse
  let after := reversed.takeWhile (· != '.')
  match reversed.dropWhile (· != '.') with
  | '.' :: before =>
    if before.isEmpty || after.isEmpty then (name, "")
    else (String.ofList before.reverse, String.ofList ('.' :: after.reverse))
  | _ => (name, "")

/-- The name without its suffix. -/
def stem (path : Path) : String := (splitName path.name).1

/-- The suffix of the name, with its dot. -/
def suffix (path : Path) : String := (splitName path.name).2

/-- The path with another name; a path without parts has no name to replace. -/
def withName (path : Path) (name : String) : Except Fault Path :=
  if path.name.isEmpty then .error (.value ("PosixPath('" ++ path.text ++ "') has an empty name"))
  else .ok { path with parts := path.parts.dropLast ++ [name] }

/-- The path with another suffix. -/
def withSuffix (path : Path) (suffix : String) : Except Fault Path := path.withName (path.stem ++ suffix)

/-- Puts a part behind parts without double dots inside: a double dot takes back the part in front
of it.  At a root there is nothing to take back, and without one the double dot stays. -/
def collapsePart (rooted : Bool) (parts : List String) (part : String) : List String :=
  if part = ".." then
    if parts.isEmpty && rooted then []
    else if parts.isEmpty || parts.getLast? = some ".." then parts ++ [part]
    else parts.dropLast
  else parts ++ [part]

/-- The path without double dots, but for those that lead above its start. -/
def collapse (path : Path) : Path :=
  { path with parts := path.parts.foldl (collapsePart (path.root != "")) [] }

/-- Whether a path leads right into a directory, without looking at any files. -/
def isInside (directory path : Path) : Bool := (path.collapse.child "..").collapse == directory.collapse

end Path

end ShaderShrink
