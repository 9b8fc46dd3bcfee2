import ShaderShrink.Files.Tree
import ShaderShrink.Text.Bytes

/-!
# The world of a reduction

A reduction sees files and writes a log; everything else that it can act on, such as the tools that
run a shader, is a state `σ` that this library only passes on.  An action ends with a value or with
a fault, and in both cases leaves a world behind.
-/

namespace ShaderShrink

/-- How much a log record matters. -/
inductive Level where
  | debug
  | info
  | warning
  | error
  deriving DecidableEq, Repr

/-- A record of the log. -/
structure LogRecord where
  level : Level
  message : String
  deriving DecidableEq, Repr

/-- What a reduction acts on. -/
structure World (σ : Type) where
  files : FileTree
  log : List LogRecord
  /-- The directory in which a candidate is judged. -/
  scratch : Path
  /-- The number of the next job for a server. -/
  nextJob : Int
  /-- The tools outside of the program. -/
  outside : σ

/-- An action on the world. -/
abbrev Action (σ : Type) := EStateM Fault (World σ)

namespace Action

variable {σ : Type}

/-- The value of a computation, or its fault. -/
def ofExcept {α : Type} : Except Fault α → Action σ α
  | .ok a => pure a
  | .error fault => throw fault

/-- How the system describes a failure. -/
def describe (failure : SystemFailure) (path : Path) : String :=
  let text :=
    match failure with
    | .missing => "[Errno 2] No such file or directory"
    | .exists => "[Errno 17] File exists"
    | .isDirectory => "[Errno 21] Is a directory"
    | .notDirectory => "[Errno 20] Not a directory"
    | .nameTooLong => "[Errno 36] File name too long"
    | _ => "failure"
  text ++ ": '" ++ path.text ++ "'"

/-- A failure at a path as a fault. -/
def fileFault (failure : SystemFailure) (path : Path) : Fault :=
  match failure with
  | .nullInPath => .value "embedded null byte"
  | failure => .system failure (describe failure path)

/-- Looks at the files. -/
def files : Action σ FileTree := return (← get).files

/-- Looks at the files, of which one at a path will be asked for. -/
def filesFor (path : Path) : Action σ FileTree := do
  let tree ← files
  if tree.canLook path then pure tree else throw (fileFault .nameTooLong path)

/-- Whether a file stands at a path. -/
def isFile (path : Path) : Action σ Bool := return (← filesFor path).isFile path

/-- Whether anything stands at a path. -/
def isPresent (path : Path) : Action σ Bool := return (← filesFor path).has path

/-- Puts a record at the end of the log. -/
def log (level : Level) (message : String) : Action σ Unit :=
  modify fun world => { world with log := world.log ++ [⟨level, message⟩] }

/-- Changes the files. -/
def changeFiles (path : Path) (change : FileTree → Except SystemFailure FileTree) : Action σ Unit := do
  match change (← files) with
  | .ok tree => modify fun world => { world with files := tree }
  | .error failure => throw (fileFault failure path)

/-- Reads a file. -/
def readBytes (path : Path) : Action σ ByteArray := do
  match (← files).read path with
  | .ok content => pure content
  | .error failure => throw (fileFault failure path)

/-- Reads a text file, with line feeds for all line breaks. -/
def readText (path : Path) : Action σ Text := do
  match Text.read? (← readBytes path) with
  | some text => pure text
  | none => throw .undecodableText

/-- Writes a file into a directory that exists. -/
def writeBytes (path : Path) (content : ByteArray) : Action σ Unit :=
  changeFiles path fun tree => tree.write path content

/-- Makes a directory and those above it. -/
def makeDirectories (path : Path) : Action σ Unit :=
  changeFiles path (FileTree.makeDirectories path path.parts.length)

/-- Makes an empty file, unless something stands at the path. -/
def touch (path : Path) : Action σ Unit := do
  if !(← files).has path then writeBytes path ByteArray.empty

/-- Removes a file, if there is one. -/
def remove (path : Path) : Action σ Unit := changeFiles path fun tree => tree.remove path

/-- Copies a file. -/
def copy (source target : Path) : Action σ Unit := do
  let content ← readBytes source
  writeBytes target content

/-- Runs an action with an empty scratch directory, which is gone afterwards in any case. -/
def withScratch {α : Type} (act : Path → Action σ α) : Action σ α := do
  let path := (← get).scratch
  makeDirectories path
  let clear : Action σ Unit :=
    modify fun world => { world with files := world.files.eraseBelow path.parts }
  let result ← try act path catch fault => clear; throw fault
  clear
  pure result

end Action

end ShaderShrink
