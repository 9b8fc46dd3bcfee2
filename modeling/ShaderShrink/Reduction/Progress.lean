import ShaderShrink.Files.World
import ShaderShrink.Reduction.Step

/-!
# Progress in a working directory

The shader files of the steps are the only record of how far a reduction came, and a marker says that
a reduction has begun and not yet ended.  A reduction goes on from the shader of its latest accepted
step, with a number above all that are in use.
-/

namespace ShaderShrink

/-- A step found in a working directory. -/
structure FoundStep where
  number : Nat
  outcome : StepOutcome
  name : String
  deriving DecidableEq, Repr

namespace FoundStep

/-- The order of steps: by number, and by name among equal numbers. -/
def before (a b : FoundStep) : Bool :=
  if a.number = b.number then !Text.precedes b.name.toList a.name.toList else a.number < b.number

/-- The steps of a shader among the names in a directory, in order. -/
def ofNames (base : String) (names : List String) : List FoundStep :=
  (names.filterMap fun name =>
    (Step.ofFileName? base name).map fun (number, outcome) => ⟨number, outcome, name⟩).mergeSort before

end FoundStep

namespace Progress

/-- The greatest of some numbers. -/
def greatest? : List Nat → Option Nat
  | [] => none
  | n :: rest => some (rest.foldl Nat.max n)

/-- The names in a directory; what is no directory has none. -/
def namesIn (tree : FileTree) (directory : Path) : List String :=
  match tree.locate directory with
  | .ok place => if tree.isDirectory directory then tree.children place else []
  | .error _ => []

/-- The steps of a shader in a working directory, in order. -/
def steps (tree : FileTree) (work : Path) (base : String) : List FoundStep :=
  FoundStep.ofNames base (namesIn tree work)

/-- The greatest number of an accepted step. -/
def latestSuccess? (tree : FileTree) (work : Path) (base : String) : Option Nat :=
  greatest? (((steps tree work base).filter fun step => step.outcome = .success).map (·.number))

/-- The greatest number of a step. -/
def latest? (tree : FileTree) (work : Path) (base : String) : Option Nat :=
  greatest? ((steps tree work base).map (·.number))

/-- The name of the marker. -/
def markerName : String := "REDUCTION_INCOMPLETE"

/-- The path of the marker. -/
def marker (work : Path) : Path := work.child markerName

/-- Whether a reduction in the directory has not ended. -/
def hasMarker (tree : FileTree) (work : Path) : Bool := tree.has (marker work)

/-- Marks that a reduction has begun. -/
def placeMarker {σ : Type} (work : Path) : Action σ Unit := Action.touch (marker work)

/-- Marks that the reduction has ended. -/
def clearMarker {σ : Type} (work : Path) : Action σ Unit := Action.remove (marker work)

/-- Where a reduction starts. -/
structure Start where
  shader : Path
  nextStep : Nat
  resumed : Bool
  deriving DecidableEq, Repr

/-- Where a reduction of a shader starts: afresh, or from the latest accepted step. -/
def start (tree : FileTree) (shader work : Path) (continuing : Bool) : Start :=
  if continuing then
    let base := shader.stem
    let next := (latest? tree work base).getD 0 + 1
    match latestSuccess? tree work base with
    | none => ⟨shader, next, true⟩
    | some number => ⟨work.child (Step.fileName base number .success), next, true⟩
  else ⟨shader, 1, false⟩

end Progress

end ShaderShrink
