import ShaderShrink.Digest.Blake3
import ShaderShrink.Reduction.Step
import ShaderShrink.Shader.Storage

/-!
# Records of a reduction

Everything that a reduction leaves in its working directory is an artifact: the shader of each step,
the final shader, and the description of a fault.  An artifact is known by its path, and by the digest
and the number of its bytes.
-/

namespace ShaderShrink

/-- What an artifact is. -/
inductive ArtifactKind where
  | step (outcome : StepOutcome)
  | final
  | fault
  deriving DecidableEq, Repr

/-- The name of a kind of artifacts. -/
def ArtifactKind.name : ArtifactKind → String
  | step outcome => "step_" ++ outcome.name
  | final => "final"
  | fault => "exception"

/-- A file that a reduction left. -/
structure Artifact where
  path : Path
  digest : String
  size : Nat
  kind : ArtifactKind
  deriving DecidableEq, Repr

/-- A judged step. -/
structure StepRecord where
  number : Nat
  outcome : StepOutcome
  opportunity : String
  artifact : Artifact
  deriving DecidableEq, Repr

namespace Artifact

variable {σ : Type}

/-- The artifact that a file is. -/
def ofFile (path : Path) (kind : ArtifactKind) : Action σ Artifact := do
  let content ← Action.readBytes path
  pure ⟨path, Blake3.digest content, content.size, kind⟩

/-- Writes the shader of a step into the working directory. -/
def writeStep (work : Path) (base : String) (number : Nat) (outcome : StepOutcome) (shader : Shader) :
    Action σ Artifact := do
  let path ← shader.store (work.child (Step.fileStem base number (some outcome)))
  ofFile path (.step outcome)

/-- Writes the final shader into the working directory. -/
def writeFinal (work : Path) (base : String) (shader : Shader) : Action σ Artifact := do
  let path ← shader.store (work.child (Step.finalStem base))
  ofFile path .final

/-- Writes the description of a fault into the working directory. -/
def writeFault (work : Path) (base : String) (fault : Fault) : Action σ Artifact := do
  let path := work.child (Step.faultFileName base)
  Action.writeBytes path (fault.text ++ "\n").toUTF8
  ofFile path .fault

end Artifact

end ShaderShrink
