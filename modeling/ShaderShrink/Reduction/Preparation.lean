import ShaderShrink.Shader.Storage

/-!
# The working directory

A reduction works on copies of its input: the shader with its metadata and the reference image are
copied into the working directory, unless they already are right inside of it.
-/

namespace ShaderShrink.Preparation

/-- The name of the reference image in a working directory. -/
def referenceName : String := "reference_image.png"

variable {σ : Type}

/-- Puts a shader and its metadata into the working directory, and tells where it is. -/
def placeShader (shader work : Path) : Action σ Path := do
  if Path.isInside work shader then pure shader
  else
    let target := work.child shader.name
    Action.copy shader target
    let sidecar ← Action.ofExcept (Shader.metadataPath shader)
    let targetSidecar ← Action.ofExcept (Shader.metadataPath target)
    Action.copy sidecar targetSidecar
    pure target

/-- Puts a reference image into the working directory, and tells where it is. -/
def placeReference (image work : Path) : Action σ Path := do
  if Path.isInside work image then pure image
  else
    let target := work.child referenceName
    Action.copy image target
    pure target

/-- Makes the working directory and puts all input into it. -/
def prepare (shader work : Path) (reference : Option Path) : Action σ (Path × Option Path) := do
  Action.makeDirectories work
  let shader ← placeShader shader work
  match reference with
  | none => pure (shader, none)
  | some image => return (shader, some (← placeReference image work))

end ShaderShrink.Preparation
