import ShaderShrink.Files.World
import ShaderShrink.Json.Reader
import ShaderShrink.Json.Writer
import ShaderShrink.Shader.Basic

/-!
# Shaders in files

A shader is stored in two files of one name: its text, and its metadata as an indented JSON object.
Reading looks at the metadata first; writing makes the directory, then the text, then the metadata.
-/

namespace ShaderShrink

/-- Writes a JSON document into a file, and makes its directory. -/
def Action.writeJson {σ : Type} (path : Path) (value : Json) : Action σ Unit := do
  makeDirectories path.parent
  match value.indented? with
  | some document => writeBytes path (Text.utf8 document)
  | none => throw .unwritableJson

/-- Reads a JSON document. -/
def Action.readJson {σ : Type} (path : Path) : Action σ Json := do
  match Json.ofBytes? (← readBytes path) with
  | some value => pure value
  | none => throw .malformedJson

namespace Shader

variable {σ : Type}

/-- The metadata file that goes with a shader file. -/
def metadataPath (path : Path) : Except Fault Path := path.withSuffix metadataSuffix

/-- Reads a shader with its metadata. -/
def load (path : Path) : Action σ Shader := do
  let sidecar ← Action.ofExcept (metadataPath path)
  if !(← Action.isFile sidecar) then
    throw (.usage ("metadata file " ++ sidecar.text ++ " does not exist"))
  match ← Action.readJson sidecar with
  | .obj metadata => do
    let text ← Action.readText path
    Action.ofExcept (ofText text metadata)
  | _ => throw (.usage ("metadata file " ++ sidecar.text ++ " must hold a JSON object"))

/-- Writes a shader under a path without suffix, and tells where its text is. -/
def store (shader : Shader) (stem : Path) : Action σ Path := do
  let path ← Action.ofExcept (stem.withName (stem.name ++ fileSuffix))
  Action.makeDirectories path.parent
  Action.writeBytes path (Text.utf8 shader.text)
  let sidecar ← Action.ofExcept (stem.withName (stem.name ++ metadataSuffix))
  Action.writeJson sidecar (.obj shader.metadata)
  pure path

end Shader

end ShaderShrink
