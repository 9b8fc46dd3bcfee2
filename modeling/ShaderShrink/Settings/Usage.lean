import ShaderShrink.Reduction.Progress
import ShaderShrink.Settings.Basic

/-!
# Checks before a reduction

What a reduction needs is checked before it does anything: settings that go together, files that
exist, and a working directory that holds a reduction to go on with exactly if the user wants to go
on.
-/

namespace ShaderShrink.Settings

/-- Whether an optional text is given and not empty. -/
def isGiven (text : Option String) : Bool := text.any fun text => !text.isEmpty

/-- Checks the settings against each other. -/
def checkTogether {σ : Type} (settings : Settings) : Action σ Unit := do
  if settings.kind = .validatorError && !isGiven settings.errorString then
    throw (.usage ("If reduction kind is " ++ settings.kind.name ++
      " then --error-string must be provided."))
  if settings.kind.comparesImages && settings.referenceImage.isNone then
    throw (.usage ("Reduction kind " ++ settings.kind.name ++ " requires --reference-image."))
  if settings.usesServer && !isGiven settings.token then
    throw (.usage "If --server is used then --token is required")
  if !settings.usesServer && isGiven settings.token then
    Action.log .warning "--token ignored, as it is used without --server"
  if settings.usesServer && settings.softwareRenderer then
    Action.log .warning "--swiftshader ignored, as --server is being used"

/-- Checks that the input files exist. -/
def checkFiles {σ : Type} (settings : Settings) (shader : Path) : Action σ Unit := do
  if !(← Action.isFile shader) then
    throw (.usage ("shader file " ++ shader.text ++ " does not exist"))
  let metadata ← Action.ofExcept (shader.withSuffix Shader.metadataSuffix)
  if !(← Action.isFile metadata) then
    throw (.usage ("metadata file " ++ metadata.text ++ " does not exist"))
  match settings.referenceImage with
  | some image =>
    if !(← Action.isFile image) then
      throw (.usage ("reference image " ++ image.text ++ " does not exist"))
  | none => pure ()

/-- Checks that the working directory holds a reduction to go on with, or none at all. -/
def checkDirectory {σ : Type} (settings : Settings) (shader work : Path) : Action σ Unit := do
  let tree ← Action.filesFor (Progress.marker work)
  if settings.continuing then
    if !Progress.hasMarker tree work then
      throw (.usage ("cannot continue previous reduction: no " ++ Progress.markerName ++ " marker in " ++
        work.text))
  else if Progress.hasMarker tree work || (Progress.latest? tree work shader.stem).isSome then
    throw (.usage (work.text ++ " already holds a reduction of " ++ shader.stem ++
      "; use --continue-previous-reduction or a clean output directory"))

/-- All checks before a reduction. -/
def checkUsage {σ : Type} (settings : Settings) (shader work : Path) : Action σ Unit := do
  checkTogether settings
  checkFiles settings shader
  checkDirectory settings shader work

end ShaderShrink.Settings
