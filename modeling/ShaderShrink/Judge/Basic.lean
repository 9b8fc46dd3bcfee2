import ShaderShrink.Image.Comparison
import ShaderShrink.Judge.Fingerprint
import ShaderShrink.Pattern.ErrorString
import ShaderShrink.Shader.Storage

/-!
# Judges

A judge decides whether a candidate is interesting, that is, whether it still has the property that a
reduction keeps.  Most judges have the candidate rendered or validated and look at the outcome; the
judge for fuzzing accepts every behaviour once and keeps a corpus of those that it has seen.
-/

namespace ShaderShrink

/-- A shader to be judged. -/
structure Candidate where
  shader : Shader
  /-- Where the shader's file is. -/
  path : Path
  /-- Where files of the judgement may be put. -/
  scratch : Path

/-- Where the image of a candidate is put. -/
def Candidate.image (candidate : Candidate) : Path := candidate.scratch.child "image.png"

/-- What decides whether candidates are interesting. -/
inductive Judge where
  /-- Accepts everything. -/
  | always
  /-- Accepts candidates without an image whose log has the pattern. -/
  | noImage (pattern : Option Pattern.Node) (skipRender : Bool)
  /-- Accepts candidates whose image compares well with a reference. -/
  | image (reference : Path) (comparison : Comparison)
  /-- Accepts candidates that the validator refuses with the pattern. -/
  | validatorError (pattern : Pattern.Node)
  /-- Accepts candidates with a behaviour that is not in the corpus. -/
  | fuzzing (corpus : Path)

namespace Judge

variable {σ : Type}

/-- Whether a rendering without image is what the judge looks for. -/
def acceptsLog (pattern : Option Pattern.Node) (skipRender : Bool) (outcome : RenderOutcome) :
    Except Fault Bool :=
  if skipRender && (outcome.status = .success || outcome.status = .skipped) then .ok false
  else Pattern.accepts pattern outcome.log

/-- Judges by the absence of an image. -/
def judgeNoImage (dispatcher : Dispatcher σ) (pattern : Option Pattern.Node) (skipRender : Bool)
    (candidate : Candidate) : Action σ Bool := do
  let outcome ← dispatcher.render candidate.path candidate.image skipRender
  match outcome.producedImage? (← Action.files) with
  | some _ => return false
  | none => Action.ofExcept (acceptsLog pattern skipRender outcome)

/-- Judges by comparing images. -/
def judgeImage (dispatcher : Dispatcher σ) (reference : Path) (comparison : Comparison)
    (candidate : Candidate) : Action σ Bool := do
  let outcome ← dispatcher.render candidate.path candidate.image false
  match outcome.producedImage? (← Action.files) with
  | some file => comparison.acceptsFiles file reference
  | none => do
    Action.log .debug ("candidate produced no image: " ++ outcome.status.name)
    return false

/-- Judges by the validator. -/
def judgeValidator (dispatcher : Dispatcher σ) (pattern : Pattern.Node) (candidate : Candidate) :
    Action σ Bool := do
  let outcome ← dispatcher.validate candidate.path
  if outcome.failed then Action.ofExcept (pattern.fullMatch outcome.output) else return false

/-- The record of a behaviour in the corpus. -/
def corpusRecord (fingerprint : String) (outcome : RenderOutcome) : Json :=
  .obj [("fingerprint", .str fingerprint), ("status", .str outcome.status.name),
    ("log", .str (String.ofList outcome.log))]

/-- Judges by the corpus, and adds a new behaviour to it. -/
def judgeFuzzing (dispatcher : Dispatcher σ) (corpus : Path) (candidate : Candidate) :
    Action σ Bool := do
  let outcome ← dispatcher.render candidate.path candidate.image false
  let fingerprint ← outcome.fingerprint
  let record := corpus.child (fingerprint ++ Shader.metadataSuffix)
  if ← Action.isPresent record then return false
  else
    Action.copy candidate.path (corpus.child (fingerprint ++ Shader.fileSuffix))
    match outcome.producedImage? (← Action.files) with
    | some file => Action.copy file (corpus.child (fingerprint ++ ".png"))
    | none => pure ()
    Action.writeJson record (corpusRecord fingerprint outcome)
    Action.log .info ("new behaviour " ++ String.ofList (fingerprint.toList.take 12) ++
      " added to corpus")
    return true

/-- Whether a candidate is interesting. -/
def isInteresting (judge : Judge) (dispatcher : Dispatcher σ) (candidate : Candidate) :
    Action σ Bool :=
  match judge with
  | always => pure true
  | noImage pattern skipRender => judgeNoImage dispatcher pattern skipRender candidate
  | image reference comparison => judgeImage dispatcher reference comparison candidate
  | validatorError pattern => judgeValidator dispatcher pattern candidate
  | fuzzing corpus => judgeFuzzing dispatcher corpus candidate

end Judge

end ShaderShrink
