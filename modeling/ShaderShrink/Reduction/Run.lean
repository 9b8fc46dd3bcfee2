import ShaderShrink.Dispatch.Tools
import ShaderShrink.Judge.Choice
import ShaderShrink.Reduction.Loop
import ShaderShrink.Reduction.Preparation
import ShaderShrink.Settings.Usage

/-!
# A whole reduction

A reduction checks its usage, puts its input into the working directory, and then reduces, afresh or
from where an earlier reduction stopped.  A fault that is neither one of the usage nor an interruption
is described in a file of the working directory.
-/

namespace ShaderShrink.Reduction

variable {σ : Type}

/-- The dispatcher that the settings ask for.  The jobs of a server are numbered from zero. -/
def openTools (host : Host σ) (settings : Settings) : Action σ (Dispatcher σ) := do
  let tools ← Action.ofExcept (Tools.ofSettings settings)
  modify fun world => { world with nextJob := 0 }
  return tools.dispatcher host

/-- Reduces a shader that is in the working directory. -/
def reduceFile (verdict : Verdict σ) (shader work : Path) (settings : Settings) :
    Action σ ReductionResult := do
  let version ← Action.ofExcept (Version.ofText (← Action.readText shader))
  Action.log .debug ("shading language version " ++ version.text)
  let start := Progress.start (← Action.files) shader work settings.continuing
  let program ← Shader.load start.shader
  if start.resumed then
    Action.log .info ("continuing previous reduction from " ++ start.shader.name ++ " at step " ++
      toString start.nextStep)
  Action.makeDirectories work
  let reducer : Reducer σ := ⟨verdict, work, settings.keepRejected, settings.stopOnError⟩
  let context := Context.create settings.seed ⟨settings.reduceEverywhere, version⟩
  let state : ReductionState := ⟨context, program, !start.resumed, .running, []⟩
  fun world =>
    match reducer.reduce shader.stem start.nextStep settings.maxSteps (state, world) with
    | .ok result (_, world) => .ok result world
    | .error fault (_, world) => .error fault world

/-- Whether a fault is described in a file. -/
def isDescribed (fault : Fault) : Bool := !fault.isUsage && !fault.isInterruption

/-- Describes a fault in the working directory. -/
def describeFault (work : Path) (base : String) (fault : Fault) : Action σ Unit := do
  Action.makeDirectories work
  let dump ← Artifact.writeFault work base fault
  Action.log .error ("reduction failed, details in " ++ dump.path.text)

/-- Reduces a shader in a working directory with tools that `tools` makes ready. -/
def run (tools : Action σ (Dispatcher σ)) (shader : Path) (settings : Settings) (work : Path) :
    Action σ ReductionResult := do
  settings.checkUsage shader work
  let (placed, reference) ← Preparation.prepare shader work settings.referenceImage
  try
    let dispatcher ← tools
    let judge ← Judge.ofSettings settings work reference
    reduceFile (judge.isInteresting dispatcher) placed work settings
  catch fault => do
    if isDescribed fault then describeFault work placed.stem fault
    throw fault

end ShaderShrink.Reduction
