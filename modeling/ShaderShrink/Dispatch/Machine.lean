import ShaderShrink.Dispatch.Host
import ShaderShrink.Dispatch.Outcome
import ShaderShrink.Number.Decimal

/-!
# Tools on this machine

A command is a template in which the paths of the shader and of the image are filled in.  A command
that takes too long or cannot be run leaves no verdict.
-/

namespace ShaderShrink

/-- The tools of this machine. -/
structure Machine where
  renderCommand : List String
  validatorCommand : List String
  softwareRenderer : Bool
  timeout : Double

/-- Puts `new` in the place of each `old`, from the left; `skip` characters are part of an `old` that
was found already. -/
def Text.replaceFrom (old new : Text) : Nat → Text → Text
  | _, [] => []
  | skip + 1, _ :: rest => replaceFrom old new skip rest
  | 0, c :: rest =>
    if old.isPrefixOf (c :: rest) then new ++ replaceFrom old new (old.length - 1) rest
    else c :: replaceFrom old new 0 rest

/-- Puts `new` in the place of each `old` that is not empty, from the left. -/
def Text.replaceAll (old new t : Text) : Text := replaceFrom old new 0 t

namespace Machine

/-- Fills a path into a part of a command. -/
def fill (mark : String) (path : Path) (part : String) : String :=
  String.ofList (Text.replaceAll mark.toList path.text.toList part.toList)

/-- The mark of the shader in a command. -/
def shaderMark : String := "\x7bshader\x7d"

/-- The mark of the image in a command. -/
def imageMark : String := "\x7bimage\x7d"

/-- The command that renders a shader. -/
def renderLine (machine : Machine) (shader image : Path) (skip : Bool) : List String :=
  machine.renderCommand.map (fun part => fill imageMark image (fill shaderMark shader part)) ++
    (if machine.softwareRenderer then ["--swiftshader"] else []) ++
    (if skip then ["--skip_render"] else [])

/-- The command that validates a shader. -/
def validatorLine (machine : Machine) (shader : Path) : List String :=
  machine.validatorCommand.map (fill shaderMark shader)

variable {σ : Type}

/-- The name of a command's program; an empty command has none. -/
def program (command : List String) : Action σ String :=
  match command with
  | name :: _ => pure name
  | [] => throw .index

/-- Runs a command. -/
def run (machine : Machine) (host : Host σ) (command : List String) : Action σ Finished := do
  Action.log .debug ("running " ++ " ".intercalate command)
  let answer ← try host.run command machine.timeout
    catch fault =>
      if fault.isSystem then do
        throw (.oracle ("could not run " ++ (← program command) ++ ": " ++ fault.text))
      else throw fault
  match answer with
  | some finished => pure finished
  | none =>
    throw (.renderTimeout ((← program command) ++ " did not finish within " ++
      NumberLayout.plain.doubleText machine.timeout ++ "s"))

/-- Renders a shader. -/
def render (machine : Machine) (host : Host σ) (shader image : Path) (skip : Bool) :
    Action σ RenderOutcome := do
  let finished ← machine.run host (machine.renderLine shader image skip)
  let log := finished.stdout ++ finished.stderr
  if finished.code = 0 then
    if skip then return ⟨.skipped, none, log⟩
    else if ← Action.isFile image then return ⟨.success, some image, log⟩
    else return ⟨.unexpectedError, none, log⟩
  else return ⟨.ofFailure finished.code log, none, log⟩

/-- Validates a shader. -/
def validate (machine : Machine) (host : Host σ) (shader : Path) : Action σ ValidationOutcome := do
  let finished ← machine.run host (machine.validatorLine shader)
  return ⟨finished.code, finished.stdout ++ finished.stderr⟩

/-- The tools of this machine as a dispatcher. -/
def dispatcher (machine : Machine) (host : Host σ) : Dispatcher σ where
  render := machine.render host
  validate := machine.validate host

end Machine

end ShaderShrink
