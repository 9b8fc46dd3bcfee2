import ShaderShrink.Files.World

/-!
# What the tools report

Rendering a shader ends with a status, a log and perhaps an image; validating it ends with an exit
code and an output.  An image counts only if the status is a success and its file exists.
-/

namespace ShaderShrink

/-- How rendering ended. -/
inductive RenderStatus where
  | success
  | compileError
  | linkError
  | crash
  | nondet
  | timeout
  | skipped
  | unexpectedError
  deriving DecidableEq, Repr

namespace RenderStatus

/-- All statuses. -/
def all : List RenderStatus :=
  [success, compileError, linkError, crash, nondet, timeout, skipped, unexpectedError]

/-- The name of a status. -/
def name : RenderStatus → String
  | success => "SUCCESS"
  | compileError => "COMPILE_ERROR"
  | linkError => "LINK_ERROR"
  | crash => "CRASH"
  | nondet => "NONDET"
  | timeout => "TIMEOUT"
  | skipped => "SKIPPED"
  | unexpectedError => "UNEXPECTED_ERROR"

/-- The status with the given name. -/
def ofName? (name : String) : Option RenderStatus := all.find? fun status => status.name = name

/-- The status of a tool that failed: by what its log says, and else by whether a signal ended it. -/
def ofFailure (code : Int) (log : Text) : RenderStatus :=
  let log := Text.lower log
  let tells := fun (part : String) => Text.hasPart part.toList log
  if tells "compile error" || tells "compilation failed" then compileError
  else if tells "link error" || tells "linking failed" then linkError
  else if tells "nondet" then nondet
  else if code < 0 then crash
  else unexpectedError

/-- Every status is found by its name. -/
theorem ofName?_name (status : RenderStatus) : ofName? status.name = some status := by
  cases status <;> decide

end RenderStatus

/-- What rendering a shader gave. -/
structure RenderOutcome where
  status : RenderStatus
  image : Option Path
  log : Text
  deriving DecidableEq, Repr

/-- The image of a successful rendering, if its file exists. -/
def RenderOutcome.producedImage? (outcome : RenderOutcome) (tree : FileTree) : Option Path :=
  if outcome.status = .success then outcome.image.filter fun image => tree.isFile image else none

/-- What validating a shader gave. -/
structure ValidationOutcome where
  code : Int
  output : Text
  deriving DecidableEq, Repr

/-- Whether the validator refused the shader. -/
def ValidationOutcome.failed (outcome : ValidationOutcome) : Bool := outcome.code != 0

/-- The tools that run shaders. -/
structure Dispatcher (σ : Type) where
  /-- Renders the shader at a path into an image at another path; with `skip` it is only compiled. -/
  render : (shader image : Path) → (skip : Bool) → Action σ RenderOutcome
  /-- Validates the shader at a path. -/
  validate : Path → Action σ ValidationOutcome

end ShaderShrink
