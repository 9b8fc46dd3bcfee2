import ShaderShrink.CommandLine.Arguments
import ShaderShrink.CommandLine.Markup
import ShaderShrink.Reduction.Run

/-!
# Commands

The command `reduce` reduces a shader, and `status` tells how far a reduction came.  Arguments that no
command takes are refused without a message; faults that the program raises itself are printed, and
all others escape.
-/

namespace ShaderShrink.Command

/-- What a command prints. -/
inductive Output where
  /-- What the command line takes. -/
  | help
  /-- That the command line does not take these arguments. -/
  | refusal
  | message (text : String)
  /-- The summary of a reduction, by rows. -/
  | summary (rows : List (String × String))
  | status (status : Json)
  /-- A fault that is not printed as a message. -/
  | fault (fault : Fault)

/-- How a command ends. -/
structure Report where
  exitCode : Nat
  output : Output

variable {σ : Type}

/-- The report of arguments that are refused. -/
def refused : Report := ⟨2, .refusal⟩

/-- The report with a message behind a title. -/
def printed (exitCode : Nat) (title : String) (fault : Fault) : Report :=
  match Markup.print ("[red]" ++ title ++ ":[/red] " ++ fault.text) with
  | .ok text => ⟨exitCode, .message text⟩
  | .error fault => ⟨1, .fault fault⟩

/-- The report of a fault. -/
def failed (fault : Fault) : Report :=
  if fault.isUsage then printed 2 "usage error" fault
  else if fault.isReported then printed 1 "reduction failed" fault
  else if fault.isInterruption then ⟨130, .refusal⟩
  else ⟨1, .fault fault⟩

/-- The options of the command `reduce` that are flags, with the settings that they turn on. -/
def reduceFlags : List (String × String) :=
  [("--verbose", "verbose"), ("--skip-render", "skip_render"),
    ("--reduce-everywhere", "reduce_everywhere"), ("--stop-on-error", "stop_on_error"),
    ("--swiftshader", "swiftshader"),
    ("--continue-previous-reduction", "continue_previous_reduction")]

/-- The flag that turns off the writing of rejected candidates. -/
def dropRejectedFlag : String := "--no-keep-rejected"

/-- The options of the command `reduce`. -/
def reduceOptions : OptionNames where
  valued := ["--reference-image", "--threshold", "--timeout", "--max-steps", "--retry-limit", "--seed",
    "--error-string", "--server", "--token", "--output", "--config"]
  flags := Arguments.helpFlag :: dropRejectedFlag :: reduceFlags.map (·.1)

/-- The options of the command `status`. -/
def statusOptions : OptionNames where
  valued := ["--work-dir", "--base-name"]
  flags := [Arguments.helpFlag]

/-- The settings that the arguments give, but for the kind; nothing if a value is no number. -/
def overrides? (arguments : Arguments) : Option (List (String × Json)) := do
  let threshold ← arguments.check? "--threshold" Settings.doubleOfText
  let whole := fun name => arguments.check? name Settings.wholeOfText
  let timeout ← whole "--timeout"
  let maxSteps ← whole "--max-steps"
  let retryLimit ← whole "--retry-limit"
  let seed ← whole "--seed"
  let given := fun name => (arguments.value? name).map Json.str
  let image := (arguments.value? "--reference-image").map fun path => Json.str (Path.ofText path).text
  some (Arguments.field "reference_image" image ++
    Arguments.field "threshold" (threshold.map .double) ++
    Arguments.field "timeout" (timeout.map .int) ++
    Arguments.field "max_steps" (maxSteps.map .int) ++
    Arguments.field "retry_limit" (retryLimit.map .int) ++ Arguments.field "seed" (seed.map .int) ++
    Arguments.field "error_string" (given "--error-string") ++
    Arguments.field "server" (given "--server") ++ Arguments.field "token" (given "--token") ++
    (reduceFlags.filter fun flag => arguments.has flag.1).map fun flag => (flag.2, .bool true))

/-- Whether the file with the configuration, if any, is a file. -/
def configUsable (tree : FileTree) (arguments : Arguments) : Bool :=
  match arguments.value? "--config" with
  | none => true
  | some config => !config.isEmpty && tree.isFile (Path.ofText config)

/-- The rows of a summary, as they are printed. -/
def summaryRows (settings : Settings) (result : ReductionResult) :
    Except Fault (List (String × String)) :=
  [("reason", result.reason.name), ("first_step", toString result.firstStep),
    ("steps_taken", toString result.stepsTaken), ("seed", toString settings.seed),
    ("final", result.artifact.path.text)].mapM fun row => return (row.1, ← Markup.print row.2)

/-- Reduces a shader with the settings that the arguments give. -/
def runReduce (host : Host σ) (surroundings : Settings.Surroundings) (arguments : Arguments)
    (given : List (String × Json)) (shader kind : String) : Action σ Report := do
  let kind ← Action.ofExcept (ReductionKind.parse kind)
  let config := (arguments.value? "--config").map Path.ofText
  let settings ←
    Settings.load config (("reduction_kind", .str kind.name) :: given) surroundings
  let settings :=
    if arguments.has dropRejectedFlag then { settings with keepRejected := false } else settings
  let work := Path.ofText ((arguments.value? "--output").getD ".")
  let result ← Reduction.run (Reduction.openTools host settings) (Path.ofText shader) settings work
  return ⟨0, .summary (← Action.ofExcept (summaryRows settings result))⟩

/-- The command `reduce`. -/
def reduce (host : Host σ) (surroundings : Settings.Surroundings) (arguments : Arguments) :
    Action σ Report := do
  match arguments.placed, overrides? arguments with
  | [kind, shader], some given =>
    if configUsable (← Action.files) arguments then
      try runReduce host surroundings arguments given shader kind
      catch fault => return failed fault
    else return refused
  | _, _ => return refused

/-- The number of steps with an outcome, by the outcomes' names in the order of their first steps. -/
def outcomeCounts (steps : List FoundStep) : List (String × Json) :=
  (steps.map (·.outcome)).eraseDups.map fun outcome =>
    (outcome.name, .int ((steps.filter fun step => step.outcome = outcome).length : Nat))

/-- A number that may be absent. -/
def numberOrNull : Option Nat → Json
  | some n => .int n
  | none => .null

/-- How far a reduction came. -/
def statusOf (tree : FileTree) (work : Path) (base : String) : Json :=
  .obj [("in_progress", .bool (Progress.hasMarker tree work)),
    ("latest_success", numberOrNull (Progress.latestSuccess? tree work base)),
    ("latest_any", numberOrNull (Progress.latest? tree work base)),
    ("counts", .obj (outcomeCounts (Progress.steps tree work base)))]

/-- The command `status`. -/
def status (tree : FileTree) (arguments : Arguments) : Report :=
  match arguments.placed, arguments.value? "--work-dir", arguments.value? "--base-name" with
  | [], some work, some base =>
    if tree.isDirectory (Path.ofText work) then
      ⟨0, .status (statusOf tree (Path.ofText work) base)⟩
    else refused
  | _, _, _ => refused

/-- Reads the arguments of a command and runs it, unless they ask for help. -/
def withArguments (names : OptionNames) (given : List String) (act : Arguments → Action σ Report) :
    Action σ Report :=
  match Arguments.read? names .empty given with
  | none => pure refused
  | some arguments =>
    if arguments.has Arguments.helpFlag then pure ⟨0, .help⟩ else act arguments

/-- Runs the command that the arguments name. -/
def run (host : Host σ) (surroundings : Settings.Surroundings) (given : List String) :
    Action σ Report :=
  match if given.head? = some "--" then given.drop 1 else given with
  | "reduce" :: rest => withArguments reduceOptions rest (reduce host surroundings)
  | "status" :: rest =>
    withArguments statusOptions rest fun arguments => return status (← Action.files) arguments
  | first :: _ => pure (if first = Arguments.helpFlag then ⟨0, .help⟩ else refused)
  | [] => pure refused

end ShaderShrink.Command
