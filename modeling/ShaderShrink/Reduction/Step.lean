import ShaderShrink.Fault
import ShaderShrink.Number.Decimal
import ShaderShrink.Shader.Basic
import ShaderShrink.Text.Quoted
import ShaderShrink.Text.Word

/-!
# Steps and their names

Each judged candidate is a step with a number and an outcome, and its files are named by the shader's
base name, the number with at least three digits, and the outcome.  The recogniser finds the number
and the outcome of every name that the writer makes.
-/

namespace ShaderShrink

/-- How a step ended. -/
inductive StepOutcome where
  | success
  | failure
  | error
  deriving DecidableEq, Repr

namespace StepOutcome

/-- All outcomes. -/
def all : List StepOutcome := [success, failure, error]

/-- The name of an outcome. -/
def name : StepOutcome → String
  | success => "success"
  | failure => "failure"
  | error => "error"

/-- The outcome with the given name. -/
def ofName (name : String) : Except Fault StepOutcome :=
  match all.find? fun outcome => outcome.name = name with
  | some outcome => .ok outcome
  | none =>
    .error (.value (String.ofList (Text.quoted name.toList) ++ " is not a valid StepOutcome"))

end StepOutcome

namespace Step

/-- The least number of digits of a step number. -/
def numberWidth : Nat := 3

/-- The number of a step, which is never negative. -/
def number (n : Int) : Except Fault Nat :=
  if n < 0 then .error (.value ("step index must be non-negative, got " ++ toString n))
  else .ok n.toNat

/-- The common part of the names of a step's files, with the outcome if it is known. -/
def fileStem (base : String) (number : Nat) (outcome : Option StepOutcome) : String :=
  base ++ "_" ++ NumberLayout.padded numberWidth number ++
    match outcome with
    | none => ""
    | some outcome => "_" ++ outcome.name

/-- The name of a step's shader file. -/
def fileName (base : String) (number : Nat) (outcome : StepOutcome) : String :=
  fileStem base number (some outcome) ++ Shader.fileSuffix

/-- The common part of the names of the final files. -/
def finalStem (base : String) : String := base ++ "_reduced_final"

/-- The name of the file that describes what stopped a reduction. -/
def faultFileName (base : String) : String := base ++ "_exception.txt"

/-- The outcome that the end of a name tells: an underscore, the outcome and the suffix of shaders,
perhaps with a line feed behind it. -/
def outcomeOfEnd? (t : Text) : Option StepOutcome :=
  StepOutcome.all.find? fun outcome =>
    let expected := ("_" ++ outcome.name ++ Shader.fileSuffix).toList
    t == expected || t == expected ++ ['\n']

/-- The number and the outcome in the name of a step's shader file. -/
def ofFileName? (base name : String) : Option (Nat × StepOutcome) := do
  let t ← Text.drop? (base ++ "_").toList name.toList
  let digits := t.takeWhile Text.isDigit
  if digits.isEmpty then none
  else
    let outcome ← outcomeOfEnd? (t.dropWhile Text.isDigit)
    some (Text.numeral digits, outcome)

end Step

end ShaderShrink
