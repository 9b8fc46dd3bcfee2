import ShaderShrink.Judge.Basic
import ShaderShrink.Settings.Basic

/-!
# Choosing the judge

The kind of a reduction decides which judge it has.  The error string has to be a pattern whatever the
kind is.
-/

namespace ShaderShrink.Judge

/-- The name of the corpus in a working directory. -/
def corpusName : String := "corpus"

/-- The comparison of a kind that compares images. -/
def comparison? (settings : Settings) : Except Fault (Option Comparison) :=
  match settings.kind with
  | .identical => .ok (some (.sameness true))
  | .notIdentical => .ok (some (.sameness false))
  | .belowThreshold =>
    (Threshold.ofLimit settings.threshold false).map fun threshold => some (.distance threshold)
  | .aboveThreshold =>
    (Threshold.ofLimit settings.threshold true).map fun threshold => some (.distance threshold)
  | _ => .ok none

/-- The judge of a kind that compares images. -/
def ofComparison (settings : Settings) (reference : Option Path) : Except Fault Judge := do
  match reference with
  | none =>
    throw (.usage ("Reduction kind " ++ settings.kind.name ++ " requires a reference image"))
  | some reference =>
    match ← comparison? settings with
    | some comparison => return .image reference comparison
    | none => return .always

/-- The judge that the settings ask for.  The reference image given goes before that of the settings. -/
def ofSettings {σ : Type} (settings : Settings) (work : Path) (reference : Option Path) :
    Action σ Judge := do
  let pattern ← Action.ofExcept (Pattern.ofErrorString settings.errorString)
  match settings.kind with
  | .noImage => return .noImage pattern settings.skipRender
  | .alwaysReduce => return .always
  | .fuzz => do
    let corpus := work.child corpusName
    Action.makeDirectories corpus
    return .fuzzing corpus
  | .validatorError =>
    match pattern with
    | some pattern => return .validatorError pattern
    | none => throw (.usage "validator_error reduction requires an error string")
  | _ => Action.ofExcept (ofComparison settings (reference.or settings.referenceImage))

end ShaderShrink.Judge
