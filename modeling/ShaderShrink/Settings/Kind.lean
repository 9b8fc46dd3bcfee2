import ShaderShrink.Fault
import ShaderShrink.Text.Blank

/-!
# Kinds of reductions

The kind of a reduction names the property that every accepted shader keeps.
-/

namespace ShaderShrink

/-- The property that a reduction keeps. -/
inductive ReductionKind where
  | noImage
  | notIdentical
  | identical
  | belowThreshold
  | aboveThreshold
  | validatorError
  | alwaysReduce
  | fuzz
  deriving DecidableEq, Repr

namespace ReductionKind

/-- All kinds. -/
def all : List ReductionKind :=
  [noImage, notIdentical, identical, belowThreshold, aboveThreshold, validatorError, alwaysReduce, fuzz]

/-- The name of a kind. -/
def name : ReductionKind → String
  | noImage => "no_image"
  | notIdentical => "not_identical"
  | identical => "identical"
  | belowThreshold => "below_threshold"
  | aboveThreshold => "above_threshold"
  | validatorError => "validator_error"
  | alwaysReduce => "always_reduce"
  | fuzz => "fuzz"

/-- The kind with exactly the given name. -/
def ofName? (name : String) : Option ReductionKind := all.find? fun kind => kind.name = name

/-- The kind that a user names, whatever the case and the white space around it. -/
def parse (text : String) : Except Fault ReductionKind :=
  match ofName? (String.ofList (Text.lower (Text.trim text.toList))) with
  | some kind => .ok kind
  | none => .error (.usage ("unknown reduction kind argument found: " ++ text))

/-- Whether candidates are compared with a reference image. -/
def comparesImages : ReductionKind → Bool
  | notIdentical | identical | belowThreshold | aboveThreshold => true
  | _ => false

/-- Every kind is found by its name. -/
theorem ofName?_name (kind : ReductionKind) : ofName? kind.name = some kind := by
  cases kind <;> decide

end ReductionKind

end ShaderShrink
