import ShaderShrink.Pattern.Matching
import ShaderShrink.Pattern.Reading

/-!
# Error strings

An error string is a pattern that is looked for in what a tool says: anything may stand in front of it
and behind it.
-/

namespace ShaderShrink.Pattern

/-- A dot stands for every character. -/
def errorModes : Modes := ⟨false, false, false, true, false⟩

/-- What stands around an error string: anything. -/
def anything : Text := ['.', '*']

/-- The pattern of an error string, with anything around it.  An empty error string is none. -/
def ofErrorString (errorString : Option String) : Except Fault (Option Node) :=
  match errorString with
  | none => .ok none
  | some text =>
    if text.isEmpty then .ok none
    else
      let t := anything ++ text.toList ++ anything
      match read errorModes t with
      | .ok node => .ok (some node)
      | .error (.fault fault) => .error fault
      | .error (.problem problem position) =>
        let described :=
          match position with
          | some position => problem.describe t position
          | none => problem.message
        .error (.usage ("invalid error string " ++ inQuotes text.toList ++ ": " ++ described))

/-- Whether an optional pattern matches a text; no pattern matches everything. -/
def accepts (pattern : Option Node) (t : Text) : Except Fault Bool :=
  match pattern with
  | none => .ok true
  | some node => node.fullMatch t

end ShaderShrink.Pattern
