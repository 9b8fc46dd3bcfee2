import ShaderShrink.Fault
import ShaderShrink.Text.Word

/-!
# Shading language versions

The version directive stands at the start of some line: a number sign, the word `version`, a number
and perhaps a profile, set apart by white space that may contain line feeds, and nothing else up to
the end of a line.  The first directive counts; a shader without one has version 100.
-/

namespace ShaderShrink

/-- The profile named by a version directive. -/
inductive Profile where
  | unspecified
  | es
  | core
  | compatibility
  deriving DecidableEq, Repr

/-- The name of a profile. -/
def Profile.name : Profile → String
  | unspecified => ""
  | es => "es"
  | core => "core"
  | compatibility => "compatibility"

/-- The version of the shading language that a shader is written in. -/
structure Version where
  number : Nat
  profile : Profile
  deriving DecidableEq, Repr

namespace Version

/-- The version of a shader without a directive. -/
def default : Version := ⟨100, .unspecified⟩

/-- Unsigned integers exist from version 130 on. -/
def hasUnsigned (version : Version) : Bool := 130 ≤ version.number

/-- The number, followed by the profile if there is one. -/
def text (version : Version) : String :=
  match version.profile with
  | .unspecified => toString version.number
  | profile => toString version.number ++ " " ++ profile.name

/-- Whether nothing but white space stands before the end of some line. -/
def endsLine (t : Text) : Bool :=
  (t.dropWhile Text.isBlank).isEmpty || (t.takeWhile Text.isBlank).contains '\n'

/-- The profile after the number of a directive, if one stands there and ends the directive. -/
def profileAt? (t : Text) : Option Profile :=
  if t.head?.any Text.isBlank then
    [Profile.es, .core, .compatibility].find? fun profile =>
      (Text.drop? profile.name.toList (Text.trimLeft t)).any endsLine
  else none

/-- The digits and the profile of a directive at the front of the text. -/
def directiveAt? (t : Text) : Option (Text × Profile) := do
  let t ← Text.drop? ['#'] (Text.trimLeft t)
  let t ← Text.drop? "version".toList (Text.trimLeft t)
  if !t.head?.any Text.isBlank then none
  else
    let t := Text.trimLeft t
    let digits := t.takeWhile Text.isDigit
    let rest := t.dropWhile Text.isDigit
    if digits.isEmpty then none
    else
      match profileAt? rest with
      | some profile => some (digits, profile)
      | none => if endsLine rest then some (digits, .unspecified) else none

/-- The first directive after a line feed. -/
def directiveBelow? : Text → Option (Text × Profile)
  | [] => none
  | c :: rest =>
    if c = '\n' then (directiveAt? rest).or (directiveBelow? rest) else directiveBelow? rest

/-- The first directive at the start of a line. -/
def directive? (t : Text) : Option (Text × Profile) := (directiveAt? t).or (directiveBelow? t)

/-- The version that a text declares. -/
def ofText (t : Text) : Except Fault Version :=
  match directive? t with
  | none => .ok default
  | some (digits, profile) => (Text.boundedNumeral digits).map fun number => ⟨number, profile⟩

end Version

end ShaderShrink
