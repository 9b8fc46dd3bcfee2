import ShaderShrink.Files.World
import ShaderShrink.Number.Double
import ShaderShrink.Settings.Reading

/-!
# Arguments of commands

An argument with two dashes in front is an option; it is a flag, or its value stands behind an equals
sign or is the next argument.  The other arguments have places.  Behind two dashes alone all arguments
have places.
-/

namespace ShaderShrink

/-- The options that a command knows. -/
structure OptionNames where
  valued : List String
  flags : List String

/-- The arguments of a command. -/
structure Arguments where
  /-- The options with values, the last one first. -/
  values : List (String × String)
  flags : List String
  /-- The arguments with places, the last one first. -/
  placed : List String

namespace Arguments

/-- No arguments. -/
def empty : Arguments := ⟨[], [], []⟩

/-- The option with which a user asks for help. -/
def helpFlag : String := "--help"

/-- The name of an option, and its value if there is an equals sign. -/
def splitOption (argument : String) : String × Option String :=
  let t := argument.toList
  match t.dropWhile (· != '=') with
  | _ :: value => (String.ofList (t.takeWhile (· != '=')), some (String.ofList value))
  | [] => (argument, none)

/-- Whether an argument is an option. -/
def isOption (argument : String) : Bool :=
  match argument.toList with
  | '-' :: _ :: _ => true
  | _ => false

/-- Reads arguments behind those already read; nothing if there is an unknown option, a flag with a
value or an option without one. -/
def read? (names : OptionNames) (done : Arguments) : List String → Option Arguments
  | [] => some done
  | argument :: rest =>
    if argument = "--" then some { done with placed := rest.reverse ++ done.placed }
    else if !isOption argument then read? names { done with placed := argument :: done.placed } rest
    else
      let (name, value) := splitOption argument
      if names.flags.contains name then
        if value.isSome then none else read? names { done with flags := name :: done.flags } rest
      else if names.valued.contains name then
        match value, rest with
        | some value, rest => read? names { done with values := (name, value) :: done.values } rest
        | none, value :: rest => read? names { done with values := (name, value) :: done.values } rest
        | none, [] => none
      else none

/-- The value of an option; of several the last one. -/
def value? (arguments : Arguments) (name : String) : Option String :=
  (arguments.values.find? fun entry => entry.1 = name).map (·.2)

/-- Whether a flag is there. -/
def has (arguments : Arguments) (flag : String) : Bool := arguments.flags.contains flag

/-- Reads the value of an option as that of a setting: no problem if it is absent. -/
def check? {α : Type} (arguments : Arguments) (name : String)
    (read : Text → Except SettingProblem α) : Option (Option α) :=
  match arguments.value? name with
  | none => some none
  | some value => (read value.toList).toOption.map some

/-- The value of an option as a field. -/
def field (key : String) (value : Option Json) : List (String × Json) :=
  match value with
  | some value => [(key, value)]
  | none => []

end Arguments

end ShaderShrink
