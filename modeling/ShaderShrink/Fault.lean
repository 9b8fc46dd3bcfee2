/-!
# Faults

Everything that can stop an operation, by cause.  A usage fault is found before any work is done; an
oracle fault means that a candidate could not be judged; the other faults end the operation in which
they arise.  An interruption is no ordinary fault: nothing records it on the way out.
-/

namespace ShaderShrink

/-- What is wrong with the value of a setting. -/
inductive SettingProblem where
  | notWhole
  | notWholeText
  | wholeTooLong
  | fractional
  | notFinite
  | notNumber
  | notNumberText
  | notFlag
  | notFlagText
  | notText
  | notPath
  | notList
  | notKind
  | belowMinimum
  | notAboveMinimum
  | unknownSetting
  deriving DecidableEq, Repr

/-- Failures of the system around the program, by cause. -/
inductive SystemFailure where
  | missing
  | exists
  | isDirectory
  | notDirectory
  | denied
  | timedOut
  | noImage
  | unreachable
  | refused
  | nameTooLong
  /-- A path holds the character that ends texts for the system. -/
  | nullInPath
  | other
  deriving DecidableEq, Repr

/-- Everything that can stop an operation. -/
inductive Fault where
  /-- The settings or files do not allow the operation. -/
  | usage (message : String)
  /-- Some settings have values that are not theirs, each named by its place. -/
  | settings (problems : List (List String × SettingProblem))
  /-- No verdict could be had. -/
  | oracle (message : String)
  /-- No verdict could be had in time. -/
  | renderTimeout (message : String)
  /-- A reduction was told to stop at a failing oracle. -/
  | fatal (message : String)
  /-- The starting shader does not show the property. -/
  | notInteresting (message : String)
  /-- A value is outside of what an operation takes. -/
  | value (message : String)
  /-- An operation failed while it ran. -/
  | runtime (message : String)
  /-- An expectation did not hold. -/
  | assertion (message : String)
  /-- The user interrupted the program. -/
  | interrupted (message : String)
  /-- A document is no JSON. -/
  | malformedJson
  /-- A value cannot be written as JSON. -/
  | unwritableJson
  /-- A whole number is too large for a double. -/
  | tooLarge
  /-- A value is of a type that an operation does not take. -/
  | wrongType
  /-- A picture has more pixels than may be looked at. -/
  | tooManyPixels
  /-- A position lies outside of a list. -/
  | index
  /-- Bytes are no UTF-8 text. -/
  | undecodableText
  /-- A list in the environment is no JSON. -/
  | environment
  /-- A message has markup that cannot be printed. -/
  | markup
  /-- A group of a pattern ends in front of its beginning. -/
  | crossedGroup
  /-- The groups of a pattern are nested too deep. -/
  | tooDeep
  /-- The system around the program failed; `text` is how it says so. -/
  | system (failure : SystemFailure) (text : String)
  deriving DecidableEq, Repr

namespace Fault

/-- The text of a fault inside other messages. -/
def text : Fault → String
  | usage message | oracle message | renderTimeout message | fatal message
  | notInteresting message | value message | runtime message | assertion message
  | interrupted message => message
  | settings problems =>
    toString problems.length ++
      (if problems.length = 1 then " validation error" else " validation errors") ++
      " for ReducerSettings"
  | malformedJson => "JSONDecodeError"
  | unwritableJson => "the value is nested too deep"
  | wrongType => "the value is of another type"
  | tooLarge => "int too large to convert to float"
  | tooManyPixels => "the picture has too many pixels"
  | index => "list index out of range"
  | undecodableText => "the bytes are no UTF-8 text"
  | environment => "a list in the environment is no JSON"
  | markup => "the markup of the message cannot be read"
  | crossedGroup =>
    "The span of capturing group is wrong, please report a bug for the re module."
  | tooDeep => "maximum recursion depth exceeded"
  | system _ text => text

/-- Faults of the usage: they are found before any work is done. -/
def isUsage : Fault → Bool
  | usage _ | settings _ => true
  | _ => false

/-- Faults of the oracle: they leave a candidate without a verdict. -/
def isOracle : Fault → Bool
  | oracle _ | renderTimeout _ => true
  | _ => false

/-- Faults that the program raises itself, with a message for its user. -/
def isReported : Fault → Bool
  | usage _ | settings _ | oracle _ | renderTimeout _ | fatal _ | notInteresting _ => true
  | _ => false

/-- Failures of the system. -/
def isSystem : Fault → Bool
  | system .. => true
  | _ => false

/-- Faults of a value, among them everything that could not be decoded. -/
def isValue : Fault → Bool
  | value _ | malformedJson | undecodableText | environment => true
  | _ => false

/-- Whether the fault is an interruption. -/
def isInterruption : Fault → Bool
  | interrupted _ => true
  | _ => false

end Fault

end ShaderShrink
