import ShaderShrink.Text.Quoted

/-!
# Problems of patterns

A text that is no pattern has a problem, mostly at some position, which counts characters from zero.
If the text has more than one line, the line and the column are told as well.
-/

namespace ShaderShrink.Pattern

/-- What is wrong with the flags of a group. -/
inductive FlagProblem where
  | localeFlag
  | incompatible
  | unknown
  | noneAndNoEnd
  | none
  | noColon
  | globalOn
  | globalOff
  | typeOff
  | onAndOff
  deriving DecidableEq, Repr

/-- What is wrong with a pattern. -/
inductive Problem where
  | endingEscape
  | badEscape (escape : Text)
  | incompleteEscape (escape : Text)
  | octalRange (escape : Text)
  | missingBrace
  | unknownCharacter (name : Text)
  | missingName (what : String)
  | unterminatedName (closing : Char)
  | badGroupName (name : Text)
  | unknownGroupName (name : Text)
  | badGroupNumber
  | invalidGroup (number : Nat)
  | openGroup
  | sameLookBehind
  | redefinedGroup (name : Text) (number earlier : Nat)
  | unterminatedSet
  | badRange (first last : Text)
  | leastAboveMost
  | nothingToRepeat
  | multipleRepeat
  | unexpectedEnd
  | unknownExtension (extension : Text)
  | unterminatedComment
  | unterminatedGroup
  | unopenedGroup
  | moreThanTwoBranches
  | lateGlobalFlags
  | flags (problem : FlagProblem)
  | lookBehindWidth
  deriving DecidableEq, Repr

/-- The description of a problem with flags. -/
def FlagProblem.message : FlagProblem → String
  | localeFlag => "bad inline flags: cannot use 'L' flag with a str pattern"
  | incompatible => "bad inline flags: flags 'a', 'u' and 'L' are incompatible"
  | unknown => "unknown flag"
  | noneAndNoEnd => "missing -, : or )"
  | none => "missing flag"
  | noColon => "missing :"
  | globalOn => "bad inline flags: cannot turn on global flag"
  | globalOff => "bad inline flags: cannot turn off global flag"
  | typeOff => "bad inline flags: cannot turn off flags 'a', 'u' and 'L'"
  | onAndOff => "bad inline flags: flag turned on and off"

/-- A text in quotes. -/
def inQuotes (t : Text) : String := String.ofList (Text.quoted t)

/-- The description of a problem. -/
def Problem.message : Problem → String
  | endingEscape => "bad escape (end of pattern)"
  | badEscape escape => "bad escape " ++ String.ofList escape
  | incompleteEscape escape => "incomplete escape " ++ String.ofList escape
  | octalRange escape => "octal escape value " ++ String.ofList escape ++ " outside of range 0-0o377"
  | missingBrace => "missing \x7b"
  | unknownCharacter name => "undefined character name " ++ inQuotes name
  | missingName what => "missing " ++ what
  | unterminatedName closing => "missing " ++ String.ofList [closing] ++ ", unterminated name"
  | badGroupName name => "bad character in group name " ++ inQuotes name
  | unknownGroupName name => "unknown group name " ++ inQuotes name
  | badGroupNumber => "bad group number"
  | invalidGroup number => "invalid group reference " ++ toString number
  | openGroup => "cannot refer to an open group"
  | sameLookBehind => "cannot refer to group defined in the same lookbehind subpattern"
  | redefinedGroup name number earlier =>
    "redefinition of group name " ++ inQuotes name ++ " as group " ++ toString number ++
      "; was group " ++ toString earlier
  | unterminatedSet => "unterminated character set"
  | badRange first last => "bad character range " ++ String.ofList first ++ "-" ++ String.ofList last
  | leastAboveMost => "min repeat greater than max repeat"
  | nothingToRepeat => "nothing to repeat"
  | multipleRepeat => "multiple repeat"
  | unexpectedEnd => "unexpected end of pattern"
  | unknownExtension extension => "unknown extension ?" ++ String.ofList extension
  | unterminatedComment => "missing ), unterminated comment"
  | unterminatedGroup => "missing ), unterminated subpattern"
  | unopenedGroup => "unbalanced parenthesis"
  | moreThanTwoBranches => "conditional backref with more than two branches"
  | lateGlobalFlags => "global flags not at the start of the expression"
  | flags problem => problem.message
  | lookBehindWidth => "look-behind requires fixed-width pattern"

/-- Where a position is: the number of its line and its column. -/
def lineAndColumn (t : Text) (position : Nat) : Nat × Nat :=
  let front := t.take position
  (front.count '\n' + 1, (front.reverse.takeWhile (· != '\n')).length + 1)

/-- The description of a problem at a position of a text. -/
def Problem.describe (problem : Problem) (t : Text) (position : Nat) : String :=
  let base := problem.message ++ " at position " ++ toString position
  if t.contains '\n' then
    let (line, column) := lineAndColumn t position
    base ++ " (line " ++ toString line ++ ", column " ++ toString column ++ ")"
  else base

end ShaderShrink.Pattern
