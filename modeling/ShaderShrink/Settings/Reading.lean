import ShaderShrink.Files.Path
import ShaderShrink.Json.Basic
import ShaderShrink.Number.Numeral
import ShaderShrink.Settings.Kind
import ShaderShrink.Text.Word

/-!
# Reading the values of settings

A setting takes values of its own type and those that stand for one without loss: a whole double or
a numeral for a whole number, a numeral for a double, some words for a flag.  Each way of not being
such a value is a problem of its own.
-/

namespace ShaderShrink.Settings

/-- The white space that numerals may have around them: without the separators of ASCII. -/
def isMargin (c : Char) : Bool := Text.isBlank c && !(28 ≤ c.toNat && c.toNat ≤ 31)

/-- The text without the white space around it. -/
def dropMargin (t : Text) : Text := ((t.dropWhile isMargin).reverse.dropWhile isMargin).reverse

/-- Removes single underscores between other characters; two in a row or one at an end remain. -/
def dropUnderscores (t : Text) : Text :=
  if t.head? = some '_' || t.getLast? = some '_' || Text.hasPart ['_', '_'] t then t
  else t.filter (· != '_')

/-- The text behind the zeros and underscores at its front, `last` being the character before it.  A
point keeps the character in front of it, and so does the end; otherwise a digit or a minus sign
follows. -/
def dropZeros? (last : Char) : Text → Option Text
  | [] => some [last]
  | c :: rest =>
    if c == '0' || c == '_' then dropZeros? c rest
    else if c == '.' then some (last :: c :: rest)
    else if Text.isAsciiDigit c || c == '-' then some (c :: rest)
    else none

/-- The text without a fraction of zeros. -/
def dropZeroFraction (t : Text) : Text :=
  let fraction := (t.dropWhile (· != '.')).drop 1
  if !fraction.isEmpty && fraction.all (· == '0') then t.takeWhile (· != '.') else t

/-- The whole number that some digits stand for: no further zero may stand behind one at the front. -/
def wholeOfDigits (negative : Bool) (digits : Text) : Except SettingProblem Int :=
  if digits.head? = some '0' && digits != ['0'] then .error .notWholeText
  else if Text.maxDigits < (digits.takeWhile Text.isAsciiDigit).length then .error .wholeTooLong
  else if digits.isEmpty || !digits.all Text.isAsciiDigit then .error .notWholeText
  else
    let n : Int := Text.numeral digits
    .ok (if negative then -n else n)

/-- The whole number that a text without zeros at its front stands for. -/
def wholeOfPlain (negative : Bool) (t : Text) : Except SettingProblem Int :=
  match dropUnderscores (dropZeroFraction t), negative with
  | '-' :: digits, false => wholeOfDigits true digits
  | digits, negative => wholeOfDigits negative digits

/-- The whole number that a numeral stands for: digits, perhaps with a fraction of zeros.  Any zeros
and underscores may stand in front, even in front of a minus sign. -/
def wholeOfText (t : Text) : Except SettingProblem Int :=
  let (negative, t) := Text.splitSign (dropMargin t)
  match t with
  | [] => .error .notWholeText
  | c :: rest =>
    if c == '0' then
      match dropZeros? c rest with
      | some plain => wholeOfPlain negative plain
      | none => .error .notWholeText
    else if Text.isAsciiDigit c then wholeOfPlain negative t
    else .error .notWholeText

/-- The greatest size of a whole number that is given as a double. -/
def maxWholeDouble : Int := 9223372036854775808

/-- A whole number. -/
def readWhole : Json → Except SettingProblem Int
  | .int n => .ok n
  | .bool value => .ok (if value then 1 else 0)
  | .double value =>
    if !value.isFinite then .error .notFinite
    else match value.toInt? with
    | none => .error .fractional
    | some n => if -maxWholeDouble < n && n < maxWholeDouble then .ok n else .error .wholeTooLong
  | .str text => wholeOfText text.toList
  | _ => .error .notWhole

/-- A whole number that is not negative. -/
def readCount (value : Json) : Except SettingProblem Nat := do
  let n ← readWhole value
  if 0 ≤ n then .ok n.toNat else .error .belowMinimum

/-- A positive whole number. -/
def readPositive (value : Json) : Except SettingProblem Nat := do
  let n ← readWhole value
  if 0 < n then .ok n.toNat else .error .notAboveMinimum

/-- The double that a text stands for.  Underscores are dropped only where there is no white space
around. -/
def doubleOfText (t : Text) : Except SettingProblem Double :=
  match (Double.ofNumeral? (dropMargin t)).or (Double.ofNumeral? (dropUnderscores t)) with
  | some value => .ok value
  | none => .error .notNumberText

/-- A double. -/
def readDouble : Json → Except SettingProblem Double
  | .double value => .ok value
  | .int n =>
    match Double.ofInt n with
    | .infinite _ => .error .notNumber
    | value => .ok value
  | .bool value => .ok (Double.ofInt (if value then 1 else 0))
  | .str text => doubleOfText text.toList
  | _ => .error .notNumber

/-- A double that is not negative. -/
def readMagnitude (value : Json) : Except SettingProblem Double := do
  let x ← readDouble value
  if (Double.ofInt 0).atMost x then .ok x else .error .belowMinimum

/-- The words that stand for yes and no. -/
def flagOfText (text : String) : Except SettingProblem Bool :=
  let word := String.ofList (Text.lower text.toList)
  if ["1", "on", "t", "true", "y", "yes"].contains word then .ok true
  else if ["0", "off", "f", "false", "n", "no"].contains word then .ok false
  else .error .notFlagText

/-- A number that stands for yes or no. -/
def flagOfInt (n : Int) : Except SettingProblem Bool :=
  if n = 1 then .ok true
  else if n = 0 then .ok false
  else if -maxWholeDouble ≤ n && n < maxWholeDouble then .error .notFlagText
  else .error .notFlag

/-- A flag. -/
def readFlag : Json → Except SettingProblem Bool
  | .bool value => .ok value
  | .int n => flagOfInt n
  | .double value =>
    match value.toInt? with
    | some n => if -maxWholeDouble < n && n < maxWholeDouble then flagOfInt n else .error .notFlag
    | none => .error .notFlag
  | .str text => flagOfText text
  | _ => .error .notFlag

/-- A text. -/
def readText : Json → Except SettingProblem String
  | .str text => .ok text
  | _ => .error .notText

/-- A value that may also be absent. -/
def readOptional {α : Type} (read : Json → Except SettingProblem α) : Json → Except SettingProblem (Option α)
  | .null => .ok none
  | value => (read value).map some

/-- A path. -/
def readPath : Json → Except SettingProblem Path
  | .str text => .ok (Path.ofText text)
  | _ => .error .notPath

/-- The kind of the reduction. -/
def readKind : Json → Except SettingProblem ReductionKind
  | .str text =>
    match ReductionKind.ofName? text with
    | some kind => .ok kind
    | none => .error .notKind
  | _ => .error .notKind

end ShaderShrink.Settings
