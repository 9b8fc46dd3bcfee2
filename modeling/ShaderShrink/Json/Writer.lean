import ShaderShrink.Json.Basic
import ShaderShrink.Number.Decimal
import ShaderShrink.Text.Blank

/-!
# Writing JSON

A document is written with the fields of every object in the order of their names' code points.
The compact form has no white space; the indented form puts each item and field on a line of its
own.  Values with more than 254 containers inside each other cannot be written, and neither can
whole numbers that fit no word of 64 bits.
-/

namespace ShaderShrink

namespace Json

/-- The two hexadecimal digits of a control character. -/
def hexPair (n : Nat) : Text := [Nat.digitChar (n / 16), Nat.digitChar (n % 16)]

/-- A character inside a string. -/
def escapeChar (c : Char) : Text :=
  match c with
  | '"' => ['\\', '"']
  | '\\' => ['\\', '\\']
  | '\n' => ['\\', 'n']
  | '\r' => ['\\', 'r']
  | '\t' => ['\\', 't']
  | '\x08' => ['\\', 'b']
  | '\x0c' => ['\\', 'f']
  | c => if c.toNat < 32 then "\\u00".toList ++ hexPair c.toNat else [c]

/-- A string in quotes. -/
def quoted (s : String) : Text := '"' :: s.toList.flatMap escapeChar ++ ['"']

/-- A double; one that is not finite has no notation of its own. -/
def doubleText : Double → Text
  | .finite negative m e => (NumberLayout.document.doubleText (.finite negative m e)).toList
  | _ => "null".toList

/-- The fields in the order of their names. -/
def sortFields (fields : List (String × Text)) : List (String × Text) :=
  fields.mergeSort fun a b => !Text.precedes b.1.toList a.1.toList

/-- The items with `separator` between them. -/
def joinWith (separator : Text) : List Text → Text
  | [] => []
  | [item] => item
  | item :: items => item ++ separator ++ joinWith separator items

/-- How the parts of a container are set apart. -/
structure Style where
  /-- Follows the opening bracket at a level and stands between the parts. -/
  lineBreak : Nat → Text
  /-- Follows a field's name. -/
  colon : Text

/-- No white space. -/
def Style.compact : Style where
  lineBreak _ := []
  colon := [':']

/-- Every part on its own line, two blanks deeper than its container. -/
def Style.indented : Style where
  lineBreak level := '\n' :: List.replicate (2 * level) ' '
  colon := [':', ' ']

/-- A container around its parts. -/
def enclose (style : Style) (level : Nat) (first last : Char) : List Text → Text
  | [] => [first, last]
  | parts =>
    first :: style.lineBreak (level + 1) ++ joinWith (',' :: style.lineBreak (level + 1)) parts ++
      style.lineBreak level ++ [last]

mutual

/-- A value inside `level` containers. -/
def write (style : Style) (level : Nat) : Json → Text
  | .null => "null".toList
  | .bool value => if value then "true".toList else "false".toList
  | .int value => (toString value).toList
  | .double value => doubleText value
  | .str value => quoted value
  | .arr items => enclose style level '[' ']' (writeItems style (level + 1) items)
  | .obj fields =>
    enclose style level '{' '}'
      ((sortFields (writeFields style (level + 1) fields)).map fun (name, text) =>
        quoted name ++ style.colon ++ text)

/-- The items of a list. -/
def writeItems (style : Style) (level : Nat) : List Json → List Text
  | [] => []
  | item :: items => item.write style level :: writeItems style level items

/-- The fields of an object with their values written. -/
def writeFields (style : Style) (level : Nat) : List (String × Json) → List (String × Text)
  | [] => []
  | (name, value) :: fields => (name, value.write style level) :: writeFields style level fields

end

/-- The greatest depth that can be written. -/
def writableDepth : Nat := 254

/-- Whether a whole number fits a word of 64 bits, with a sign or without. -/
def fitsWord (n : Int) : Bool := -9223372036854775808 ≤ n && n < 18446744073709551616

mutual

/-- Whether all whole numbers in a value fit a word. -/
def wordsOnly : Json → Bool
  | .int n => fitsWord n
  | .arr items => itemsWordsOnly items
  | .obj fields => fieldsWordsOnly fields
  | _ => true

/-- Whether all whole numbers in some items fit a word. -/
def itemsWordsOnly : List Json → Bool
  | [] => true
  | item :: items => item.wordsOnly && itemsWordsOnly items

/-- Whether all whole numbers in some fields fit a word. -/
def fieldsWordsOnly : List (String × Json) → Bool
  | [] => true
  | (_, value) :: fields => value.wordsOnly && fieldsWordsOnly fields

end

/-- Whether a value can be written. -/
def isWritable (value : Json) : Bool := value.depth ≤ writableDepth && value.wordsOnly

/-- The compact document of a value that can be written. -/
def compact? (value : Json) : Option Text :=
  if value.isWritable then some (value.write .compact 0) else none

/-- The indented document of a value that can be written. -/
def indented? (value : Json) : Option Text :=
  if value.isWritable then some (value.write .indented 0) else none

end Json

end ShaderShrink
