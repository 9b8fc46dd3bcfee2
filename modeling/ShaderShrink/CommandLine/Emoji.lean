import ShaderShrink.CommandLine.EmojiTable
import ShaderShrink.Text.CaseFold

/-!
# Emoji by name

The name of an emoji between two colons stands for the emoji.  Behind a name one may ask for the emoji as
a character of text or as a picture.
-/

namespace ShaderShrink.Emoji

/-- The value of a digit in base sixteen. -/
def hexValue (c : Char) : Nat := if c.toNat ≤ 57 then c.toNat - 48 else c.toNat - 87

/-- The characters whose code points stand in a row. -/
def charsOfCodes (codes : Text) : Text :=
  (codes.splitBy fun a b => a != '-' && b != '-').filter (· != ['-']) |>.map fun digits =>
    Char.ofNat (digits.foldl (fun n c => 16 * n + hexValue c) 0)

/-- Whether a character separates the rows of the table. -/
def endsRow (c : Char) : Bool := c == ';' || c == '\n'

/-- The codes in the row of a name; `fuel` bounds the number of rows. -/
def codes? (name : Text) : (fuel : Nat) → Text → Option Text
  | 0, _ => none
  | fuel + 1, t =>
    match Text.drop? (name ++ [' ']) t with
    | some rest => some (rest.takeWhile fun c => !endsRow c)
    | none =>
      match t.dropWhile fun c => !endsRow c with
      | _ :: rest => codes? name fuel rest
      | [] => none

/-- The emoji of a name. -/
def ofName? (name : Text) : Option Text :=
  if name.isEmpty || name.any Text.isBlank then none
  else (codes? (Text.lowerAll name) table.length table.toList).map charsOfCodes

/-- The endings of a name that ask for a form of the emoji, with what follows the emoji then. -/
def forms : List (String × Char) := [("-text", '\ufe0e'), ("-emoji", '\ufe0f')]

/-- The emoji of a name with an ending. -/
def ofEndedName? (name : Text) : Option Text :=
  match forms.find? fun form => Text.endsWith name form.1.toList with
  | some (ending, mark) => (ofName? (name.take (name.length - ending.length))).map (· ++ [mark])
  | none => ofName? name

/-- A text with emoji in the places of their names; `fuel` bounds the number of colons. -/
def replaceFrom : (fuel : Nat) → Text → Text
  | 0, t => t
  | fuel + 1, t =>
    let before := t.takeWhile (· != ':')
    match t.dropWhile (· != ':') with
    | [] => before
    | colon :: rest =>
      let name := rest.takeWhile fun c => c != ':' && !Text.isBlank c
      match rest.drop name.length with
      | ':' :: after =>
        before ++ ((ofEndedName? name).getD (colon :: name ++ [':'])) ++ replaceFrom fuel after
      | _ => before ++ colon :: replaceFrom fuel rest

/-- A text with emoji in the places of their names. -/
def replace (t : Text) : Text := replaceFrom (t.length + 1) t

end ShaderShrink.Emoji
