import ShaderShrink.CommandLine.Emoji
import ShaderShrink.CommandLine.Style
import ShaderShrink.Text.Width

/-!
# Markup in messages

A message is printed with markup: a style in square brackets begins, one behind a slash ends, and a slash
alone ends the style that began last.  Backslashes in front of a bracket keep it as it is.  What is
printed is the text without the markup, with emoji in the places of their names and blanks up to the next
stop in the place of each tab.
-/

namespace ShaderShrink.Markup

/-- A part of a message. -/
inductive Piece where
  | plain (text : Text)
  | tag (text : Text)
  deriving DecidableEq, Repr

/-- Whether a tag may begin with a character. -/
def startsTag (c : Char) : Bool := ('a' ≤ c && c ≤ 'z') || c == '#' || c == '/' || c == '@'

/-- The inside of a tag and what follows it; no bracket opens inside. -/
def tagBody? : Text → Option (Text × Text)
  | [] => none
  | c :: rest =>
    if c == ']' then some ([], rest)
    else if c == '[' then none
    else (tagBody? rest).map fun (body, after) => (c :: body, after)

/-- The number of backslashes in front of the tag at the front of a text, the tag, and what follows. -/
def tagAt? (t : Text) : Option (Nat × Text × Text) :=
  let slashes := (t.takeWhile (· == '\\')).length
  match t.drop slashes with
  | '[' :: c :: rest =>
    if startsTag c then (tagBody? rest).map fun (body, after) => (slashes, c :: body, after) else none
  | _ => none

/-- A piece of plain text, where a bracket behind a backslash is only a bracket. -/
def unescape : Text → Text
  | '\\' :: '[' :: rest => '[' :: unescape rest
  | c :: rest => c :: unescape rest
  | [] => []

/-- A text as pieces; nothing for an empty text. -/
def plainPieces (t : Text) : List Piece := if t.isEmpty then [] else [.plain (unescape t)]

/-- The pieces that a tag with backslashes in front of it stands for. -/
def tagPieces (slashes : Nat) (tag : Text) : List Piece :=
  plainPieces (List.replicate (slashes / 2) '\\') ++
    if slashes % 2 = 1 then [.plain ('[' :: tag ++ [']'])] else [.tag tag]

/-- The pieces of a text behind the characters `before`, the last one first; `fuel` bounds their
number. -/
def piecesFrom : (fuel : Nat) → (before : Text) → Text → List Piece
  | 0, before, t => plainPieces (before.reverse ++ t)
  | fuel + 1, before, t =>
    match tagAt? t with
    | some (slashes, tag, rest) =>
      plainPieces before.reverse ++ tagPieces slashes tag ++ piecesFrom fuel [] rest
    | none =>
      match t with
      | [] => plainPieces before.reverse
      | c :: rest => piecesFrom fuel (c :: before) rest

/-- A style that has begun. -/
structure OpenStyle where
  name : Text
  /-- What stands behind an equals sign. -/
  argument : Option Text

/-- The style that a tag begins. -/
def OpenStyle.ofTag (tag : Text) : Except Fault OpenStyle := do
  let name ← Style.normal (tag.takeWhile (· != '='))
  return ⟨name, ((tag.dropWhile (· != '=')).head?).map fun _ => (tag.dropWhile (· != '=')).drop 1⟩

/-- Whether a text is a plain value: a numeral, a word for a truth value, or a text in quotes. -/
def isPlainValue (t : Text) : Bool :=
  let t := Text.trim t
  let quoted (quote : Char) : Bool :=
    t.length ≥ 2 && t.head? = some quote && t.getLast? = some quote &&
      ((t.drop 1).dropLast).all fun c => c != quote && c != '\\' && c != '\n'
  (!t.isEmpty && t.all Text.isAsciiDigit && (t.head? != some '0' || t.all (· == '0'))) ||
    ["True", "False", "None"].contains (String.ofList t) || quoted '\'' || quoted '"'

/-- Whether the argument of an action can be read: a name, perhaps with plain values in brackets. -/
def isAction (argument : Text) : Bool :=
  let t := Text.trim argument
  let rest := t.dropWhile fun c => Text.isWord c || c == '.'
  match rest, rest.getLast? with
  | [], _ => true
  | '(' :: inside, some ')' =>
    let values := Style.splitCommas inside.dropLast
    values.all isPlainValue || (values.dropLast.all isPlainValue && Text.blank (values.getLast?.getD []))
  | _, _ => isPlainValue t

/-- Ends a style; an action behind an at sign has to have an argument that can be read. -/
def OpenStyle.close (style : OpenStyle) : Except Fault Unit :=
  match style.name, style.argument with
  | '@' :: _, some argument => if isAction argument then .ok () else .error .markup
  | _, _ => .ok ()

/-- The styles without the last one of a name, which comes first, and that one. -/
def take? (name : Text) : List OpenStyle → Option (OpenStyle × List OpenStyle)
  | [] => none
  | style :: rest =>
    if style.name = name then some (style, rest)
    else (take? name rest).map fun (found, others) => (found, style :: others)

/-- The styles that are left when one ends that has to have begun. -/
def closeTag (tag : Text) (styles : List OpenStyle) : Except Fault (List OpenStyle) := do
  let tag := Text.trim (tag.takeWhile (· != '='))
  let found ← if tag.isEmpty then pure (styles.head?.map fun style => (style, styles.drop 1))
    else do pure (take? (← Style.normal tag) styles)
  match found with
  | some (style, rest) =>
    style.close
    return rest
  | none => throw .markup

/-- The text of some pieces behind open styles. -/
def textOf : List OpenStyle → List Piece → Except Fault Text
  | _, [] => .ok []
  | styles, .plain text :: rest => do return Emoji.replace text ++ (← textOf styles rest)
  | styles, .tag ('/' :: tag) :: rest => do textOf (← closeTag tag styles) rest
  | styles, .tag tag :: rest => do textOf ((← OpenStyle.ofTag tag) :: styles) rest

/-- Whether a character is not printed. -/
def isUnprinted (c : Char) : Bool := [7, 8, 11, 12, 13].contains c.toNat

/-- The number of columns from one stop to the next. -/
def tabWidth : Nat := 8

/-- A text with blanks in the place of each tab, beginning at a column. -/
def expandTabs : (column : Nat) → Text → Text
  | _, [] => []
  | column, c :: rest =>
    if c == '\t' then
      let width := tabWidth - column % tabWidth
      List.replicate width ' ' ++ expandTabs (column + width) rest
    else c :: expandTabs (if c == '\n' then 0 else column + Text.cells c) rest

/-- What is printed of a message. -/
def print (message : String) : Except Fault String := do
  let t := message.toList
  let text ← textOf [] (piecesFrom (t.length + 1) [] t)
  return String.ofList (expandTabs 0 (text.filter fun c => !isUnprinted c))

end ShaderShrink.Markup
