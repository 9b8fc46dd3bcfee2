import ShaderShrink.Text.Word

/-!
# Numeric addresses

The address of a machine in numbers has four parts in base ten between dots, or eight parts in base
sixteen between colons.  Of the latter, two colons stand for a run of zeros, the last two parts may be
written as an address of the former kind, and a zone may follow behind a percent sign.
-/

namespace ShaderShrink.NumericAddress

/-- The parts of a text between the places of a separator. -/
def splitAt (separator : Char) : Text → List Text
  | [] => [[]]
  | c :: rest =>
    if c == separator then [] :: splitAt separator rest
    else
      match splitAt separator rest with
      | [] => [[c]]
      | part :: parts => (c :: part) :: parts

/-- Whether a text is a number up to 255 without zeros in front. -/
def isDecimalPart (t : Text) : Bool :=
  1 ≤ t.length && t.length ≤ 3 && t.all Text.isAsciiDigit && (t.length = 1 || t.head? != some '0') &&
    Text.numeral t ≤ 255

/-- Whether a text is an address of four parts. -/
def isShort (t : Text) : Bool :=
  let parts := splitAt '.' t
  parts.length = 4 && parts.all isDecimalPart

/-- Whether a character is a digit in base sixteen. -/
def isHexDigit (c : Char) : Bool :=
  Text.isAsciiDigit c || ('a' ≤ c && c ≤ 'f') || ('A' ≤ c && c ≤ 'F')

/-- Whether a text is a part in base sixteen. -/
def isHexPart (t : Text) : Bool := 1 ≤ t.length && t.length ≤ 4 && t.all isHexDigit

/-- The parts between colons, with a short address at the end as two parts; nothing if what has a dot
there is none. -/
def longParts? (t : Text) : Option (List Text) :=
  let parts := splitAt ':' t
  match parts.getLast? with
  | some last =>
    if parts.length < 3 then none
    else if last.contains '.' then
      if isShort last then some (parts.dropLast ++ [['0'], ['0']]) else none
    else some parts
  | none => none

/-- Whether some parts on one side of a run of zeros are parts in base sixteen; at the outer end an empty
part may stand alone. -/
def isSide (parts : List Text) : Bool := parts = [[]] || parts.all isHexPart

/-- Whether some parts are those of an address: eight of them, or fewer with a run of zeros. -/
def areLong (parts : List Text) : Bool :=
  let inner := (parts.drop 1).dropLast
  match inner.findIdx? List.isEmpty with
  | none => parts.length = 8 && parts.all isHexPart
  | some i =>
    let before := parts.take (i + 1)
    let after := parts.drop (i + 2)
    let count := ((before ++ after).filter fun part => !part.isEmpty).length
    parts.length ≤ 9 && isSide before && isSide after && count ≤ 7

/-- Whether a text is an address of eight parts. -/
def isLong (t : Text) : Bool :=
  let zone := (t.dropWhile (· != '%')).drop 1
  let zoneFits := !t.contains '%' || !zone.isEmpty && !zone.contains '%'
  !t.contains '/' && zoneFits && (longParts? (t.takeWhile (· != '%'))).any areLong

end ShaderShrink.NumericAddress
