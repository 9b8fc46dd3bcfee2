import ShaderShrink.Text.Digit
import ShaderShrink.Text.NameTable.Historic
import ShaderShrink.Text.NameTable.Letters
import ShaderShrink.Text.NameTable.Others
import ShaderShrink.Text.NameTable.Pictures
import ShaderShrink.Text.NameTable.Signs
import ShaderShrink.Text.NameTable.Wide

/-!
# Characters by name

Most characters have a name of their own in a table.  The name of a Korean syllable is made of the names of
its sounds, and the name of an ideograph ends with its code point in base sixteen.  Case does not matter in
the names of the table, but it does in the names that are made.
-/

namespace ShaderShrink.Text

/-- The first sounds of Korean syllables, in their order. -/
def leadingSounds : List String :=
  ["G", "GG", "N", "D", "DD", "R", "M", "B", "BB", "S", "SS", "", "J", "JJ", "C", "K", "T", "P", "H"]

/-- The vowels of Korean syllables, in their order. -/
def vowelSounds : List String :=
  ["A", "AE", "YA", "YAE", "EO", "E", "YEO", "YE", "O", "WA", "WAE", "OE", "YO", "U", "WEO", "WE", "WI",
    "YU", "EU", "YI", "I"]

/-- The last sounds of Korean syllables, in their order. -/
def trailingSounds : List String :=
  ["", "G", "GG", "GS", "N", "NJ", "NH", "D", "L", "LG", "LM", "LB", "LS", "LT", "LP", "LH", "M", "B",
    "BS", "S", "SS", "NG", "J", "C", "K", "T", "P", "H"]

/-- The longest sound at the front of a text: its place in the order and what follows it. -/
def longestSound? (sounds : List String) (t : Text) : Option (Nat × Text) :=
  sounds.zipIdx.foldl
    (fun best (sound, place) =>
      match drop? sound.toList t with
      | none => best
      | some rest =>
        if best.all fun found => rest.length < found.2.length then some (place, rest) else best)
    none

/-- The code point of a Korean syllable with the given sounds. -/
def syllable? (sounds : Text) : Option Nat := do
  let (leading, t) ← longestSound? leadingSounds sounds
  let (vowel, t) ← longestSound? vowelSounds t
  let (trailing, t) ← longestSound? trailingSounds t
  if t.isEmpty then
    some (0xac00 + (leading * vowelSounds.length + vowel) * trailingSounds.length + trailing)
  else none

/-- The ideographs that are named by their code points, as closed ranges. -/
def ideographRanges : List (Nat × Nat) :=
  [(0x3400, 0x4dbf), (0x4e00, 0x9fff), (0x20000, 0x2a6df), (0x2a700, 0x2b738), (0x2b740, 0x2b81d),
    (0x2b820, 0x2cea1), (0x2ceb0, 0x2ebe0), (0x30000, 0x3134a)]

/-- The number of some digits in base sixteen, whose letters are capitals. -/
def capitalHex? (digits : Text) : Option Nat :=
  if digits.all fun c => (hexValue? c).isSome && !('a' ≤ c && c ≤ 'f') then some (numberIn 16 digits)
  else none

/-- The code point of an ideograph with the given digits. -/
def ideograph? (digits : Text) : Option Nat := do
  if digits.length != 4 && digits.length != 5 then none
  else
    let code ← capitalHex? digits
    if inRanges ideographRanges code then some code else none

/-- The other characters that are named by their code points: what their names begin with, and their
ranges. -/
def numberedRanges : List (String × Nat × Nat) :=
  [("CJK COMPATIBILITY IDEOGRAPH-", 0xf900, 0xfa6d), ("CJK COMPATIBILITY IDEOGRAPH-", 0xfa70, 0xfad9),
    ("CJK COMPATIBILITY IDEOGRAPH-", 0x2f800, 0x2fa1d), ("KHITAN SMALL SCRIPT CHARACTER-", 0x18b00, 0x18cd5),
    ("NUSHU CHARACTER-", 0x1b170, 0x1b2fb)]

/-- The code point of a name in capitals that ends with it. -/
def numbered? (name : Text) : Option Nat :=
  numberedRanges.findSome? fun (start, first, last) => do
    let digits ← drop? start.toList name
    if digits.head? == some '0' then none
    else
      let code ← capitalHex? digits
      if first ≤ code && code ≤ last then some code else none

/-- The tables of names. -/
def nameTables : List String :=
  [NameTable.letters, NameTable.signs, NameTable.wide, NameTable.historic, NameTable.pictures,
    NameTable.others]

/-- The pieces of a table: the beginnings of rows and the ends of names. -/
def tablePieces (table : String) : List String := (table.splitOn "\n").flatMap (·.splitOn ";")

/-- Looks for a name among the pieces of a table; `code` is the code point of the next name, and `start`
is what it begins with. -/
def inPieces? (name : String) : (code : Nat) → (start : String) → List String → Option Nat
  | _, _, [] => none
  | code, start, piece :: pieces =>
    match piece.splitOn "=" with
    | [digits, start] => inPieces? name (numberIn 16 digits.toList) start pieces
    | _ => if start ++ piece == name then some code else inPieces? name (code + 1) start pieces

/-- A capital for a small ASCII letter; every other character stays. -/
def capital (c : Char) : Char := if 'a' ≤ c && c ≤ 'z' then Char.ofNat (c.toNat - 32) else c

/-- A name as tables have it, with low lines in the places of blanks. -/
def tableForm (name : Text) : String :=
  String.ofList (name.map fun c => if c == ' ' then '_' else c)

/-- The code point of the character with a name. -/
def codeOfName? (name : Text) : Option Nat :=
  match drop? "HANGUL SYLLABLE ".toList name, drop? "CJK UNIFIED IDEOGRAPH-".toList name with
  | some sounds, _ => syllable? sounds
  | none, some digits => ideograph? digits
  | none, none =>
    let capitals := name.map capital
    if name.contains '_' then none
    else
      (numbered? capitals).or
        (nameTables.findSome? fun table => inPieces? (tableForm capitals) 0 "" (tablePieces table))

end ShaderShrink.Text
