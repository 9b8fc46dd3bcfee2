import ShaderShrink.Image.Picture
import ShaderShrink.Number.Numeral
import ShaderShrink.Text.Quoted

/-!
# Pixmaps

A pixmap is a magic number, the width, the height and the greatest sample as numerals with white space
behind each, and then the samples: as bytes, or as numerals again.  Comments run from a number sign to
the line's end.  The magic number tells whether the samples are bits, grey, or three colours.
-/

namespace ShaderShrink.Pixmap

open ShaderShrink.Picture (Reading)

/-- What the samples are. -/
inductive Kind where
  | bits
  | gray
  | colours
  /-- Single numbers with fractions. -/
  | fractions
  /-- Some samples for each pixel, of which no picture is made. -/
  | others (count : Nat)
  deriving DecidableEq, Repr

/-- The magic numbers, with the kind of the samples and whether they are written as numerals. -/
def magics : List (String × Kind × Bool) :=
  [("P1", .bits, true), ("P2", .gray, true), ("P3", .colours, true), ("P4", .bits, false),
    ("P5", .gray, false), ("P6", .colours, false), ("P0CMYK", .others 4, false),
    ("Pf", .fractions, false), ("PyP", .others 1, false), ("PyRGBA", .others 4, false),
    ("PyCMYK", .others 4, false)]

/-- Whether a byte is white space. -/
def isSpace (byte : UInt8) : Bool := byte == 32 || (9 ≤ byte && byte ≤ 13)

/-- The greatest length of a magic number. -/
def maxMagic : Nat := 6

/-- The kind of the samples, whether they are numerals, and what follows the magic number. -/
def magic? (bytes : List UInt8) : Option (Kind × Bool × List UInt8) :=
  let word := (bytes.take maxMagic).takeWhile fun byte => !isSpace byte
  (magics.find? fun entry => entry.1.toUTF8.toList = word).map fun (_, kind, plain) =>
    (kind, plain, bytes.drop (if word.length < maxMagic then word.length + 1 else maxMagic))

/-- What follows a comment. -/
def afterComment (bytes : List UInt8) : List UInt8 :=
  (bytes.dropWhile fun byte => byte != 10 && byte != 13).drop 1

/-- The greatest length of a word in a header or among numerals. -/
def maxWord : Nat := 10

/-- The next word of a header, last byte first, and what follows it and the white space behind it;
`fuel` bounds the number of bytes. -/
def wordFrom : (fuel : Nat) → (before : List UInt8) → List UInt8 → List UInt8 × List UInt8
  | 0, before, bytes => (before, bytes)
  | _, before, [] => (before, [])
  | fuel + 1, before, byte :: rest =>
    if maxWord < before.length then (before, byte :: rest)
    else if isSpace byte then if before.isEmpty then wordFrom fuel [] rest else (before, rest)
    else if byte == 35 then wordFrom fuel before (afterComment rest)
    else wordFrom fuel (byte :: before) rest

/-- A fault of a value. -/
def problem (text : Text) : Fault := .value (String.ofList text)

/-- The next word of a header. -/
def word (bytes : List UInt8) : Except Fault (List UInt8 × List UInt8) :=
  let (reversed, rest) := wordFrom (bytes.length + 1) [] bytes
  if reversed.isEmpty then .error (.value "Reached EOF while reading header")
  else if maxWord < reversed.length then
    .error (problem
      (Text.quotedBytes ("Token too long in file header: ".toUTF8.toList ++ reversed.reverse)))
  else .ok (reversed.reverse, rest)

/-- The characters of bytes. -/
def chars (bytes : List UInt8) : Text := bytes.map fun byte => Char.ofNat byte.toNat

/-- The whole number that a word stands for. -/
def wholeOfWord (word : List UInt8) : Except Fault Int :=
  let t := chars word
  match if t.any Text.isBlank then none else Text.integer? t with
  | some n => .ok n
  | none =>
    .error (problem ("invalid literal for int() with base 10: ".toList ++ Text.quotedBytes word))

/-- The next numeral of a header. -/
def number (bytes : List UInt8) : Except Fault (Int × List UInt8) := do
  let (word, rest) ← word bytes
  return (← wholeOfWord word, rest)

/-- The factor of samples with fractions, which is not needed but has to be a proper one. -/
def checkFactor (bytes : List UInt8) : Except Fault (List UInt8) := do
  let (word, rest) ← word bytes
  match Double.ofNumeral? (chars word) with
  | none =>
    throw (problem ("could not convert string to float: ".toList ++ Text.quotedBytes word))
  | some factor =>
    if factor.isFinite && !factor.sameValue (Double.ofInt 0) then return rest
    else throw (.value "scale must be finite and non-zero")

/-- A header. -/
structure Header where
  kind : Kind
  plain : Bool
  width : Int
  height : Int
  /-- The greatest sample. -/
  greatest : Nat

/-- The header behind a magic number, and what follows it. -/
def header (kind : Kind) (plain : Bool) (bytes : List UInt8) : Except Fault (Header × List UInt8) := do
  let (width, rest) ← number bytes
  let (height, rest) ← number rest
  match kind with
  | .bits => return (⟨kind, plain, width, height, 1⟩, rest)
  | .fractions => return (⟨kind, plain, width, height, 255⟩, ← checkFactor rest)
  | _ =>
    let (greatest, rest) ← number rest
    if 0 < greatest && greatest < 65536 then
      return (⟨kind, plain, width, height, greatest.toNat⟩, rest)
    else throw (.value "maxval must be greater than 0 and less than 65536")

namespace Header

/-- The number of pixels. -/
def area (header : Header) : Nat := header.width.toNat * header.height.toNat

/-- The number of samples in a pixel. -/
def bands (header : Header) : Nat :=
  match header.kind with
  | .colours => 3
  | .others count => count
  | .fractions => 4
  | _ => 1

/-- A sample as a byte: in proportion to the greatest one, but grey samples of two bytes are cut. -/
def scaled (header : Header) (sample : Nat) : UInt8 :=
  let top := if header.kind = .gray && 255 < header.greatest then 65535 else 255
  UInt8.ofNat (Nat.min 255 (Double.divNearest (sample * top) header.greatest))

/-- Whether the bytes are the samples as they are. -/
def isRaw (header : Header) : Bool :=
  header.greatest = 255 || header.kind = .gray && header.greatest = 65535

/-- The samples of bytes. -/
def samples (header : Header) : List UInt8 → List Nat
  | high :: low :: rest =>
    if 255 < header.greatest then (256 * high.toNat + low.toNat) :: samples header rest
    else high.toNat :: samples header (low :: rest)
  | [byte] => if 255 < header.greatest then [] else [byte.toNat]
  | [] => []

end Header

/-- The pixels of samples in bytes. -/
def pixels (kind : Kind) : List UInt8 → List Pixel
  | [] => []
  | sample :: rest =>
    match kind, rest with
    | .colours, green :: blue :: rest => ⟨sample, green, blue, 255⟩ :: pixels kind rest
    | .colours, _ => []
    | _, rest => .ofGray sample :: pixels kind rest

/-- The bits of a byte as grey samples, the high bit first; a bit that is set is black. -/
def bitSamples (byte : UInt8) : List UInt8 :=
  (List.range 8).map fun i => if (byte.toNat >>> (7 - i)) % 2 = 1 then 0 else 255

/-- The grey samples of rows of bits; nothing if there are too few. -/
def bitRows? (width : Nat) : (height : Nat) → List UInt8 → Option (List UInt8)
  | 0, _ => some []
  | height + 1, bytes =>
    let size := (width + 7) / 8
    if bytes.length < size then none
    else
      (bitRows? width height (bytes.drop size)).map fun rest =>
        ((bytes.take size).flatMap bitSamples).take width ++ rest

/-- Leaves out comments; the flag says whether one is being left out. -/
def withoutComments : Bool → List UInt8 → List UInt8
  | _, [] => []
  | true, byte :: rest => withoutComments (byte != 10 && byte != 13) rest
  | false, byte :: rest =>
    if byte == 35 then withoutComments true rest else byte :: withoutComments false rest

/-- The words between white space. -/
def words (bytes : List UInt8) : List (List UInt8) :=
  (bytes.splitBy fun a b => isSpace a == isSpace b).filter fun word => !word.all isSpace

/-- The samples of bits that are written as digits, as many as there are pixels. -/
def digitSamples (area : Nat) (bytes : List UInt8) : Except Fault (List UInt8) := do
  let digits := (withoutComments false bytes).filter fun byte => !isSpace byte
  match digits.find? fun byte => byte != 48 && byte != 49 with
  | some byte =>
    throw (problem (Text.quotedBytes ("Invalid token for this mode: ".toUTF8.toList ++ [byte])))
  | none => return (digits.take area).map fun byte => if byte == 49 then 0 else 255

/-- A sample that is written as a numeral. -/
def numeralSample (header : Header) (word : List UInt8) : Except Fault UInt8 := do
  if maxWord < word.length then
    throw (problem (Text.quotedBytes ("Token too long found in data: ".toUTF8.toList ++
      word.take (maxWord + 1))))
  let value ← wholeOfWord word
  if value < 0 then throw (.value ("Channel value is negative: " ++ toString value))
  else if header.greatest < value then
    throw (.value ("Channel value too large for this mode: " ++ toString value))
  else return header.scaled value.toNat

/-- The samples of a picture whose header is known. -/
def samplesOf (header : Header) (bytes : List UInt8) : Except Fault (List UInt8) := do
  let wanted := header.area * header.bands
  if header.plain then
    let found ← match header.kind with
      | .bits => digitSamples wanted bytes
      | _ => ((words (withoutComments false bytes)).take wanted).mapM (numeralSample header)
    if found.length < wanted then throw (.value "not enough image data") else return found
  else if header.kind = .bits then
    match bitRows? header.width.toNat header.height.toNat bytes with
    | some found => return found
    | none => throw Picture.truncated
  else
    let found := (header.samples bytes).take wanted
    if wanted ≤ found.length then return found.map header.scaled
    else if header.isRaw then throw Picture.truncated
    else throw (.value "not enough image data")

/-- Reads a pixmap. -/
def read (bytes : ByteArray) : Reading :=
  match magic? bytes.toList with
  | none => .unknown
  | some (kind, plain, rest) =>
    match header kind plain rest with
    | .error fault => .fault fault
    | .ok (header, rest) =>
      .sized header.width.toNat header.height.toNat fun _ =>
        match samplesOf header rest with
        | .error fault => .fault fault
        | .ok found =>
          match kind with
          | .fractions | .others _ => .unknown
          | kind => .picture ⟨header.width.toNat, header.height.toNat, pixels kind found⟩

end ShaderShrink.Pixmap
