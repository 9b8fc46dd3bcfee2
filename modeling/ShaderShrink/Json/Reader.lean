import ShaderShrink.Json.Basic
import ShaderShrink.Text.Bytes
import ShaderShrink.Text.Word

/-!
# Reading JSON

The reader is strict: no comments, no trailing commas, no leading zeros, no lone surrogates, and at
most 1024 containers inside each other.  Of two fields with one name the later value counts.  Every
reading step returns the characters that follow what it has read.
-/

namespace ShaderShrink.Json.Reader

open ShaderShrink.Text (isAsciiDigit)

/-- How numbers without a fraction are taken. -/
structure Numbers where
  /-- The value of a whole number, unless there is none. -/
  whole : Int → Option Json
  /-- Whether infinities and what is not a number have a notation. -/
  extended : Bool

/-- A double, unless it is infinite. -/
def finite? (value : Double) : Option Json := if value.isFinite then some (.double value) else none

/-- Whole numbers that fit in 64 bits, signed or not, stay whole; all others become doubles. -/
def Numbers.bounded : Numbers where
  whole n :=
    if -(9223372036854775808 : Int) ≤ n && n < 18446744073709551616 then some (.int n)
    else finite? (Double.ofInt n)
  extended := false

/-- Whole numbers of up to 4300 digits stay whole, and every double has a notation. -/
def Numbers.lenient : Numbers where
  whole n := if n.natAbs < Nat.pow 10 Text.maxDigits then some (.int n) else none
  extended := true

/-- The white space between tokens. -/
def isGap (c : Char) : Bool := c == ' ' || c == '\n' || c == '\r' || c == '\t'

/-- Drops white space. -/
def skipGap (t : Text) : Text := t.dropWhile isGap

/-- The value of a hexadecimal digit. -/
def hexDigit? (c : Char) : Option Nat :=
  let n := c.toNat
  if 48 ≤ n && n ≤ 57 then some (n - 48)
  else if 65 ≤ n && n ≤ 70 then some (n - 55)
  else if 97 ≤ n && n ≤ 102 then some (n - 87)
  else none

/-- Four hexadecimal digits. -/
def hexUnit? : Text → Option (Nat × Text)
  | a :: b :: c :: d :: rest => do
    let a ← hexDigit? a
    let b ← hexDigit? b
    let c ← hexDigit? c
    let d ← hexDigit? d
    some (((a * 16 + b) * 16 + c) * 16 + d, rest)
  | _ => none

/-- The character of an escape `\uXXXX`, whose high surrogate needs a low one to follow. -/
def unicodeEscape? (t : Text) : Option (Char × Text) := do
  let (unit, rest) ← hexUnit? t
  if 0xd800 ≤ unit && unit ≤ 0xdbff then
    match rest with
    | '\\' :: 'u' :: rest =>
      let (low, rest) ← hexUnit? rest
      if 0xdc00 ≤ low && low ≤ 0xdfff then
        some (Char.ofNat (0x10000 + (unit - 0xd800) * 1024 + (low - 0xdc00)), rest)
      else none
    | _ => none
  else if 0xdc00 ≤ unit && unit ≤ 0xdfff then none
  else some (Char.ofNat unit, rest)

/-- The character that a one-letter escape stands for. -/
def shortEscape? : Char → Option Char
  | '"' => some '"'
  | '\\' => some '\\'
  | '/' => some '/'
  | 'b' => some '\x08'
  | 'f' => some '\x0c'
  | 'n' => some '\n'
  | 'r' => some '\r'
  | 't' => some '\t'
  | _ => none

/-- The rest of a string after its opening quote. -/
def string? : Nat → Text → Option (List Char × Text)
  | 0, _ => none
  | fuel + 1, t =>
    match t with
    | [] => none
    | '"' :: rest => some ([], rest)
    | '\\' :: 'u' :: rest => do
      let (c, rest) ← unicodeEscape? rest
      let (cs, rest) ← string? fuel rest
      some (c :: cs, rest)
    | '\\' :: e :: rest => do
      let c ← shortEscape? e
      let (cs, rest) ← string? fuel rest
      some (c :: cs, rest)
    | c :: rest =>
      if c == '\\' || c.toNat < 32 then none
      else do
        let (cs, rest) ← string? fuel rest
        some (c :: cs, rest)

/-- The digits at the front, of which there is at least one. -/
def digits? (t : Text) : Option (Text × Text) :=
  let digits := t.takeWhile isAsciiDigit
  if digits.isEmpty then none else some (digits, t.dropWhile isAsciiDigit)

/-- The digits of a whole part: a zero stands alone. -/
def whole? : Text → Option (Text × Text)
  | '0' :: rest => some (['0'], rest)
  | t => digits? t

/-- A fraction, if a point follows. -/
def fraction? : Text → Option (Option Text × Text)
  | '.' :: rest => (digits? rest).map fun (digits, rest) => (some digits, rest)
  | t => some (none, t)

/-- A decimal exponent, if its letter follows. -/
def exponent? : Text → Option (Option Int × Text)
  | c :: rest =>
    if c == 'e' || c == 'E' then
      let (negative, rest) :=
        match rest with
        | '-' :: rest => (true, rest)
        | '+' :: rest => (false, rest)
        | rest => (false, rest)
      (digits? rest).map fun (digits, rest) =>
        let n : Int := Text.numeral digits
        (some (if negative then -n else n), rest)
    else some (none, c :: rest)
  | [] => some (none, [])

/-- The words for doubles that are not finite. -/
def extended? (t : Text) : Option (Json × Text) :=
  [("NaN", Double.nan), ("Infinity", .infinite false), ("-Infinity", .infinite true)].findSome?
    fun (word, value) => (Text.drop? word.toList t).map fun rest => (.double value, rest)

/-- A number; one that is too large for a double is refused unless infinities have a notation. -/
def number? (numbers : Numbers) (t : Text) : Option (Json × Text) := do
  let (negative, t) :=
    match t with
    | '-' :: rest => (true, rest)
    | t => (false, t)
  let (whole, t) ← whole? t
  let (fraction, t) ← fraction? t
  let (exponent, t) ← exponent? t
  if fraction.isNone && exponent.isNone then
    let n : Int := Text.numeral whole
    (numbers.whole (if negative then -n else n)).map fun value => (value, t)
  else
    let digits := whole ++ fraction.getD []
    let value := Double.ofDecimal negative (Text.numeral digits)
      (exponent.getD 0 - (fraction.getD []).length)
    if value.isFinite || numbers.extended then some (.double value, t) else none

/-- The greatest number of containers inside each other. -/
def maxDepth : Nat := 1024

mutual

/-- A value, inside `depth` containers. -/
def value? (numbers : Numbers) : Nat → Nat → Text → Option (Json × Text)
  | 0, _, _ => none
  | fuel + 1, depth, t =>
    match skipGap t with
    | '"' :: rest => (string? (rest.length + 1) rest).map fun (cs, rest) => (.str (String.ofList cs), rest)
    | '[' :: rest =>
      if maxDepth ≤ depth then none
      else
        match skipGap rest with
        | ']' :: rest => some (.arr [], rest)
        | rest => (items? numbers fuel (depth + 1) rest).map fun (items, rest) => (.arr items, rest)
    | '{' :: rest =>
      if maxDepth ≤ depth then none
      else
        match skipGap rest with
        | '}' :: rest => some (.obj [], rest)
        | rest => (fields? numbers fuel (depth + 1) [] rest).map fun (fields, rest) => (.obj fields, rest)
    | 't' :: 'r' :: 'u' :: 'e' :: rest => some (.bool true, rest)
    | 'f' :: 'a' :: 'l' :: 's' :: 'e' :: rest => some (.bool false, rest)
    | 'n' :: 'u' :: 'l' :: 'l' :: rest => some (.null, rest)
    | rest => ((if numbers.extended then extended? rest else none)).or (number? numbers rest)

/-- The items of a list, of which there is at least one, and its closing bracket. -/
def items? (numbers : Numbers) : Nat → Nat → Text → Option (List Json × Text)
  | 0, _, _ => none
  | fuel + 1, depth, t => do
    let (item, rest) ← value? numbers fuel depth t
    match skipGap rest with
    | ',' :: rest =>
      let (items, rest) ← items? numbers fuel depth rest
      some (item :: items, rest)
    | ']' :: rest => some ([item], rest)
    | _ => none

/-- The fields of an object, of which there is at least one, and its closing brace; `before` holds
the fields already read. -/
def fields? (numbers : Numbers) : Nat → Nat → List (String × Json) → Text →
    Option (List (String × Json) × Text)
  | 0, _, _, _ => none
  | fuel + 1, depth, before, t =>
    match skipGap t with
    | '"' :: rest => do
      let (name, rest) ← string? (rest.length + 1) rest
      match skipGap rest with
      | ':' :: rest =>
        let (value, rest) ← value? numbers fuel depth rest
        let fields := setField (String.ofList name) value before
        match skipGap rest with
        | ',' :: rest => fields? numbers fuel depth fields rest
        | '}' :: rest => some (fields, rest)
        | _ => none
      | _ => none
    | _ => none

end

end Reader

/-- Reads a document of one value. -/
def parseWith? (numbers : Reader.Numbers) (t : Text) : Option Json :=
  match Reader.value? numbers (2 * t.length + 2) 0 t with
  | some (value, rest) => if (Reader.skipGap rest).isEmpty then some value else none
  | none => none

/-- Reads a document of one value whose whole numbers are bounded to 64 bits. -/
def parse? (t : Text) : Option Json := parseWith? .bounded t

/-- Reads the bytes of a document; bytes that are no UTF-8 are no document. -/
def ofBytes? (bytes : ByteArray) : Option Json := (Text.ofUtf8? bytes).bind parse?

end ShaderShrink.Json
