import ShaderShrink.Number.Double

/-!
# Decimal text of numbers

The digits of a double are the fewest that read back as the same double and, among those, the ones
nearest to its value.  A layout decides which magnitudes are written positionally and how wide an
exponent is; it changes nothing about the digits.
-/

namespace ShaderShrink

/-- A positive decimal number `digits * 10 ^ point`. -/
structure Decimal where
  digits : Nat
  point : Int
  deriving DecidableEq, Repr

namespace Decimal

/-- The quotient of `num` and `den` as a fraction of `10 ^ p`. -/
def scale (num den : Nat) (p : Int) : Nat × Nat :=
  if 0 ≤ p then (num, den * Nat.pow 10 p.toNat) else (num * Nat.pow 10 (-p).toNat, den)

/-- Raises `p` while `10 ^ (p + 1)` is at most the quotient, at most `fuel` times. -/
def raiseMagnitude (num den : Nat) : Nat → Int → Int
  | 0, p => p
  | fuel + 1, p =>
    let (n, d) := scale num den (p + 1)
    if d ≤ n then raiseMagnitude num den fuel (p + 1) else p

/-- The exponent of the leading decimal digit of a positive quotient. -/
def magnitude (num den : Nat) : Int :=
  let bits : Int := (num.log2 : Int) - den.log2
  raiseMagnitude num den 4 ((bits * 30103) / 100000 - 2)

/-- The point of the grid with `count` digits that lies nearest to the quotient of `num` and `den`
among those between `low` and `high`, where the ends count if `closed`.  All four quotients share
the denominator `den`. -/
def nearestWithin? (num low high den : Nat) (closed : Bool) (count : Nat) : Option Decimal :=
  let p := magnitude num den + 1 - count
  let within (c : Nat) : Bool :=
    let (l, d) := scale low den p
    let (h, _) := scale high den p
    if closed then l ≤ c * d && c * d ≤ h else l < c * d && c * d < h
  let (n, d) := scale num den p
  let down := n / d
  let up := down + 1
  let downNearer := 2 * (n - down * d) < d || (2 * (n - down * d) == d && down % 2 == 0)
  match within down && down != 0, within up with
  | true, true => some ⟨if downNearer then down else up, p⟩
  | true, false => some ⟨down, p⟩
  | false, true => some ⟨up, p⟩
  | false, false => none

/-- The digits of a positive double: the first of the grids of 1, 2, … 17 digits that has a point
between the neighbours' midpoints decides. -/
def shortest (mantissa : Nat) (exponent : Int) : Decimal :=
  let (num, den) :=
    if 0 ≤ exponent then ((4 * mantissa) <<< exponent.toNat, 4)
    else (4 * mantissa, 4 <<< (-exponent).toNat)
  let unit := if 0 ≤ exponent then 1 <<< exponent.toNat else 1
  let low := if mantissa = 1 <<< 52 && exponent != Double.leastExponent then num - unit else num - 2 * unit
  let high := num + 2 * unit
  ((List.range' 1 17).findSome? fun count =>
    nearestWithin? num low high den (mantissa % 2 == 0) count).getD ⟨mantissa, exponent⟩

end Decimal

/-- How a number is laid out: positional notation between two magnitudes, else scientific notation
with an exponent of a least width. -/
structure NumberLayout where
  leastPositional : Int
  greatestPositional : Int
  exponentWidth : Nat

namespace NumberLayout

/-- Messages and settings: positional from `0.0001` to below `10 ^ 16`, exponents of two digits. -/
def plain : NumberLayout := ⟨-4, 15, 2⟩

/-- Documents: positional from `0.00001` to below `10 ^ 16`, exponents as short as they are. -/
def document : NumberLayout := ⟨-5, 15, 1⟩

/-- `n` in decimal, filled with zeros on the left to the width. -/
def padded (width n : Nat) : String :=
  let digits := Nat.toDigits 10 n
  String.ofList (List.replicate (width - digits.length) '0' ++ digits)

/-- A decimal exponent with its sign. -/
def exponentText (width : Nat) (e : Int) : String :=
  (if e < 0 then "e-" else "e+") ++ padded width e.natAbs

/-- Lays out a positive decimal number. -/
def text (layout : NumberLayout) (d : Decimal) : String :=
  let digits := (Nat.toDigits 10 d.digits).reverse.dropWhile (· == '0') |>.reverse
  let leading : Int := d.point + (Nat.toDigits 10 d.digits).length - 1
  if layout.leastPositional ≤ leading && leading ≤ layout.greatestPositional then
    if leading < 0 then
      "0." ++ String.ofList (List.replicate (-leading - 1).toNat '0' ++ digits)
    else
      let whole := digits.take (leading.toNat + 1)
      let filled := whole ++ List.replicate (leading.toNat + 1 - whole.length) '0'
      let fraction := digits.drop (leading.toNat + 1)
      String.ofList filled ++ "." ++ (if fraction.isEmpty then "0" else String.ofList fraction)
  else
    let fraction := digits.drop 1
    String.ofList (digits.take 1) ++ (if fraction.isEmpty then "" else "." ++ String.ofList fraction) ++
      exponentText layout.exponentWidth leading

/-- Lays out a double. -/
def doubleText (layout : NumberLayout) : Double → String
  | .nan => "nan"
  | .infinite negative => (if negative then "-" else "") ++ "inf"
  | .finite negative m e =>
    (if negative then "-" else "") ++ (if m = 0 then "0.0" else layout.text (Decimal.shortest m e))

end NumberLayout

/-- A non-negative rational number in scientific notation with nine decimals, rounded to the nearest
and from halfway to even. -/
def scientificText (r : Rat) : String :=
  let num := r.num.natAbs
  let sign := if r.num < 0 then "-" else ""
  if num = 0 then "0.000000000e+00"
  else
    let p := Decimal.magnitude num r.den
    let (n, d) := Decimal.scale num r.den (p - 9)
    let digits := Double.divNearest n d
    let (digits, p) := if digits = 10000000000 then (1000000000, p + 1) else (digits, p)
    let chars := Nat.toDigits 10 digits
    sign ++ String.ofList (chars.take 1) ++ "." ++ String.ofList (chars.drop 1) ++
      NumberLayout.exponentText 2 p

end ShaderShrink
