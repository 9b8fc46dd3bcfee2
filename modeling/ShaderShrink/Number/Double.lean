/-!
# Binary floating point

A double is a signed whole mantissa times a power of two, an infinity, or not a number.  All
arithmetic on doubles is exact arithmetic on whole numbers followed by one rounding: to the nearest
double, and from halfway to the one with the even mantissa.
-/

namespace ShaderShrink

/-- A binary floating-point number with 53 significant bits. -/
inductive Double where
  | nan
  | infinite (negative : Bool)
  /-- The number `mantissa * 2 ^ exponent`, negated if `negative`. -/
  | finite (negative : Bool) (mantissa : Nat) (exponent : Int)
  deriving DecidableEq, Repr

namespace Double

/-- The exponent of the least positive double. -/
def leastExponent : Int := -1074

/-- The exponent of the largest doubles. -/
def greatestExponent : Int := 971

/-- The quotient of `num` and `den` as a fraction of `2 ^ e`. -/
def scale (num den : Nat) (e : Int) : Nat × Nat :=
  if 0 ≤ e then (num, den <<< e.toNat) else (num <<< (-e).toNat, den)

/-- Division to the nearest whole number; from halfway to the even one. -/
def divNearest (num den : Nat) : Nat :=
  let quotient := num / den
  let rest := num % den
  if 2 * rest < den then quotient
  else if den < 2 * rest then quotient + 1
  else quotient + quotient % 2

/-- The double nearest to the quotient of `num` and `den`. -/
def ofFraction (negative : Bool) (num den : Nat) : Double :=
  if num = 0 then .finite negative 0 leastExponent
  else
    let low : Int := (num.log2 : Int) - den.log2 - 53
    let (n, d) := scale num den low
    let fitted := if n / d < 1 <<< 53 then low else low + 1
    let e := max fitted leastExponent
    let (n, d) := scale num den e
    let m := divNearest n d
    let (m, e) := if m = 1 <<< 53 then (1 <<< 52, e + 1) else (m, e)
    if greatestExponent < e then .infinite negative else .finite negative m e

/-- The double nearest to `digits * 10 ^ exponent`. -/
def ofDecimal (negative : Bool) (digits : Nat) (exponent : Int) : Double :=
  let magnitude := exponent + (digits.log2 : Int) * 30102 / 100000
  if digits = 0 then .finite negative 0 leastExponent
  else if 400 < magnitude then .infinite negative
  else if exponent + (digits.log2 : Int) < -400 then .finite negative 0 leastExponent
  else if 0 ≤ exponent then ofFraction negative (digits * Nat.pow 10 exponent.toNat) 1
  else ofFraction negative digits (Nat.pow 10 (-exponent).toNat)

/-- The double nearest to a whole number. -/
def ofInt (n : Int) : Double := ofFraction (n < 0) n.natAbs 1

/-- The value of a finite double as a whole multiple of the least positive one. -/
def units? : Double → Option Int
  | .finite negative m e =>
    let magnitude : Int := (m <<< (e - leastExponent).toNat : Nat)
    some (if negative then -magnitude else magnitude)
  | _ => none

/-- The value of a finite double. -/
def toRat? (x : Double) : Option Rat := x.units?.map fun units => mkRat units (1 <<< 1074)

/-- Whether the double is not a number. -/
def isNan : Double → Bool
  | .nan => true
  | _ => false

/-- Whether the double is a number that is not infinite. -/
def isFinite : Double → Bool
  | .finite .. => true
  | _ => false

/-- Whether `x` is less than `y`; nothing compares with what is not a number. -/
def less (x y : Double) : Bool :=
  match x, y with
  | .nan, _ | _, .nan => false
  | .infinite negative, .infinite negative' => negative && !negative'
  | .infinite negative, .finite .. => negative
  | .finite .., .infinite negative => !negative
  | x, y => x.units?.getD 0 < y.units?.getD 0

/-- Whether `x` is at most `y`; nothing compares with what is not a number. -/
def atMost (x y : Double) : Bool :=
  match x, y with
  | .nan, _ | _, .nan => false
  | x, y => !less y x

/-- Whether two doubles have the same value; zero equals its negation. -/
def sameValue (x y : Double) : Bool := x.atMost y && y.atMost x

/-- Whether `x` is less than the rational number `r`. -/
def lessRat (x : Double) (r : Rat) : Bool :=
  match x with
  | .nan => false
  | .infinite negative => negative
  | .finite .. => (x.toRat?.getD 0) < r

/-- Whether the rational number `r` is less than `x`. -/
def ratLess (r : Rat) (x : Double) : Bool :=
  match x with
  | .nan => false
  | .infinite negative => !negative
  | .finite .. => r < x.toRat?.getD 0

/-- The whole number a double stands for, if it is one. -/
def toInt? (x : Double) : Option Int :=
  x.units?.bind fun units => let unit : Int := (1 <<< 1074 : Nat)
    if units % unit = 0 then some (units / unit) else none

end Double

end ShaderShrink
