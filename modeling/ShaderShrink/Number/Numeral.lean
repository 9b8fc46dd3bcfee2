import ShaderShrink.Number.Double
import ShaderShrink.Text.Word

/-!
# Numerals

A numeral for a double has a sign, digits with a point among them, and an exponent, of which all but the
digits may be absent.  Some words stand for the doubles that are not finite.
-/

namespace ShaderShrink.Double

/-- The digits at the front and the rest. -/
def splitDigits (t : Text) : Text × Text := (t.takeWhile Text.isAsciiDigit, t.dropWhile Text.isAsciiDigit)

/-- The exponent at the end of a numeral; nothing stands for zero. -/
def exponentOfText? : Text → Option Int
  | [] => some 0
  | c :: rest =>
    if c == 'e' || c == 'E' then
      let (negative, digits) := Text.splitSign rest
      if digits.isEmpty || !digits.all Text.isAsciiDigit then none
      else
        let n : Int := Text.numeral digits
        some (if negative then -n else n)
    else none

/-- The double that a numeral or a word stands for. -/
def ofNumeral? (t : Text) : Option Double :=
  let (negative, t) := Text.splitSign t
  let word := String.ofList (Text.lower t)
  if word = "inf" || word = "infinity" then some (.infinite negative)
  else if word = "nan" then some .nan
  else
    let (digits, t) := splitDigits t
    let (fraction, t) :=
      match t with
      | '.' :: rest => splitDigits rest
      | t => ([], t)
    if digits.isEmpty && fraction.isEmpty then none
    else
      (exponentOfText? t).map fun exponent =>
        ofDecimal negative (Text.numeral (digits ++ fraction)) (exponent - fraction.length)

end ShaderShrink.Double
