import ShaderShrink.Fault
import ShaderShrink.Text.Blank

/-!
# Decimal digits

Decimal digits come in runs of ten, one run for each script.  A digit's value is its distance from
the zero of its run, and a numeral is read in base ten whatever the scripts of its digits.
-/

namespace ShaderShrink.Text

/-- The zero of every run of ten decimal digits. -/
def digitZeros : List Nat :=
  [0x30, 0x660, 0x6f0, 0x7c0, 0x966, 0x9e6, 0xa66, 0xae6, 0xb66, 0xbe6, 0xc66, 0xce6, 0xd66,
  0xde6, 0xe50, 0xed0, 0xf20, 0x1040, 0x1090, 0x17e0, 0x1810, 0x1946, 0x19d0, 0x1a80, 0x1a90,
  0x1b50, 0x1bb0, 0x1c40, 0x1c50, 0xa620, 0xa8d0, 0xa900, 0xa9d0, 0xa9f0, 0xaa50, 0xabf0,
  0xff10, 0x104a0, 0x10d30, 0x11066, 0x110f0, 0x11136, 0x111d0, 0x112f0, 0x11450, 0x114d0,
  0x11650, 0x116c0, 0x11730, 0x118e0, 0x11950, 0x11c50, 0x11d50, 0x11da0, 0x16a60, 0x16ac0,
  0x16b50, 0x1d7ce, 0x1d7d8, 0x1d7e2, 0x1d7ec, 0x1d7f6, 0x1e140, 0x1e2f0, 0x1e950, 0x1fbf0]

/-- The value of a decimal digit of any script. -/
def digitValue? (c : Char) : Option Nat :=
  (digitZeros.find? fun start => start ≤ c.toNat && c.toNat < start + 10).map (c.toNat - ·)

/-- Whether the character is a decimal digit of some script. -/
def isDigit (c : Char) : Bool := (digitValue? c).isSome

/-- The number a sequence of decimal digits stands for. -/
def numeral (t : Text) : Nat := t.foldl (fun n c => 10 * n + (digitValue? c).getD 0) 0

/-- The value of a digit in base sixteen. -/
def hexValue? (c : Char) : Option Nat :=
  if '0' ≤ c && c ≤ '9' then some (c.toNat - 48)
  else if 'a' ≤ c && c ≤ 'f' then some (c.toNat - 87)
  else if 'A' ≤ c && c ≤ 'F' then some (c.toNat - 55)
  else none

/-- The number of some digits in a base up to sixteen. -/
def numberIn (base : Nat) (digits : Text) : Nat :=
  digits.foldl (fun n c => base * n + (hexValue? c).getD 0) 0

/-- The greatest number of digits that are read as a number. -/
def maxDigits : Nat := 4300

/-- The number that some digits stand for, unless there are too many. -/
def boundedNumeral (digits : Text) : Except Fault Nat :=
  if digits.length ≤ maxDigits then .ok (numeral digits)
  else
    .error (.value ("Exceeds the limit (" ++ toString maxDigits ++
      " digits) for integer string conversion: value has " ++ toString digits.length ++
      " digits; use sys.set_int_max_str_digits() to increase the limit"))

/-- Digits of any script, in which single underscores may stand between two digits, as ASCII digits
without underscores. -/
def plainDigits? : Text → Option Text
  | [] => some []
  | '_' :: c :: rest => if isDigit c then plainDigits? (c :: rest) else none
  | c :: rest => do
    let value ← digitValue? c
    let others ← plainDigits? rest
    some (Nat.digitChar value :: others)

/-- The sign and the rest of a numeral. -/
def splitSign : Text → Bool × Text
  | '-' :: rest => (true, rest)
  | '+' :: rest => (false, rest)
  | t => (false, t)

/-- Whether a character may stand around a number: white space, but none of the four separators. -/
def padsNumber (c : Char) : Bool := isBlank c && !(28 ≤ c.toNat && c.toNat ≤ 31)

/-- The whole number that a text stands for: digits, perhaps with a sign and with white space around. -/
def integer? (t : Text) : Option Int := do
  let bare := ((t.dropWhile padsNumber).reverse.dropWhile padsNumber).reverse
  let (negative, digits) := splitSign bare
  let first ← digits.head?
  if !isDigit first then none
  else
    let plain ← plainDigits? digits
    if maxDigits < plain.length then none
    else
      let n : Int := numeral plain
      some (if negative then -n else n)

/-- A digit's value is below ten. -/
theorem digitValue?_lt {c : Char} {v : Nat} (found : digitValue? c = some v) : v < 10 := by
  obtain ⟨start, member, rfl⟩ := Option.map_eq_some_iff.mp found
  have within := List.find?_some member
  simp only [Bool.and_eq_true, decide_eq_true_eq] at within
  omega

end ShaderShrink.Text
