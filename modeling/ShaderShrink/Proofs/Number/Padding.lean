import Mathlib.Algebra.Group.Nat.Defs
import ShaderShrink.Number.Decimal
import ShaderShrink.Text.Digit

/-!
# Numbers filled with zeros

A number that is filled with zeros to a width is written in ASCII digits, at least as many as the width, and begins with
a zero only where it is no wider.  This is the only spelling of its kind: the number can be read back from it, and other
digits of that kind stand for another number.
-/

namespace ShaderShrink

namespace Text

theorem toNat_of_isDigit {c : Char} (digit : c.isDigit = true) : 48 ≤ c.toNat ∧ c.toNat < 58 := by
  simp only [Char.isDigit, Bool.and_eq_true, decide_eq_true_eq, ge_iff_le, UInt32.le_iff_toNat_le] at digit
  exact ⟨digit.1, Nat.lt_succ_of_le digit.2⟩

theorem digitValue?_of_isDigit {c : Char} (digit : c.isDigit = true) :
    digitValue? c = some (c.toNat - 48) := by
  have bounds := toNat_of_isDigit digit
  simp only [digitValue?, digitZeros, List.find?_cons]
  simp [bounds]

theorem isDigit_of_isDigit {c : Char} (digit : c.isDigit = true) : isDigit c = true := by
  rw [isDigit, digitValue?_of_isDigit digit, Option.isSome_some]

/-- Digits of the ASCII script stand for the number that they show. -/
theorem numeral_eq_ofDigitChars {digits : Text} (ascii : ∀ c ∈ digits, c.isDigit = true) :
    numeral digits = Nat.ofDigitChars 10 digits 0 := by
  have step : ∀ (rest : Text) (n : Nat), (∀ c ∈ rest, c.isDigit = true) →
      rest.foldl (fun n c => 10 * n + (digitValue? c).getD 0) n = Nat.ofDigitChars 10 rest n := by
    intro rest
    induction rest with
    | nil => intro n _; rw [Nat.ofDigitChars_nil]; rfl
    | cons c rest ih =>
      intro n all
      rw [List.foldl_cons, digitValue?_of_isDigit (all c List.mem_cons_self), Option.getD_some,
        ih _ fun c member => all c (List.mem_cons_of_mem _ member), Nat.ofDigitChars_cons]
      rfl
  exact step digits 0 ascii

/-- The first digit counts for as many times the power of ten as there are digits behind it. -/
theorem ofDigitChars_cons_zero (c : Char) (digits : Text) :
    Nat.ofDigitChars 10 (c :: digits) 0 = 10 ^ digits.length * (c.toNat - 48) + Nat.ofDigitChars 10 digits 0 := by
  rw [Nat.ofDigitChars_cons, Nat.ofDigitChars_eq_ofDigitChars_zero, Nat.mul_zero, Nat.zero_add]
  rfl

/-- Digits stand for a number that has no more of them. -/
theorem ofDigitChars_lt {digits : Text} (ascii : ∀ c ∈ digits, c.isDigit = true) :
    Nat.ofDigitChars 10 digits 0 < 10 ^ digits.length := by
  induction digits with
  | nil => exact Nat.one_pos
  | cons c rest ih =>
    have bounds := toNat_of_isDigit (ascii c List.mem_cons_self)
    have below := ih fun d member => ascii d (List.mem_cons_of_mem c member)
    have share : 10 ^ rest.length * (c.toNat - 48) ≤ 10 ^ rest.length * 9 := Nat.mul_le_mul_left _ (by omega)
    rw [ofDigitChars_cons_zero, List.length_cons, Nat.pow_succ]
    omega

/-- As many digits for the same number are the same digits. -/
theorem ofDigitChars_inj {digits others : Text} (ascii : ∀ c ∈ digits, c.isDigit = true)
    (ascii' : ∀ c ∈ others, c.isDigit = true) (length : digits.length = others.length)
    (same : Nat.ofDigitChars 10 digits 0 = Nat.ofDigitChars 10 others 0) : digits = others := by
  induction digits generalizing others with
  | nil => exact (List.length_eq_zero_iff.mp length.symm).symm
  | cons c rest ih =>
    obtain _ | ⟨d, others⟩ := others
    · cases length
    have shorter : rest.length = others.length := Nat.succ.inj length
    have rests := fun e member => ascii e (List.mem_cons_of_mem c member)
    have rests' := fun e member => ascii' e (List.mem_cons_of_mem d member)
    have below := ofDigitChars_lt rests
    have below' := ofDigitChars_lt rests'
    rw [ofDigitChars_cons_zero, ofDigitChars_cons_zero, shorter] at same
    rw [shorter] at below
    have first : c.toNat - 48 = d.toNat - 48 := by
      have front := congrArg (· / 10 ^ others.length) same
      have positive : 0 < 10 ^ others.length := Nat.pow_pos (by decide)
      simpa only [Nat.mul_add_div positive, Nat.div_eq_of_lt below, Nat.div_eq_of_lt below', Nat.add_zero] using front
    have bounds := toNat_of_isDigit (ascii c List.mem_cons_self)
    have bounds' := toNat_of_isDigit (ascii' d List.mem_cons_self)
    obtain rfl : c = d := Char.toNat_inj.mp (by omega)
    rw [ih rests rests' shorter (Nat.add_left_cancel same)]

end Text

namespace NumberLayout

theorem padded_toList (width n : Nat) :
    (padded width n).toList = List.replicate (width - (Nat.toDigits 10 n).length) '0' ++ Nat.toDigits 10 n := by
  simp only [padded, String.toList_ofList]

theorem isDigit_of_mem_padded {width n : Nat} {c : Char} (member : c ∈ (padded width n).toList) :
    c.isDigit = true := by
  rw [padded_toList] at member
  rcases List.mem_append.mp member with zero | digit
  · rw [(List.mem_replicate.mp zero).2]; rfl
  · exact Nat.isDigit_of_mem_toDigits (by decide) (by decide) digit

theorem padded_ne_nil (width n : Nat) : (padded width n).toList ≠ [] := by
  rw [padded_toList]
  exact List.append_ne_nil_of_right_ne_nil _ Nat.toDigits_ne_nil

theorem length_padded (width n : Nat) :
    (padded width n).toList.length = max width (Nat.toDigits 10 n).length := by
  rw [padded_toList, List.length_append, List.length_replicate]
  omega

/-- Padding with zeros does not change the number. -/
theorem numeral_padded (width n : Nat) : Text.numeral (padded width n).toList = n := by
  rw [Text.numeral_eq_ofDigitChars fun c => isDigit_of_mem_padded, padded_toList, Nat.ofDigitChars_append,
    Nat.ofDigitChars_replicate_zero, Nat.mul_zero, Nat.ofDigitChars_ten_toDigits]

/-- Whether digits are filled with zeros to a width, and no further. -/
structure Padded (width : Nat) (digits : Text) : Prop where
  ascii : ∀ c ∈ digits, c.isDigit = true
  wide : width ≤ digits.length
  tight : width < digits.length → digits.head? ≠ some '0'

/-- A number takes no fewer digits than it is written with, unless these begin with a zero. -/
theorem length_toDigits_of_head {digits : Text} (ascii : ∀ c ∈ digits, c.isDigit = true) (filled : 1 < digits.length)
    (head : digits.head? ≠ some '0') :
    (Nat.toDigits 10 (Nat.ofDigitChars 10 digits 0)).length = digits.length := by
  refine Nat.le_antisymm ?_ ?_
  · exact (Nat.length_toDigits_le_iff (by decide) (by omega)).mpr (Text.ofDigitChars_lt ascii)
  · obtain _ | ⟨c, rest⟩ := digits
    · cases filled
    have bounds := Text.toNat_of_isDigit (ascii c List.mem_cons_self)
    have notZero : c.toNat ≠ 48 := fun zero => head (congrArg some (Char.toNat_inj.mp zero))
    have share : 10 ^ rest.length * 1 ≤ 10 ^ rest.length * (c.toNat - 48) := Nat.mul_le_mul_left _ (by omega)
    have more : 0 < rest.length := Nat.lt_of_succ_lt_succ filled
    have large : 10 ^ rest.length ≤ Nat.ofDigitChars 10 (c :: rest) 0 := by
      rw [Text.ofDigitChars_cons_zero]
      omega
    exact Nat.lt_of_not_le fun short =>
      absurd ((Nat.length_toDigits_le_iff (by decide) more).mp short) (Nat.not_lt.mpr large)

/-- Filled digits are the ones with which their number is written. -/
theorem eq_padded_iff {width n : Nat} (positive : 0 < width) {digits : Text} :
    digits = (padded width n).toList ↔ Padded width digits ∧ Text.numeral digits = n := by
  constructor
  · rintro rfl
    refine ⟨⟨fun c => isDigit_of_mem_padded, ?_, fun wider zero => ?_⟩, numeral_padded width n⟩
    · rw [length_padded]
      exact Nat.le_max_left _ _
    · -- A wider number has no zeros in front, and one less digit would do if it began with a zero.
      rw [length_padded] at wider
      rw [padded_toList, show width - (Nat.toDigits 10 n).length = 0 by omega, List.replicate_zero, List.nil_append]
        at zero
      obtain ⟨rest, split⟩ : ∃ rest, Nat.toDigits 10 n = '0' :: rest := by
        cases digits : Nat.toDigits 10 n with
        | nil => rw [digits] at zero; cases zero
        | cons c rest => rw [digits] at zero; cases zero; exact ⟨rest, rfl⟩
      have ascii : ∀ c ∈ rest, c.isDigit = true := fun c member =>
        Nat.isDigit_of_mem_toDigits (by decide) (by decide) (split ▸ List.mem_cons_of_mem '0' member)
      have number : Nat.ofDigitChars 10 rest 0 = n := by
        rw [← Nat.ofDigitChars_ten_toDigits (n := n), split, Text.ofDigitChars_cons_zero]
        exact (Nat.zero_add _).symm
      have below := number ▸ Text.ofDigitChars_lt ascii
      rw [split, List.length_cons] at wider
      have short := (Nat.length_toDigits_le_iff (b := 10) (by decide) (show 0 < rest.length by omega)).mpr below
      rw [split, List.length_cons] at short
      omega
  · rintro ⟨⟨ascii, wide, tight⟩, rfl⟩
    rw [Text.numeral_eq_ofDigitChars ascii]
    refine Text.ofDigitChars_inj ascii (fun c => isDigit_of_mem_padded) ?_ ?_
    · rw [length_padded]
      rcases Nat.eq_or_lt_of_le wide with same | wider
      · have fits := (Nat.length_toDigits_le_iff (by decide) positive).mpr (same ▸ Text.ofDigitChars_lt ascii)
        omega
      · rw [length_toDigits_of_head ascii (by omega) (tight wider)]
        omega
    · rw [← Text.numeral_eq_ofDigitChars ascii]
      rw [← Text.numeral_eq_ofDigitChars fun c => isDigit_of_mem_padded, numeral_padded]

end NumberLayout

end ShaderShrink
