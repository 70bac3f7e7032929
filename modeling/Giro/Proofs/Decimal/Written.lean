import Giro.Proofs.Decimal.Plain

/-!
# The written form is read back

A decimal is written with all digits of its scale and a minus sign if it is below zero.
Reading takes every one of these digits, so it ends with the same coefficient and the same
scale. That holds for the largest coefficients as well: they have one digit more than a
scale may have, but whatever stands in front of the last digits is smaller than the whole.
-/

namespace Giro
namespace Decimal

open Text (valueOfDigits)

/-- The digits of the written form, with the point left out. -/
def digits (number : Decimal) : List Char :=
  (Text.digitsOf number.coefficient.natAbs).leftpad (number.scale + 1) '0'

/-- The digits in front of the point. -/
def wholeDigits (number : Decimal) : List Char :=
  number.digits.take (number.digits.length - number.scale)

/-- The digits behind the point. -/
def fractionDigits (number : Decimal) : List Char :=
  number.digits.drop (number.digits.length - number.scale)

theorem all_isDigit_digits (number : Decimal) : number.digits.all Char.isDigit = true := by
  rw [digits, List.leftpad, List.all_append, Text.all_isDigit_digitsOf, Bool.and_true,
    List.all_eq_true]
  intro character member
  rw [List.eq_of_mem_replicate member]
  rfl

@[simp] theorem valueOfDigits_digits (number : Decimal) :
    valueOfDigits number.digits = number.coefficient.natAbs := by
  rw [digits, Text.valueOfDigits_leftpad, Text.valueOfDigits_digitsOf]

theorem scale_lt_length_digits (number : Decimal) : number.scale < number.digits.length := by
  rw [digits, List.leftpad, List.length_append, List.length_replicate]
  omega

theorem wholeDigits_append_fractionDigits (number : Decimal) :
    number.wholeDigits ++ number.fractionDigits = number.digits :=
  List.take_append_drop ..

@[simp] theorem length_fractionDigits (number : Decimal) :
    number.fractionDigits.length = number.scale := by
  have long := number.scale_lt_length_digits
  rw [fractionDigits, List.length_drop]
  omega

theorem wholeDigits_ne_nil (number : Decimal) : number.wholeDigits ≠ [] := by
  have long := number.scale_lt_length_digits
  refine List.ne_nil_of_length_pos ?_
  rw [wholeDigits, List.length_take]
  omega

theorem all_isDigit_wholeDigits (number : Decimal) :
    number.wholeDigits.all Char.isDigit = true := by
  have all := number.all_isDigit_digits
  rw [← wholeDigits_append_fractionDigits, List.all_append, Bool.and_eq_true] at all
  exact all.1

theorem all_isDigit_fractionDigits (number : Decimal) :
    number.fractionDigits.all Char.isDigit = true := by
  have all := number.all_isDigit_digits
  rw [← wholeDigits_append_fractionDigits, List.all_append, Bool.and_eq_true] at all
  exact all.2

/-- The written form without its sign. -/
def numeral (number : Decimal) : Numeral where
  whole := number.wholeDigits
  fraction := number.fractionDigits
  wholeSome := number.wholeDigits_ne_nil
  wholeDigits := number.all_isDigit_wholeDigits
  fractionDigits := number.all_isDigit_fractionDigits

@[simp] theorem digits_numeral (number : Decimal) :
    number.numeral.digits = number.coefficient.natAbs := by
  rw [Numeral.digits, numeral, wholeDigits_append_fractionDigits, valueOfDigits_digits]

theorem toChars_eq (number : Decimal) :
    number.toChars = (if number.coefficient < 0 then ['-'] else []) ++ number.numeral.chars := by
  have integral : number.fractionDigits = [] ↔ number.scale = 0 := by
    rw [← List.length_eq_zero_iff, length_fractionDigits]
  simp only [Numeral.chars, numeral, integral]
  exact List.append_assoc ..

/-- A number that is not below zero is written as a numeral. -/
theorem toChars_of_nonneg {number : Decimal} (nonneg : 0 <= number.coefficient) :
    number.toChars = number.numeral.chars := by
  rw [toChars_eq, if_neg (not_lt.mpr nonneg), List.nil_append]

/-- What is written behind the sign is read to the number. -/
theorem read_numeral (number : Decimal) :
    { Reading.start with negative := decide (number.coefficient < 0) }.read
      number.numeral.chars = .ok number := by
  have fits : number.numeral.digits < capacity := by
    rw [digits_numeral]
    exact number.coefficientFits
  have places : number.numeral.fraction.length = number.scale := number.length_fractionDigits
  obtain ⟨same, read, coefficient, scale⟩ := Numeral.read_of_fits
    (decide (number.coefficient < 0)) fits (places.trans_le number.scaleFits)
  rw [read, eq_of_same (coefficient.trans ?_) (scale.trans places)]
  rw [digits_numeral]
  by_cases below : number.coefficient < 0
  · rw [decide_eq_true below, if_pos rfl]
    omega
  · rw [decide_eq_false below, if_neg Bool.false_ne_true]
    omega

/-- A decimal is read back from its written form, with the same scale. -/
theorem ofText_toText (number : Decimal) : ofText number.toText = .ok number := by
  have read := number.read_numeral
  rw [ofText, toText, String.toList_ofList, toChars_eq]
  by_cases below : number.coefficient < 0
  · rw [decide_eq_true below] at read
    rw [if_pos below]
    exact read
  · rw [decide_eq_false below] at read
    rw [if_neg below, List.nil_append, Numeral.ofChars_eq_read]
    exact read

@[simp] theorem ofAnyText?_toText (number : Decimal) : ofAnyText? number.toText = some number := by
  rw [ofAnyText?, ofText_toText]

end Decimal
end Giro
