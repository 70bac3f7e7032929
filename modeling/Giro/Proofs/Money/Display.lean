import Giro.Proofs.Decimal.Range
import Giro.Proofs.Decimal.Shown

/-!
# The shape of amounts as they are shown

What is shown has no zeros that could be left out: a whole part begins with a zero only if it
has no other digit, and from the third digit behind the point on there is none at the end. It
writes the very number, with a minus sign if that is below zero. At least two digits are to
stand behind the point, and they do as long as 96 bits have room for them. Larger numbers are
shown with one digit there, or with none and without the point.
-/

namespace Giro

open Text (digitsOf)

namespace Decimal

section Size

variable {number : Decimal} {count places : Nat}

theorem value_neg_iff (number : Decimal) : number.value < 0 ↔ number.coefficient < 0 := by
  rw [value, div_lt_iff₀ (by positivity), zero_mul, Int.cast_lt_zero]

theorem abs_value (number : Decimal) :
    |number.value| = number.coefficient.natAbs / 10 ^ number.scale := by
  rw [value, abs_div, Nat.cast_natAbs, Int.cast_abs, abs_of_pos (by positivity : (0 : ℚ) < 10 ^ _)]

@[simp] theorem value_extendTo (number : Decimal) (count : Nat) :
    (number.extendTo count).value = number.value :=
  units_eq_iff_value_eq.mp (number.units_extendTo count)

@[simp] theorem value_normalize (number : Decimal) : number.normalize.value = number.value :=
  units_eq_iff_value_eq.mp number.units_normalize

/-- Digits stand behind the point only if the coefficient has room for them. -/
theorem abs_value_mul_lt_capacity (shown : places <= number.scale) :
    |number.value| * 10 ^ places < capacity := by
  calc
    |number.value| * 10 ^ places <= |number.value| * 10 ^ number.scale := by
      gcongr
      norm_num
    _ = number.coefficient.natAbs := by
      rw [abs_value, div_mul_cancel₀ _ (by positivity)]
    _ < capacity := Nat.cast_lt.mpr number.coefficientFits

/-- The coefficient that the number would have with more digits behind the point. -/
theorem abs_value_mul_of_scale_le (lower : number.scale <= places) :
    |number.value| * 10 ^ places =
      ((number.coefficient * tenTo (places - number.scale)).natAbs : ℚ) := by
  obtain ⟨more, rfl⟩ := Nat.exists_eq_add_of_le lower
  rw [Nat.add_sub_cancel_left, Int.natAbs_mul, Int.natAbs_natCast, Nat.cast_mul, cast_tenTo,
    abs_value, pow_add, ← mul_assoc, div_mul_cancel₀ _ (by positivity)]

theorem extendTo_of_le_scale (long : count <= number.scale) :
    number.extendTo count = number := by
  cases count with
  | zero => rfl
  | succ count => rw [extendTo, if_neg (not_lt.mpr long)]

/-- So many digits stand behind the point in the end exactly if there is room for them. -/
theorem le_scale_extendTo_iff (within : count <= 28) (few : places <= count) :
    places <= (number.extendTo count).scale ↔ |number.value| * 10 ^ places < capacity := by
  constructor
  · intro shown
    simpa using abs_value_mul_lt_capacity shown
  · intro room
    induction count with
    | zero => exact few.trans (Nat.zero_le _)
    | succ count ih =>
        rw [extendTo]
        split_ifs with short
        · -- A last digit that does not fit is not among the places that there is room for.
          cases made : make? (number.coefficient * tenTo (count + 1 - number.scale)) (count + 1) with
          | some longer => exact few.trans_eq (scale_of_make? made).1.symm
          | none =>
              have large := (make?_eq_none_iff within).mp made
              refine ih (Nat.le_of_succ_le within) (Nat.le_of_lt_succ (few.lt_of_ne ?_))
              rintro rfl
              rw [abs_value_mul_of_scale_le short.le, Nat.cast_lt] at room
              exact absurd room (not_lt.mpr large)
        · exact few.trans (not_lt.mp short)

end Size

section Written

variable {number : Decimal}

@[simp] theorem length_fraction_numeral (number : Decimal) :
    number.numeral.fraction.length = number.scale :=
  number.length_fractionDigits

/-- The written form without its sign writes the number without its sign. -/
theorem value_numeral (number : Decimal) : number.numeral.value = |number.value| := by
  rw [Numeral.value, digits_numeral, length_fraction_numeral, abs_value]

/-- The digits in front of the point do not begin with a zero if there are several. -/
theorem head?_wholeDigits (several : 1 < number.wholeDigits.length) :
    number.wholeDigits.head? ≠ some '0' := by
  have length : number.digits.length =
      max (number.scale + 1) (digitsOf number.coefficient.natAbs).length :=
    List.length_leftpad ..
  rw [wholeDigits, List.length_take] at several
  have unpadded : number.digits = digitsOf number.coefficient.natAbs := by
    rw [digits, List.leftpad, Nat.sub_eq_zero_of_le (by omega), List.replicate_zero,
      List.nil_append]
  have positive : 0 < number.coefficient.natAbs := by
    by_contra zero
    rw [unpadded, Nat.eq_zero_of_not_pos zero] at several
    exact absurd several (by simp [digitsOf])
  rw [wholeDigits, List.head?_take, if_neg (by omega), unpadded]
  exact Text.head?_digitsOf positive

/-- The last digit behind the point is that of the coefficient. -/
theorem getLast?_fractionDigits (last : number.coefficient % 10 ≠ 0) :
    number.fractionDigits.getLast? ≠ some '0' := by
  intro ending
  obtain ⟨front, fraction⟩ := List.getLast?_eq_some_iff.mp ending
  have value := number.valueOfDigits_digits
  rw [← wholeDigits_append_fractionDigits, fraction, ← List.append_assoc,
    Text.valueOfDigits_append, Text.valueOfDigits_singleton, Text.digitValue, Nat.sub_self,
    List.length_singleton, tenTo_succ, tenTo_zero] at value
  omega

/-- Numerals that are written the same have the same digits behind the point. -/
theorem Numeral.fraction_eq_of_chars_eq
    {left right : Numeral}
    (same : left.chars = right.chars) :
    left.fraction = right.fraction := by
  have parts (numeral : Numeral) :
      (Money.splitPoint numeral.chars).2.getD [] = numeral.fraction := by
    obtain ⟨plain, pointed⟩ := Money.splitPoint_of_digits numeral.wholeDigits
    rw [Numeral.chars]
    split_ifs with integral
    · rw [List.append_nil, plain, integral]
      rfl
    · rw [pointed]
      rfl
  rw [← parts left, same, parts right]

end Written

end Decimal

namespace Money

open Decimal (Numeral)

/-- No zero in front or at the end could be left out, the first two behind the point apart. -/
structure IsTidy (numeral : Numeral) : Prop where
  wholeShort : 1 < numeral.whole.length -> numeral.whole.head? ≠ some '0'
  fractionShort : 2 < numeral.fraction.length -> numeral.fraction.getLast? ≠ some '0'

/--
A text shows a number: a minus sign if the number is below zero, and then the number in
digits, with at least so many of them behind the point and no zeros that could be left out.
-/
def Displays (places : Nat) (text : String) (number : ℚ) : Prop :=
  ∃ numeral : Numeral, IsTidy numeral ∧
    places <= numeral.fraction.length ∧
    numeral.value = |number| ∧
    text.toList = (if number < 0 then ['-'] else []) ++ numeral.chars

variable (amount : Decimal)

/-- What is shown has no zeros that could be left out. -/
theorem isTidy_shown : IsTidy (amount.normalize.extendTo shownDigits).numeral where
  wholeShort := Decimal.head?_wholeDigits
  fractionShort := by
    intro long
    have more : shownDigits < amount.normalize.scale := by
      rw [Decimal.length_fraction_numeral] at long
      have most := amount.normalize.scale_extendTo_le shownDigits
      exact (lt_max_iff.mp (long.trans_le most)).resolve_right (lt_irrefl _)
    have last : amount.normalize.scale = 0 ∨ amount.normalize.coefficient % 10 ≠ 0 :=
      Decimal.dropZeros_last ..
    rw [Decimal.extendTo_of_le_scale more.le]
    exact Decimal.getLast?_fractionDigits (last.resolve_left (by omega))

theorem toList_format :
    (format amount).toList =
      (if amount.value < 0 then ['-'] else []) ++
        (amount.normalize.extendTo shownDigits).numeral.chars := by
  rw [format, Decimal.toText, String.toList_ofList, Decimal.toChars_eq,
    ← if_congr (Decimal.value_neg_iff _) rfl rfl, Decimal.value_extendTo, Decimal.value_normalize]

/-- Up to two digits stand behind the point exactly if there is room for them. -/
theorem displays_format_iff {places : Nat} (few : places <= shownDigits) :
    Displays places (format amount) amount.value ↔
      |amount.value| * 10 ^ places < Decimal.capacity := by
  have room : places <= (amount.normalize.extendTo shownDigits).scale ↔ _ :=
    Decimal.le_scale_extendTo_iff (by decide) few
  rw [Decimal.value_normalize] at room
  rw [← room, ← Decimal.length_fraction_numeral]
  constructor
  · rintro ⟨numeral, -, long, -, written⟩
    rw [toList_format, List.append_cancel_left_eq] at written
    rwa [Numeral.fraction_eq_of_chars_eq written]
  · intro long
    refine ⟨_, isTidy_shown amount, long, ?_, toList_format amount⟩
    rw [Decimal.value_numeral, Decimal.value_extendTo, Decimal.value_normalize]

/--
An amount is shown with two digits behind the point at least exactly if a hundred times the
amount is within 96 bits, and with one at least exactly if ten times the amount is. In any case
it is shown as the number that it is, without zeros that could be left out.
-/
theorem displays_two_iff :
    (Displays 2 (format amount) amount.value ↔ |amount.value| * 100 < 2 ^ 96) ∧
    (Displays 1 (format amount) amount.value ↔ |amount.value| * 10 < 2 ^ 96) ∧
    Displays 0 (format amount) amount.value := by
  have capacity : (Decimal.capacity : ℚ) = 2 ^ 96 := by norm_num [Decimal.capacity]
  refine ⟨?_, ?_, ?_⟩
  · rw [displays_format_iff amount (by decide), capacity]
    norm_num
  · rw [displays_format_iff amount (by decide), capacity]
    norm_num
  · rw [displays_format_iff amount (by decide)]
    exact Decimal.abs_value_mul_lt_capacity (Nat.zero_le _)

/-- Large amounts are shown with one digit behind the point, or with none. -/
theorem large_amounts_lack_digits :
    let large : Decimal := .whole 792281625142643375935439504 (by decide)
    let larger : Decimal := .whole 7922816251426433759354395034 (by decide)
    format large = "792281625142643375935439504.0" ∧
      ¬ Displays 2 (format large) large.value ∧
      format larger = "7922816251426433759354395034" ∧
      ¬ Displays 2 (format larger) larger.value := by
  intro large larger
  refine ⟨by decide, ?_, by decide, ?_⟩
  · rw [displays_format_iff large (by decide)]
    norm_num [large, Decimal.value, Decimal.whole, Decimal.capacity]
  · rw [displays_format_iff larger (by decide)]
    norm_num [larger, Decimal.value, Decimal.whole, Decimal.capacity]

end Money
end Giro
