import Giro.Proofs.Decimal.Written
import Giro.Proofs.Money.Grammar

/-!
# Amounts as they are shown

An amount is shown without the zeros at its end, with two digits behind the point if the
coefficient has room for them. Both steps keep the number. So an amount that can be stored
and is not below zero is accepted again as it is shown, and is the same number. What is
shown tells any two numbers apart, since a number has one form without zeros at its end.
-/

namespace Giro
namespace Decimal

theorem scale_of_make?
    {coefficient : Int}
    {scale : Nat}
    {number : Decimal}
    (made : make? coefficient scale = some number) :
    number.scale = scale ∧ scale <= 28 := by
  unfold make? at made
  split at made
  · rename_i fits
    cases made
    exact ⟨rfl, fits.2⟩
  · cases made

/-- More digits behind the point do not change the number. -/
@[simp] theorem units_extendTo (number : Decimal) (scale : Nat) :
    (number.extendTo scale).units = number.units := by
  induction scale with
  | zero => rfl
  | succ scale ih =>
      rw [extendTo]
      split_ifs with short
      · cases made : make? (number.coefficient * tenTo (scale + 1 - number.scale)) (scale + 1) with
        | none => exact ih
        | some longer =>
            have within := (scale_of_make? made).2
            have weight : tenTo (28 - number.scale) =
                tenTo (scale + 1 - number.scale) * tenTo (28 - (scale + 1)) := by
              rw [← tenTo_add]
              congr 1
              omega
            dsimp only
            rw [units_of_make? made, units, weight, Nat.cast_mul, mul_assoc]
      · rfl

theorem scale_extendTo_le (number : Decimal) (scale : Nat) :
    (number.extendTo scale).scale <= max number.scale scale := by
  induction scale with
  | zero => exact le_max_left ..
  | succ scale ih =>
      rw [extendTo]
      split_ifs
      · cases made : make? (number.coefficient * tenTo (scale + 1 - number.scale)) (scale + 1) with
        | none => exact ih.trans (max_le_max_left _ (Nat.le_succ scale))
        | some longer => exact (scale_of_make? made).1.trans_le (le_max_right ..)
      · exact le_max_left ..

/-- The same number with no zeros at its end has the fewest digits behind the point. -/
theorem scale_le_of_units_eq
    {left right : Decimal}
    (last : left.scale = 0 ∨ left.coefficient % 10 ≠ 0)
    (same : left.units = right.units) :
    left.scale <= right.scale := by
  by_contra more
  have within := left.scaleFits
  have weight : tenTo (28 - right.scale) =
      tenTo (left.scale - right.scale - 1) * 10 * tenTo (28 - left.scale) := by
    rw [← tenTo_succ, ← tenTo_add]
    congr 1
    omega
  have coefficient : left.coefficient =
      right.coefficient * tenTo (left.scale - right.scale - 1) * 10 := by
    rw [units, units, weight, Nat.cast_mul, Nat.cast_mul, ← mul_assoc, ← mul_assoc] at same
    exact mul_right_cancel₀ (tenTo_cast_pos (28 - left.scale)).ne' same
  have zero : left.coefficient % 10 = 0 := by
    rw [coefficient]
    exact Int.mul_emod_left _ 10
  exact last.elim (fun integral => more (by omega)) (· zero)

/-- A number has one form without zeros at its end. -/
theorem normalize_eq_iff {left right : Decimal} :
    left.normalize = right.normalize ↔ left.units = right.units := by
  constructor
  · intro same
    rw [← units_normalize left, same, units_normalize]
  · intro same
    rw [← units_normalize left, ← units_normalize right] at same
    have leftLast : left.normalize.scale = 0 ∨ left.normalize.coefficient % 10 ≠ 0 :=
      dropZeros_last ..
    have rightLast : right.normalize.scale = 0 ∨ right.normalize.coefficient % 10 ≠ 0 :=
      dropZeros_last ..
    have scale := le_antisymm (scale_le_of_units_eq leftLast same)
      (scale_le_of_units_eq rightLast same.symm)
    rw [units, units, scale] at same
    exact eq_of_same (mul_right_cancel₀ (tenTo_cast_pos _).ne' same) scale

/-- Decimals that are written the same are the same, down to their scale. -/
theorem toText_inj {left right : Decimal} : left.toText = right.toText ↔ left = right := by
  refine ⟨fun same => ?_, congrArg toText⟩
  have read := left.ofText_toText
  rw [same, ofText_toText] at read
  exact (Except.ok.inj read).symm

theorem coefficient_nonneg_iff (number : Decimal) :
    0 <= number.coefficient ↔ 0 <= number.units := by
  have weight := tenTo_cast_pos (28 - number.scale)
  rw [units]
  exact (mul_nonneg_iff_of_pos_right weight).symm

end Decimal

namespace Money

/-- A number that is not below zero, with few enough digits, is accepted as it is written. -/
theorem parse_toText
    {number : Decimal}
    (nonneg : 0 <= number.coefficient)
    (few : number.scale <= storedDigits) :
    parse number.toText = .ok number := by
  have read := number.ofText_toText
  have short : number.numeral.fraction.length <= storedDigits :=
    number.length_fractionDigits.trans_le few
  rw [Decimal.ofText, Decimal.toText, String.toList_ofList, Decimal.toChars_of_nonneg nonneg] at read
  rw [Decimal.toText, Decimal.toChars_of_nonneg nonneg,
    (spells_chars number.numeral).parse_of_short short, read]
  rfl

/-- Amounts are shown the same exactly if they are the same number. -/
theorem format_eq_format_iff {left right : Decimal} :
    format left = format right ↔ left.units = right.units := by
  rw [format, format, Decimal.toText_inj]
  constructor
  · intro same
    have units := congrArg Decimal.units same
    rwa [Decimal.units_extendTo, Decimal.units_extendTo, Decimal.units_normalize,
      Decimal.units_normalize] at units
  · intro same
    rw [Decimal.normalize_eq_iff.mpr same]

/-- An amount that can be stored is accepted as it is shown, and is the same number. -/
theorem parse_format
    {amount : Decimal}
    (nonneg : Decimal.zero <= amount)
    (storable : amount.Storable) :
    ∃ shown, parse (format amount) = .ok shown ∧ shown.units = amount.units := by
  have units : (amount.normalize.extendTo shownDigits).units = amount.units := by
    rw [Decimal.units_extendTo, Decimal.units_normalize]
  have few : (amount.normalize.extendTo shownDigits).scale <= storedDigits :=
    (Decimal.scale_extendTo_le _ _).trans
      (max_le (amount.storable_iff_scale_normalize.mp storable) (by decide))
  refine ⟨_, parse_toText ?_ few, units⟩
  rw [Decimal.coefficient_nonneg_iff, units]
  exact nonneg

end Money
end Giro
