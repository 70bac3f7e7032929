import Giro.Decimal.Basic
import Giro.Rounding

/-!
# Rounding to a decimal

Ratios rounded to the finest decimal that can hold them, decimals with fewer or
more digits after the point, and the form without trailing zeros.
-/

namespace Giro

namespace Decimal

/-- The ratio rounded to a scale, a half to the even neighbour. -/
def ofRatioAt? (numerator : Int) (denominator scale : Nat) : Option Decimal :=
  make? (roundRatio .toEven (numerator * tenTo scale) denominator) scale

/--
The ratio rounded to the largest scale, from a given one downward, at which the
coefficient fits; nothing if it does not fit without digits after the point.
-/
def ofRatio? (numerator : Int) (denominator : Nat) : Nat -> Option Decimal
  | 0 => ofRatioAt? numerator denominator 0
  | scale + 1 =>
      match ofRatioAt? numerator denominator (scale + 1) with
      | some number => some number
      | none => ofRatio? numerator denominator scale

/-- The number with fewer digits after the point, a half going away from zero. -/
def roundTo? (scale : Nat) (number : Decimal) : Option Decimal :=
  if number.scale <= scale then some number
  else
    make?
      (roundRatio .awayFromZero number.coefficient (tenTo (number.scale - scale)))
      scale

/-- Drop up to `count` trailing zeros after the point of a coefficient. -/
def dropZeros (coefficient : Int) : Nat -> Int × Nat
  | 0 => (coefficient, 0)
  | scale + 1 =>
      if coefficient % 10 = 0 then dropZeros (coefficient / 10) scale
      else (coefficient, scale + 1)

theorem dropZeros_natAbs_le (coefficient : Int) (scale : Nat) :
    (dropZeros coefficient scale).1.natAbs <= coefficient.natAbs := by
  induction scale generalizing coefficient with
  | zero => simp [dropZeros]
  | succ scale ih =>
      rw [dropZeros]
      split
      · exact Nat.le_trans (ih _) (by omega)
      · simp

theorem dropZeros_scale_le (coefficient : Int) (scale : Nat) :
    (dropZeros coefficient scale).2 <= scale := by
  induction scale generalizing coefficient with
  | zero => simp [dropZeros]
  | succ scale ih =>
      rw [dropZeros]
      split
      · exact Nat.le_succ_of_le (ih _)
      · simp

/-- The number without trailing zeros after the point. -/
def normalize (number : Decimal) : Decimal where
  coefficient := (dropZeros number.coefficient number.scale).1
  scale := (dropZeros number.coefficient number.scale).2
  coefficientFits :=
    Nat.lt_of_le_of_lt (dropZeros_natAbs_le _ _) number.coefficientFits
  scaleFits := Nat.le_trans (dropZeros_scale_le _ _) number.scaleFits

/--
The number with more digits after the point: as many of the missing ones as the
coefficient can take.
-/
def extendTo (number : Decimal) : Nat -> Decimal
  | 0 => number
  | scale + 1 =>
      if number.scale < scale + 1 then
        match make? (number.coefficient * tenTo (scale + 1 - number.scale)) (scale + 1) with
        | some longer => longer
        | none => number.extendTo scale
      else number

end Decimal
end Giro
