import Giro.Power

/-!
# Decimal numbers

A decimal is an integer coefficient of 96 bits and a scale of at most 28, the
number of its digits after the point. `1.5` and `1.50` are the same number and
two decimals, so equality of decimals is finer than equality of numbers.

Every decimal is a whole number of `10 ^ -28`, the finest step there is. `units`
counts these steps; comparisons of numbers are comparisons of units.
-/

namespace Giro

/-- The coefficients in use are smaller than this, two to the power of 96. -/
def Decimal.capacity : Nat := 0x1000000000000000000000000

/-- A number with a fixed count of digits after the point. -/
structure Decimal where
  coefficient : Int
  scale : Nat
  coefficientFits : coefficient.natAbs < Decimal.capacity
  scaleFits : scale <= 28
deriving DecidableEq

namespace Decimal

/-- The largest number of digits after the point. -/
def maxScale : Nat := 28

/-- A whole number, without digits after the point. -/
def whole (number : Int) (fits : number.natAbs < capacity) : Decimal :=
  ⟨number, 0, fits, Nat.zero_le 28⟩

/-- Zero, without digits after the point. -/
def zero : Decimal := ⟨0, 0, by decide, by decide⟩

instance : Inhabited Decimal := ⟨zero⟩

/-- The decimal of a coefficient and a scale, if both are within bounds. -/
def make? (coefficient : Int) (scale : Nat) : Option Decimal :=
  if fits : coefficient.natAbs < capacity ∧ scale <= 28 then
    some ⟨coefficient, scale, fits.1, fits.2⟩
  else none

/-- The number as a count of steps of `10 ^ -28`. -/
def units (number : Decimal) : Int :=
  number.coefficient * tenTo (28 - number.scale)

@[simp] theorem units_zero : zero.units = 0 := rfl

/-- The number of units in one. -/
def unitsOfOne : Int := tenTo 28

/-- Whether a number is below another one. -/
instance : LT Decimal := ⟨fun left right => left.units < right.units⟩

/-- Whether a number is not above another one. -/
instance : LE Decimal := ⟨fun left right => left.units <= right.units⟩

theorem lt_def {left right : Decimal} :
    left < right ↔ left.units < right.units := Iff.rfl

theorem le_def {left right : Decimal} :
    left <= right ↔ left.units <= right.units := Iff.rfl

instance (left right : Decimal) : Decidable (left < right) :=
  inferInstanceAs (Decidable (left.units < right.units))

instance (left right : Decimal) : Decidable (left <= right) :=
  inferInstanceAs (Decidable (left.units <= right.units))

/-- Whether two decimals stand for the same number. -/
def sameNumber (left right : Decimal) : Bool :=
  left.units == right.units

/-- The larger of two numbers; the right one when they are equal. -/
def larger (left right : Decimal) : Decimal :=
  if right < left then left else right

/-- The number with the other sign. -/
def negate (number : Decimal) : Decimal where
  coefficient := -number.coefficient
  scale := number.scale
  coefficientFits := by simpa using number.coefficientFits
  scaleFits := number.scaleFits

@[simp] theorem scale_negate (number : Decimal) :
    number.negate.scale = number.scale := rfl

@[simp] theorem units_negate (number : Decimal) :
    number.negate.units = -number.units :=
  Int.neg_mul _ _

end Decimal
end Giro
