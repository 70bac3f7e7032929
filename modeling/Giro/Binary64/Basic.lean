import Giro.Power
import Giro.Rounding

/-!
# Binary floating point

Non-negative finite numbers of the 64 bit binary format as a significand of 53
bits times a power of two, and their rounding: the ratio of two natural numbers
goes to the nearest of them, a half to the even significand. Ratios above the
largest finite number round to nothing.
-/

namespace Giro

/-- The number `significand * 2 ^ exponent`. -/
structure Binary64 where
  significand : Nat
  exponent : Int
deriving DecidableEq

namespace Binary64

/-- The smallest exponent, that of the numbers next to zero. -/
def minExponent : Int := -1074

/-- The largest exponent of a finite number. -/
def maxExponent : Int := 971

/-- Zero. -/
def zero : Binary64 := ⟨0, minExponent⟩

/-- Numerator of the number as a ratio. -/
def numerator (number : Binary64) : Nat :=
  number.significand * twoTo number.exponent.toNat

/-- Denominator of the number as a ratio. -/
def denominator (number : Binary64) : Nat :=
  twoTo (-number.exponent).toNat

/-- The exponent at which a positive ratio has a significand of 53 bits. -/
def exponentFor (numerator denominator : Nat) : Int :=
  let guess : Int := (Nat.log2 numerator : Int) - Nat.log2 denominator - 53
  let fits :=
    numerator * twoTo (-guess).toNat < twoTo 53 * denominator * twoTo guess.toNat
  max minExponent (if fits then guess else guess + 1)

/-- The number nearest to a ratio, if it is finite. -/
def nearest? (numerator denominator : Nat) : Option Binary64 :=
  if numerator = 0 then some zero
  else
    let exponent := exponentFor numerator denominator
    let significand :=
      roundQuotient .toEven (numerator * twoTo (-exponent).toNat)
        (denominator * twoTo exponent.toNat)
    let rounded : Binary64 :=
      if significand < twoTo 53 then ⟨significand, exponent⟩ else ⟨twoTo 52, exponent + 1⟩
    if maxExponent < rounded.exponent then none else some rounded

/-- The product, rounded. -/
def mul? (left right : Binary64) : Option Binary64 :=
  nearest? (left.numerator * right.numerator) (left.denominator * right.denominator)

/-- The quotient, rounded. -/
def div? (left right : Binary64) : Option Binary64 :=
  nearest? (left.numerator * right.denominator) (left.denominator * right.numerator)

/-- The number nearest to a power of ten. -/
def tenTo? (power : Nat) : Option Binary64 :=
  nearest? (tenTo power) 1

end Binary64
end Giro
