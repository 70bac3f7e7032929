/-!
# Rounding

Quotients rounded to a neighbouring integer. Which way a half goes is part of
the rule: to the even neighbour, or away from zero.
-/

namespace Giro

/-- What happens to a quotient that lies halfway between two integers. -/
inductive Tie
  | toEven
  | awayFromZero
deriving DecidableEq

/-- A quotient rounded to the nearest integer. -/
def roundQuotient (tie : Tie) (numerator denominator : Nat) : Nat :=
  let quotient := numerator / denominator
  let remainder := numerator % denominator
  if 2 * remainder < denominator then quotient
  else if denominator < 2 * remainder then quotient + 1
  else match tie with
    | .toEven => if quotient % 2 = 0 then quotient else quotient + 1
    | .awayFromZero => quotient + 1

/-- A quotient with a sign, rounded to the nearest integer. -/
def roundRatio (tie : Tie) (numerator : Int) (denominator : Nat) : Int :=
  let size : Int := roundQuotient tie numerator.natAbs denominator
  if numerator < 0 then -size else size

end Giro
