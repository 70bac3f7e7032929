import Giro.Decimal.Rounding

/-!
# Decimal arithmetic

Sums and differences keep the larger of the two scales, products add them. A
result whose coefficient is too long is rounded, a half to the even neighbour,
to the largest scale that can hold it; one that does not fit without digits
after the point overflows. A zero operand of a sum leaves the other one as it
is, its scale included.
-/

namespace Giro

/-- A computation has no result, or none in the range that its result can have. -/
inductive Overflow
  | addition
  | subtraction
  | multiplication
  | division
  | instant
  | zeroDivisor
deriving DecidableEq

namespace Overflow

/-- What is reported about an overflow. -/
def message : Overflow -> String
  | addition => "Addition overflowed"
  | subtraction => "Subtraction overflowed"
  | multiplication => "Multiplication overflowed"
  | division => "Division overflowed"
  | instant => "\x60DateTime + TimeDelta\x60 overflowed"
  | zeroDivisor => "attempt to divide by zero"

end Overflow

namespace Decimal

/-- The sum, or nothing if it is out of range. -/
def add? (left right : Decimal) : Option Decimal :=
  if left.coefficient = 0 then some right
  else if right.coefficient = 0 then some left
  else
    let scale := max left.scale right.scale
    ofRatio?
      (left.coefficient * tenTo (scale - left.scale) +
        right.coefficient * tenTo (scale - right.scale))
      (tenTo scale) scale

/-- The difference, or nothing if it is out of range. -/
def sub? (left right : Decimal) : Option Decimal :=
  left.add? right.negate

/-- The product, or nothing if it is out of range. -/
def mul? (left right : Decimal) : Option Decimal :=
  if left.coefficient = 0 || right.coefficient = 0 then some zero
  else
    let scale := left.scale + right.scale
    ofRatio? (left.coefficient * right.coefficient) (tenTo scale) scale

/-- The quotient as exactly as a decimal can hold it, or nothing if it is out of range. -/
def div? (left right : Decimal) : Option Decimal :=
  let numerator :=
    if right.coefficient < 0 then -left.coefficient else left.coefficient
  ofRatio? (numerator * tenTo right.scale)
    (right.coefficient.natAbs * tenTo left.scale) maxScale

/-- The sum. -/
def add (left right : Decimal) : Except Overflow Decimal :=
  match left.add? right with
  | some sum => .ok sum
  | none => .error .addition

/-- The difference. -/
def sub (left right : Decimal) : Except Overflow Decimal :=
  match left.sub? right with
  | some difference => .ok difference
  | none => .error .subtraction

/-- The product. -/
def mul (left right : Decimal) : Except Overflow Decimal :=
  match left.mul? right with
  | some product => .ok product
  | none => .error .multiplication

/-- The quotient. -/
def div (left right : Decimal) : Except Overflow Decimal :=
  match left.div? right with
  | some quotient => .ok quotient
  | none => .error .division

/-- The sum of a list, added up from the left. -/
def sum (numbers : List Decimal) : Except Overflow Decimal :=
  numbers.foldlM add zero

/-- The exact sum of a list, in units. -/
def exactSum (numbers : List Decimal) : Int :=
  numbers.foldr (fun number total => number.units + total) 0

/-- A whole number of at most 96 bits. -/
def ofInt? (number : Int) : Option Decimal :=
  make? number 0

end Decimal
end Giro
