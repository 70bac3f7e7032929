import Giro.Binary64.Basic
import Giro.Text.Digits

/-!
# Shortest decimal form of a binary number

Of all decimals that round back to a binary number, the shortest ones have the
fewest digits; of these the one nearest to the number is taken. Two written
forms are built from it: one without exponents, and one that has an exponent
when the number is very small or very large.
-/

namespace Giro
namespace Binary64

/-- A decimal `digits * 10 ^ exponent`. -/
structure Scaled where
  digits : Nat
  exponent : Int
deriving DecidableEq

/--
The decimals with a given exponent that round to a number: one of the two
neighbours of the number on the grid of that exponent, the nearer one if both
round to it.
-/
def onGrid? (number : Binary64) (exponent : Int) : Option Scaled :=
  let quarters := 4 * number.significand
  let above := quarters + 2
  let below :=
    if number.significand = twoTo 52 && minExponent < number.exponent then quarters - 1
    else quarters - 2
  let binary := number.exponent - 2
  let step := tenTo exponent.toNat * twoTo (-binary).toNat
  let unit := twoTo binary.toNat * tenTo (-exponent).toNat
  let closed := number.significand % 2 = 0
  let reads (digits : Nat) : Bool :=
    let value := digits * step
    if closed then below * unit <= value && value <= above * unit
    else below * unit < value && value < above * unit
  let low := quarters * unit / step
  let high := low + 1
  let toLow := quarters * unit - low * step
  let toHigh := high * step - quarters * unit
  match reads low && low != 0, reads high with
  | true, true =>
      if toLow < toHigh || (toLow = toHigh && low % 2 = 0) then some ⟨low, exponent⟩
      else some ⟨high, exponent⟩
  | true, false => some ⟨low, exponent⟩
  | false, true => some ⟨high, exponent⟩
  | false, false => none

/-- The first grid that holds a decimal for the number, from coarse to fine. -/
def searchGrid (number : Binary64) : Nat -> Int -> Scaled
  | 0, _ => ⟨0, 0⟩
  | steps + 1, exponent =>
      match number.onGrid? exponent with
      | some found => found
      | none => searchGrid number steps (exponent - 1)

/-- The shortest decimal that rounds to the number. -/
def shortest (number : Binary64) : Scaled :=
  if number.significand = 0 then ⟨0, 0⟩
  else
    let whole := number.numerator / number.denominator
    searchGrid number 400 ((Text.digitsOf whole).length : Int)

/-- A decimal written without an exponent. -/
def Scaled.positional (number : Scaled) : String :=
  let digits := Text.digitsOf number.digits
  if 0 <= number.exponent then
    String.ofList (digits ++ List.replicate number.exponent.toNat '0')
  else
    let places := (-number.exponent).toNat
    let padded := digits.leftpad (places + 1) '0'
    String.ofList
      (padded.take (padded.length - places) ++
        '.' :: padded.drop (padded.length - places))

/-- A decimal written with one digit before the point and an exponent. -/
def Scaled.scientific (number : Scaled) : String :=
  let digits := Text.digitsOf number.digits
  let exponent := number.exponent + (digits.length - 1 : Nat)
  let fraction := digits.drop 1
  let mark := if exponent < 0 then "e-" else "e+"
  String.ofList (digits.take 1 ++ if fraction.isEmpty then [] else '.' :: fraction) ++
    mark ++ Text.showPadded 2 exponent.natAbs

/-- The written form without an exponent and without a point after whole numbers. -/
def toPlainText (number : Binary64) : String :=
  number.shortest.positional

/--
The written form that always shows a point: positional from `10 ^ -5` up to
`10 ^ 16`, with an exponent outside.
-/
def toNumberText (number : Binary64) : String :=
  let form := number.shortest
  let leading := form.exponent + ((Text.digitsOf form.digits).length - 1 : Nat)
  if form.digits = 0 then "0.0"
  else if leading < -5 || 15 < leading then form.scientific
  else if 0 <= form.exponent then form.positional ++ ".0"
  else form.positional

end Binary64
end Giro
