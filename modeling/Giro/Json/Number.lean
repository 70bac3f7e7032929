import Giro.Binary64.Shortest

/-!
# Numbers in JSON texts

A number without fraction and exponent that fits 64 bits is kept exactly. Any
other one becomes a binary number: the first digits, as many as fit 64 bits, are
rounded to 53 bits and then multiplied or divided by a rounded power of ten. A
number that is too large for that has no value.
-/

namespace Giro
namespace Json

/-- The value of a number in a text. -/
inductive Number
  | natural (value : Nat)
  | negative (size : Nat)
  | real (isNegative : Bool) (size : Binary64)
deriving DecidableEq

namespace Number

/-- A number as it is written. -/
def toText : Number -> String
  | natural value => Text.showNat value
  | negative size => "-" ++ Text.showNat size
  | real isNegative size => (if isNegative then "-" else "") ++ size.toNumberText

/-- A number as an integer, if it is one that fits 64 bits with a sign. -/
def toInt64? : Number -> Option Int
  | natural value => if value < 0x8000000000000000 then some value else none
  | negative size => some (-(size : Int))
  | real _ _ => none

/-- The largest natural number of 64 bits. -/
def maxNatural : Nat := 0xFFFFFFFFFFFFFFFF

/-- The largest power of ten that one multiplication or division applies. -/
def maxPower : Nat := 308

/-- A number divided by a power of ten, in steps of the largest one. -/
def divideByTens : Nat -> Binary64 -> Nat -> Option Binary64
  | 0, _, _ => some .zero
  | steps + 1, number, power =>
      if power <= maxPower then (Binary64.tenTo? power).bind number.div?
      else if number.significand = 0 then some number
      else do
        let smaller <- (Binary64.tenTo? maxPower).bind number.div?
        divideByTens steps smaller (power - maxPower)

/-- The binary number for digits and a power of ten, if it is finite. -/
def scale? (digits : Nat) (exponent : Int) : Option Binary64 := do
  let number <- Binary64.nearest? digits 1
  if exponent < 0 then divideByTens 4 number exponent.natAbs
  else if exponent <= maxPower then
    (Binary64.tenTo? exponent.toNat).bind number.mul?
  else if number.significand = 0 then some number
  else none

/-- The parts of a number as they stand in a text. -/
structure Parts where
  isNegative : Bool
  whole : List Char
  fraction : List Char
  exponent : Option Int

/--
A number continued by digits as long as it fits 64 bits, and how many digits were
taken. The first digit that does not fit ends it.
-/
def takeFitting (value : Nat) : List Char -> Nat × Nat
  | [] => (value, 0)
  | digit :: rest =>
      let next := 10 * value + Text.digitValue digit
      if maxNatural < next then (value, 0)
      else
        let (total, taken) := takeFitting next rest
        (total, taken + 1)

/-- The value of a number with the given parts, if it has one. -/
def Parts.value? (parts : Parts) : Option Number :=
  let (whole, wholeTaken) := takeFitting 0 parts.whole
  let cut : Int := parts.whole.length - wholeTaken
  if parts.fraction.isEmpty && parts.exponent.isNone && cut = 0 then
    if !parts.isNegative then some (.natural whole)
    else if whole = 0 || 0x8000000000000000 < whole then
      (scale? whole 0).map (real true)
    else some (.negative whole)
  else
    let (digits, fractionTaken) := takeFitting whole parts.fraction
    (scale? digits (cut - fractionTaken + parts.exponent.getD 0)).map
      (real parts.isNegative)

end Number
end Json
end Giro
