import Giro.Decimal.Text
import Giro.Text.Blank

/-!
# Amounts of money

Amounts are stored with at most four digits after the point and shown with at
least two. A text with more digits than can be stored is refused rather than
rounded; so are signs, exponents and a point without digits on both sides.
-/

namespace Giro
namespace Money

/-- Digits after the point that are stored. -/
def storedDigits : Nat := 4

/-- Digits after the point that are always shown. -/
def shownDigits : Nat := 2

/-- Digits after the point are counted in 32 bits, that is, modulo this number. -/
def countLimit : Nat := 0x100000000

/-- Why a text or a number is no amount. -/
inductive Fault
  | precision (provided : Nat)
  | signed
  | format (reason : String)
deriving DecidableEq

namespace Fault

/-- What is reported about a faulty amount. -/
def message : Fault -> String
  | precision provided =>
      "Precision overflow: provided " ++ Text.showNat provided ++
        " decimals, max allowed " ++ Text.showNat storedDigits
  | signed => "Amount must not carry a sign"
  | format reason => "Invalid format: " ++ reason

end Fault

/-- The parts of a text before and after its first point. -/
def splitPoint : List Char -> List Char × Option (List Char)
  | [] => ([], none)
  | next :: rest =>
      if next = '.' then ([], some rest)
      else ((next :: (splitPoint rest).1), (splitPoint rest).2)

/-- Whether a text begins with a sign. -/
def beginsWithSign : List Char -> Bool
  | next :: _ => next = '-' || next = '+'
  | [] => false

/-- The amount written by characters without blanks around them. -/
def ofTrimmed (characters : List Char) : Except Fault Decimal :=
  let parts := splitPoint characters
  let fraction := parts.2.getD []
  let provided := fraction.length % countLimit
  if characters.isEmpty then .error (.format "empty string")
  else if beginsWithSign characters then .error .signed
  else if parts.2.isSome && parts.1.isEmpty then
    .error (.format "missing leading zero (e.g., use 0.5 instead of .5)")
  else if parts.2.isSome && fraction.isEmpty then
    .error (.format "missing fractional part (e.g., use 5.0 instead of 5.)")
  else if !(parts.1.all Char.isDigit && fraction.all Char.isDigit) then
    .error (.format ("invalid character in amount: " ++ String.ofList characters))
  else if storedDigits < provided then .error (.precision provided)
  else
    match Decimal.ofChars characters with
    | .ok amount => .ok amount
    | .error fault => .error (.format fault.message)

/-- The amount that a text stands for. -/
def parse (text : String) : Except Fault Decimal :=
  ofTrimmed (Text.trimChars text.toList)

/-- The same amount, if its digits after the point can be stored. -/
def checkScale (amount : Decimal) : Except Fault Decimal :=
  let digits := amount.normalize.scale
  if storedDigits < digits then .error (.precision digits) else .ok amount

/-- The amount as it is shown. -/
def format (amount : Decimal) : String :=
  (amount.normalize.extendTo shownDigits).toText

end Money
end Giro
