import Giro.Decimal.Rounding
import Giro.Text.Digits

/-!
# Decimals as text

The written form of a decimal has all digits of its scale and at least one
digit in front of the point. The reader accepts more than that: a sign, a point
without digits on one side, underscores between digits, and more digits than a
decimal can hold. Digits before the point that do not fit are refused. At the
first digit after the point that does not fit, reading stops: a digit of five
or more raises the last digit kept, and whatever follows is not looked at.
-/

namespace Giro
namespace Decimal

/-- The written form as characters. -/
def toChars (number : Decimal) : List Char :=
  let digits :=
    (Text.digitsOf number.coefficient.natAbs).leftpad (number.scale + 1) '0'
  let whole := digits.take (digits.length - number.scale)
  let fraction := digits.drop (digits.length - number.scale)
  let sign := if number.coefficient < 0 then ['-'] else []
  sign ++ whole ++ (if number.scale = 0 then [] else '.' :: fraction)

/-- The written form. -/
def toText (number : Decimal) : String :=
  String.ofList number.toChars

/-- Why a text is no decimal. -/
inductive TextFault
  | tooManyDigits
  | roundedTooLarge
  | notANumber
deriving DecidableEq

namespace TextFault

/-- What is reported about a text that is no decimal. -/
def message : TextFault -> String
  | tooManyDigits => "Invalid decimal: overflow from too many digits"
  | roundedTooLarge => "Invalid decimal: overflow from mantissa after rounding"
  | notANumber => "Invalid decimal: unknown character"

end TextFault

/-- What has been read of a decimal. -/
structure Reading where
  negative : Bool
  coefficient : Nat
  scale : Nat
  pastPoint : Bool
  digitSeen : Bool

namespace Reading

/-- Nothing read yet. -/
def start : Reading := ⟨false, 0, 0, false, false⟩

/-- The decimal read, at the end of its text. -/
def finish (reading : Reading) : Except TextFault Decimal :=
  let size : Int := reading.coefficient
  if !reading.digitSeen then .error .notANumber
  else
    match make? (if reading.negative then -size else size) reading.scale with
    | some number => .ok number
    | none => .error .tooManyDigits

/-- The reading after one more digit. -/
def push (reading : Reading) (digit : Char) : Reading :=
  { reading with
    coefficient := 10 * reading.coefficient + Text.digitValue digit
    scale := if reading.pastPoint then reading.scale + 1 else 0
    digitSeen := true }

/-- The decimal read, at the first character after the point that does not fit. -/
def cutAt (reading : Reading) (next : Char) : Except TextFault Decimal :=
  if next.isDigit then
    if Text.digitValue next < 5 then reading.finish
    else
      let raised := reading.coefficient + 1
      if raised < capacity then { reading with coefficient := raised }.finish
      else if reading.scale = 0 then .error .roundedTooLarge
      else
        { reading with
          coefficient := (raised + 4) / 10
          scale := reading.scale - 1 }.finish
  else if next = '_' || next = '.' then reading.finish
  else .error .notANumber

/-- Read on after the sign. -/
def read (reading : Reading) : List Char -> Except TextFault Decimal
  | [] => reading.finish
  | next :: rest =>
      if reading.pastPoint && maxScale <= reading.scale then reading.cutAt next
      else if next.isDigit then
        if (reading.push next).coefficient < capacity then (reading.push next).read rest
        else if reading.pastPoint then reading.cutAt next
        else .error .tooManyDigits
      else if next = '.' && !reading.pastPoint then
        { reading with pastPoint := true }.read rest
      else if next = '_' && reading.digitSeen then reading.read rest
      else .error .notANumber

end Reading

/-- The decimal that characters stand for. -/
def ofChars : List Char -> Except TextFault Decimal
  | '-' :: rest => { Reading.start with negative := true }.read rest
  | '+' :: rest => Reading.start.read rest
  | characters => Reading.start.read characters

/-- The decimal that a text stands for. -/
def ofText (text : String) : Except TextFault Decimal :=
  ofChars text.toList

/-- Characters before and after the first exponent mark. -/
def splitExponent? : List Char -> Option (List Char × List Char)
  | [] => none
  | next :: rest =>
      if next = 'e' || next = 'E' then some ([], rest)
      else (splitExponent? rest).map (fun parts => (next :: parts.1, parts.2))

/-- The decimal with its point moved to the left. -/
def pointLeft? (number : Decimal) (places : Nat) : Option Decimal :=
  make? number.coefficient (number.scale + places)

/-- The decimal with its point moved to the right, by at most as many places as it may have. -/
def pointRight? (number : Decimal) (places : Nat) : Option Decimal :=
  if places <= number.scale then make? number.coefficient (number.scale - places)
  else if places <= maxScale then
    make? (number.coefficient * tenTo (places - number.scale)) 0
  else none

/-- The decimal that a text with an exponent stands for. -/
def ofScientific? (text : String) : Option Decimal := do
  let (base, exponent) <- splitExponent? text.toList
  let number <- (ofChars base).toOption
  match exponent with
  | '-' :: '+' :: digits => number.pointLeft? (<- Text.readNat? digits)
  | '-' :: digits => number.pointLeft? (<- Text.readNat? digits)
  | '+' :: digits => number.pointRight? (<- Text.readNat? digits)
  | digits => number.pointRight? (<- Text.readNat? digits)

/-- The decimal that a text stands for, with or without an exponent. -/
def ofAnyText? (text : String) : Option Decimal :=
  match ofText text with
  | .ok number => some number
  | .error _ => ofScientific? text

end Decimal
end Giro
