/-!
# Runs of decimal digits

Reading and writing natural numbers in base ten. Reading accepts ASCII digits
only and at least one of them.
-/

namespace Giro
namespace Text

/-- The number a digit stands for. -/
def digitValue (character : Char) : Nat :=
  character.toNat - '0'.toNat

/-- The number written by a run of digits. -/
def valueOfDigits (digits : List Char) : Nat :=
  digits.foldl (fun total digit => 10 * total + digitValue digit) 0

/-- The digits of a number, most significant first, without leading zeros. -/
def digitsOf (number : Nat) : List Char :=
  Nat.toDigits 10 number

/-- A number in base ten. -/
def showNat (number : Nat) : String :=
  String.ofList (digitsOf number)

/-- An integer in base ten, a minus sign in front of the negative ones. -/
def showInt (number : Int) : String :=
  if number < 0 then "-" ++ showNat number.natAbs else showNat number.natAbs

/-- A number in base ten, filled up with zeros in front to a given width. -/
def showPadded (width number : Nat) : String :=
  String.ofList ((digitsOf number).leftpad width '0')

/-- The number written by a text of one or more digits. -/
def readNat? (digits : List Char) : Option Nat :=
  if digits.isEmpty || !digits.all Char.isDigit then none
  else some (valueOfDigits digits)

/-- An integer between two bounds, written as digits after an optional sign. -/
def readInt? (lowest highest : Int) (characters : List Char) : Option Int :=
  let inside (number : Int) : Option Int :=
    if lowest <= number && number <= highest then some number else none
  match characters with
  | '-' :: digits => (readNat? digits).bind (fun number => inside (-(number : Int)))
  | '+' :: digits => (readNat? digits).bind (fun number => inside number)
  | digits => (readNat? digits).bind (fun number => inside number)

/-- A signed integer of 64 bits. -/
def readInt64? (text : String) : Option Int :=
  readInt? (-0x8000000000000000) 0x7FFFFFFFFFFFFFFF text.toList

/-- Hexadecimal digits of a number in upper case, filled up with zeros. -/
def showHexUpper (width number : Nat) : String :=
  String.ofList (((Nat.toDigits 16 number).map Char.toUpper).leftpad width '0')

/-- The number a hexadecimal digit of either case stands for. -/
def hexValue? (character : Char) : Option Nat :=
  if character.isDigit then some (digitValue character)
  else if 'a' <= character && character <= 'f' then
    some (character.toNat - 'a'.toNat + 10)
  else if 'A' <= character && character <= 'F' then
    some (character.toNat - 'A'.toNat + 10)
  else none

end Text
end Giro
