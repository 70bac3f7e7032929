import Giro.Text.Blank
import Giro.Text.Digits

/-!
# International bank account numbers

A spelling of an account number may contain blanks and lower-case letters; its
normal form has neither. A normal form is valid if it has 15 to 34 letters and
digits, begins with a country code of two letters and two check digits, and
leaves the remainder 1 modulo 97 when its first four characters are moved to
the end and every letter is read as a number from 10 to 35.
-/

namespace Giro

/-- An account number that passed validation, in its normal form. -/
structure Iban where
  text : String
deriving DecidableEq

namespace Iban

/-- The fewest characters of an account number. -/
def minLength : Nat := 15

/-- The most characters of an account number. -/
def maxLength : Nat := 34

/-- The normal form of a spelling: no blanks, ASCII letters in upper case. -/
def normalize (spelling : String) : String :=
  Text.upper (Text.squeeze spelling)

/-- Why a spelling is no account number. -/
inductive Fault
  | length (actual : Nat)
  | format (normalForm : String)
  | checksum (normalForm : String)
deriving DecidableEq

namespace Fault

/-- What is reported about a faulty account number. -/
def message : Fault -> String
  | length actual =>
      "Invalid length for iban: expected " ++ Text.showNat minLength ++ "-" ++
        Text.showNat maxLength ++ ", got " ++ Text.showNat actual
  | format normalForm =>
      "Invalid format for iban: '" ++ normalForm ++
        "' (expected: country code, check digits, alphanumeric account number)"
  | checksum normalForm => "IBAN checksum mismatch: '" ++ normalForm ++ "'"

end Fault

/-- The number a letter or digit is read as. -/
def charValue (character : Char) : Nat :=
  if character.isDigit then Text.digitValue character
  else character.toNat - 'A'.toNat + 10

/-- The remainder modulo 97 after one more character. -/
def foldRemainder (remainder : Nat) (character : Char) : Nat :=
  if character.isDigit then (remainder * 10 + charValue character) % 97
  else (remainder * 100 + charValue character) % 97

/-- The first four characters moved to the end. -/
def rotate (characters : List Char) : List Char :=
  characters.drop 4 ++ characters.take 4

/-- The remainder modulo 97, computed one character at a time. -/
def checksum (characters : List Char) : Nat :=
  (rotate characters).foldl foldRemainder 0

/-- Whether characters have the shape of an account number. -/
def wellFormed (characters : List Char) : Bool :=
  characters.all (fun character => character.isDigit || character.isAlpha) &&
    (characters.take 2).all Char.isUpper &&
    ((characters.drop 2).take 2).all Char.isDigit

/-- The account number that a spelling stands for. -/
def parse (spelling : String) : Except Fault Iban :=
  let normalForm := normalize spelling
  let size := normalForm.utf8ByteSize
  if size < minLength || maxLength < size then .error (.length size)
  else if !wellFormed normalForm.toList then .error (.format normalForm)
  else if checksum normalForm.toList != 1 then .error (.checksum normalForm)
  else .ok ⟨normalForm⟩

end Iban
end Giro
