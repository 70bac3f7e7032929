import Giro.Text.Digits

/-!
# Universally unique identifiers

An identifier of 128 bits, written as 32 hexadecimal digits in lower case with
hyphens between groups of 8, 4, 4, 4 and 12. It is also read without hyphens,
in braces, and behind `urn:uuid:`, in either case.
-/

namespace Giro

/-- An identifier of 128 bits. -/
structure Uuid where
  number : Nat
deriving DecidableEq

namespace Uuid

/-- Lengths of the groups of digits. -/
def groups : List Nat := [8, 4, 4, 4, 12]

/-- Digits cut into groups with hyphens between them. -/
def hyphenate : List Nat -> List Char -> List Char
  | [], _ => []
  | [size], digits => digits.take size
  | size :: sizes, digits => digits.take size ++ '-' :: hyphenate sizes (digits.drop size)

/-- The digits between hyphens at the right places. -/
def joinGroups? : List Nat -> List Char -> Option (List Char)
  | [], [] => some []
  | [], _ :: _ => none
  | [size], digits => if digits.length = size then some digits else none
  | size :: sizes, digits =>
      match digits.drop size with
      | '-' :: rest =>
          (joinGroups? sizes rest).map (fun joined => digits.take size ++ joined)
      | _ => none

/-- The identifier of 32 hexadecimal digits. -/
def ofDigits? (digits : List Char) : Option Uuid := do
  let values <- digits.mapM Text.hexValue?
  if values.length = 32 then
    some ⟨values.foldl (fun total value => 16 * total + value) 0⟩
  else none

/-- The identifier written with hyphens. -/
def ofHyphenated? (characters : List Char) : Option Uuid :=
  (joinGroups? groups characters).bind ofDigits?

/-- The identifier written by a text in any of its forms. -/
def ofText? (text : String) : Option Uuid :=
  let characters := text.toList
  if characters.length = 32 then ofDigits? characters
  else if characters.length = 38 then
    match characters with
    | '\x7b' :: rest =>
        if rest.getLast? = some '\x7d' then ofHyphenated? rest.dropLast else none
    | _ => none
  else if characters.take 9 = "urn:uuid:".toList then ofHyphenated? (characters.drop 9)
  else ofHyphenated? characters

/-- The identifier as text. -/
def toText (identifier : Uuid) : String :=
  let digits := (Nat.toDigits 16 identifier.number).leftpad 32 '0'
  String.ofList (hyphenate groups digits)

end Uuid
end Giro
