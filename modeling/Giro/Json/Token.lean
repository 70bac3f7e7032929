import Giro.Json.Number
import Giro.Text.Utf8

/-!
# Tokens of JSON texts

A text is cut into tokens up to its end or to the first place where no token
begins. Where it comes in bytes that are not all UTF-8, some of its places hold no
character; no token but a string can have such a place. Strings with one of them,
strings whose escapes name half of a surrogate pair and numbers without a value
are tokens; they fail only where their content is asked for.
-/

namespace Giro
namespace Json

/-- A part of a JSON text. -/
inductive Token
  | openObject
  | closeObject
  | openList
  | closeList
  | comma
  | colon
  | text (content : Option String)
  | number (value : Option Number)
  | bool (value : Bool)
  | null
  | unreadable
deriving DecidableEq

namespace Token

/-- The number written by four hexadecimal digits. -/
def fourDigits? (a b c d : Char) : Option Nat := do
  let a <- Text.hexValue? a
  let b <- Text.hexValue? b
  let c <- Text.hexValue? c
  let d <- Text.hexValue? d
  some (4096 * a + 256 * b + 16 * c + d)

/-- The character that follows a backslash, for the short escapes. -/
def shortEscape? : Char -> Option Char
  | '"' => some '"'
  | '\\' => some '\\'
  | '/' => some '/'
  | 'b' => some '\x08'
  | 'f' => some '\x0c'
  | 'n' => some '\n'
  | 'r' => some '\r'
  | 't' => some '\t'
  | _ => none

/--
The units of a string up to its closing quote, and what follows the quote. A place
without a character has no unit.
-/
def takeUnits : List (Option Char) -> Option (List (Option Nat) × List (Option Char))
  | [] => none
  | some '"' :: rest => some ([], rest)
  | some '\\' :: some 'u' :: some a :: some b :: some c :: some d :: rest => do
      let unit <- fourDigits? a b c d
      let (units, rest) <- takeUnits rest
      some (some unit :: units, rest)
  | some '\\' :: escaped :: rest => do
      let character <- escaped.bind shortEscape?
      let (units, rest) <- takeUnits rest
      some (some character.toNat :: units, rest)
  | some character :: rest =>
      if character.toNat < 0x20 then none
      else do
        let (units, rest) <- takeUnits rest
        some (some character.toNat :: units, rest)
  | none :: rest => do
      let (units, rest) <- takeUnits rest
      some (none :: units, rest)

/-- Whether a unit is the first half of a surrogate pair. -/
def isHighHalf (unit : Nat) : Bool :=
  0xD800 <= unit && unit <= 0xDBFF

/-- Whether a unit is the second half of a surrogate pair. -/
def isLowHalf (unit : Nat) : Bool :=
  0xDC00 <= unit && unit <= 0xDFFF

/-- The characters of units, surrogate pairs joined; nothing if a half is alone. -/
def joinUnits? : List Nat -> Option (List Char)
  | [] => some []
  | [unit] =>
      if isHighHalf unit || isLowHalf unit then none else some [Char.ofNat unit]
  | unit :: next :: rest =>
      if isHighHalf unit then
        if isLowHalf next then
          (joinUnits? rest).map (fun joined =>
            Char.ofNat (0x10000 + (unit - 0xD800) * 0x400 + (next - 0xDC00)) :: joined)
        else none
      else if isLowHalf unit then none
      else (joinUnits? (next :: rest)).map (fun joined => Char.ofNat unit :: joined)

/-- The text that units make up; nothing if one is missing or half a pair is alone. -/
def joinText? (units : List (Option Nat)) : Option String := do
  let units <- units.mapM (fun unit => unit)
  (joinUnits? units).map String.ofList

/-- Whether a place holds a digit. -/
def isDigit (place : Option Char) : Bool :=
  place.any Char.isDigit

/-- The digits at the front and what follows them. -/
def takeDigits (places : List (Option Char)) : List Char × List (Option Char) :=
  ((places.takeWhile isDigit).filterMap (fun place => place), places.dropWhile isDigit)

/-- The exponent of a number, if one begins here. -/
def takeExponent : List (Option Char) -> Option (Option Int × List (Option Char))
  | some mark :: rest =>
      if mark = 'e' || mark = 'E' then
        let (isNegative, rest) :=
          match rest with
          | some '-' :: rest => (true, rest)
          | some '+' :: rest => (false, rest)
          | rest => (false, rest)
        let (digits, rest) := takeDigits rest
        let size : Int := Text.valueOfDigits digits
        if digits.isEmpty then none
        else some (some (if isNegative then -size else size), rest)
      else some (none, some mark :: rest)
  | places => some (none, places)

/-- The parts of a number behind its sign, and what follows them. -/
def takeParts (isNegative : Bool) (places : List (Option Char)) :
    Option (Number.Parts × List (Option Char)) := do
  let (whole, rest) := takeDigits places
  if whole.isEmpty || (1 < whole.length && whole.head? = some '0') then none
  else
    let (fraction, rest) <-
      match rest with
      | some '.' :: rest =>
          let (digits, rest) := takeDigits rest
          if digits.isEmpty then none else some (digits, rest)
      | rest => some ([], rest)
    let (exponent, rest) <- takeExponent rest
    some (⟨isNegative, whole, fraction, exponent⟩, rest)

/-- A fixed word in front, and the token it stands for. -/
def takeWord (word : String) (token : Token) (places : List (Option Char)) :
    Option (Token × List (Option Char)) :=
  if (word.toList.map some).isPrefixOf places then
    some (token, places.drop word.length)
  else none

/-- Blanks between tokens. -/
def isGap (place : Option Char) : Bool :=
  place = some ' ' || place = some '\n' || place = some '\t' || place = some '\r'

/-- The token in front of a text that begins with none of the gaps. -/
def take (places : List (Option Char)) : Option (Token × List (Option Char)) :=
  match places with
  | [] => none
  | some '\x7b' :: rest => some (openObject, rest)
  | some '\x7d' :: rest => some (closeObject, rest)
  | some '[' :: rest => some (openList, rest)
  | some ']' :: rest => some (closeList, rest)
  | some ',' :: rest => some (comma, rest)
  | some ':' :: rest => some (colon, rest)
  | some '"' :: rest =>
      (takeUnits rest).map (fun taken => (text (joinText? taken.1), taken.2))
  | some '-' :: rest =>
      (takeParts true rest).map (fun taken => (number taken.1.value?, taken.2))
  | some 't' :: _ => takeWord "true" (bool true) places
  | some 'f' :: _ => takeWord "false" (bool false) places
  | some 'n' :: _ => takeWord "null" null places
  | _ => (takeParts false places).map (fun taken => (number taken.1.value?, taken.2))

/-- The first tokens of a text, as many as given. -/
def takeMany : Nat -> List (Option Char) -> List Token
  | 0, _ => []
  | count + 1, places =>
      match places.dropWhile isGap with
      | [] => []
      | next :: rest =>
          match take (next :: rest) with
          | some (token, rest) => token :: takeMany count rest
          | none => [unreadable]

/-- The tokens of a text that is given by its places. -/
def ofPlaces (places : List (Option Char)) : List Token :=
  takeMany places.length places

/-- The tokens of a text. -/
def ofText (source : String) : List Token :=
  ofPlaces (source.toList.map some)

/-- The tokens of a text that comes in bytes. -/
def ofBytes (source : List UInt8) : List Token :=
  ofPlaces (Text.Utf8.places none (source.map UInt8.toNat))

end Token
end Json
end Giro
