import Giro.Power
import Giro.Text.Blank
import Giro.Time.Instant

/-!
# Reading dates and times

An instant is written as a date, one of `T`, `t` and a blank, a time of day and
the distance of its zone from UTC. The reader follows RFC 3339 and allows blanks
between the fields, fields with fewer digits, years with a sign, and the names
`Z`, `z` and `UTC` for a distance of zero. Digits of the second beyond the ninth
after the point are dropped.
-/

namespace Giro

namespace Instant

/-- The number written by up to `most` digits at the front; at least one is needed. -/
def takeNumber (most : Nat) (characters : List Char) : Option (Nat × List Char) :=
  let digits := (characters.take most).takeWhile Char.isDigit
  if digits.isEmpty then none
  else some (Text.valueOfDigits digits, characters.drop digits.length)

/-- A number between two bounds behind any blanks. -/
def takeField (lowest highest : Nat) (characters : List Char) : Option (Nat × List Char) := do
  let (number, rest) <- takeNumber 2 (Text.trimStartChars characters)
  if lowest <= number && number <= highest then some (number, rest) else none

/-- A year: four digits, or any number of digits behind a sign. -/
def takeYear (characters : List Char) : Option (Int × List Char) :=
  match Text.trimStartChars characters with
  | '-' :: rest =>
      (takeNumber rest.length rest).map (fun taken => (-(taken.1 : Int), taken.2))
  | '+' :: rest =>
      (takeNumber rest.length rest).map (fun taken => ((taken.1 : Int), taken.2))
  | rest => (takeNumber 4 rest).map (fun taken => ((taken.1 : Int), taken.2))

/-- The rest behind a character that stands in front, any blanks aside. -/
def takeMark (mark : Char) (characters : List Char) : Option (List Char) :=
  match Text.trimStartChars characters with
  | next :: rest => if next = mark then some rest else none
  | [] => none

/-- A date. -/
def takeDate (characters : List Char) : Option (Date × List Char) := do
  let (year, rest) <- takeYear characters
  let rest <- takeMark '-' rest
  let (month, rest) <- takeField 1 12 rest
  let rest <- takeMark '-' rest
  let (day, rest) <- takeField 1 31 rest
  let date <- Date.ofCivil? year month day
  some (date, rest)

/-- A time of day as seconds and nanoseconds, a second of 60 being a leap second. -/
def takeClock (characters : List Char) : Option ((Nat × Nat) × List Char) := do
  let (hour, rest) <- takeField 0 23 characters
  let rest <- takeMark ':' rest
  let (minute, rest) <- takeField 0 59 rest
  let rest <- takeMark ':' rest
  let (second, rest) <- takeField 0 60 rest
  let (nanos, rest) <-
    match rest with
    | '.' :: fraction =>
        let digits := fraction.takeWhile Char.isDigit
        if digits.isEmpty then none
        else
          let kept := digits.take 9
          some (Text.valueOfDigits kept * tenTo (9 - kept.length),
            fraction.drop digits.length)
    | _ => some (0, rest)
  let base := hour * 3600 + minute * 60
  if second = 60 then some ((base + 59, nanos + nanosPerSecond), rest)
  else some ((base + second, nanos), rest)

/-- The two digits at the front. -/
def takePair : List Char -> Option (Nat × List Char)
  | tens :: ones :: rest =>
      if tens.isDigit && ones.isDigit then
        some (10 * Text.digitValue tens + Text.digitValue ones, rest)
      else none
  | _ => none

/-- The distance of a zone from UTC in seconds. -/
def takeOffset (characters : List Char) : Option (Int × List Char) :=
  let distance (rest : List Char) : Option (Nat × List Char) := do
    let (hours, rest) <- takePair rest
    let (minutes, rest) <-
      takePair (rest.dropWhile (fun next => next = ':' || Text.isBlank next))
    if 59 < minutes || 23 < hours then none
    else some (hours * 3600 + minutes * 60, rest)
  match characters with
  | next :: rest =>
      if next = 'Z' || next = 'z' then some (0, rest)
      else if (characters.take 3).map Char.toUpper = ['U', 'T', 'C'] then
        some (0, characters.drop 3)
      else if next = '+' then
        (distance rest).map (fun taken => ((taken.1 : Int), taken.2))
      else if next = '-' || next = '−' then
        (distance rest).map (fun taken => (-(taken.1 : Int), taken.2))
      else none
  | [] => none

/-- The instant written by characters. -/
def ofChars? (characters : List Char) : Option Instant := do
  let (date, rest) <- takeDate characters
  let rest <-
    match rest with
    | next :: rest =>
        if next = 'T' || next = 't' || next = ' ' then some rest else none
    | [] => none
  let ((second, nanos), rest) <- takeClock rest
  let (offset, rest) <- takeOffset (Text.trimStartChars rest)
  if rest.all Text.isBlank then
    let instant : Instant := ⟨date.day * 86400 + second - offset, nanos⟩
    if instant.inRange then some instant else none
  else none

/-- The instant written by a text. -/
def ofText? (text : String) : Option Instant :=
  ofChars? text.toList

end Instant

/-- The date written by a text. -/
def Date.ofText? (text : String) : Option Date := do
  let (date, rest) <- Instant.takeDate text.toList
  if rest.isEmpty then some date else none

end Giro
