import Giro.Decimal.Arithmetic
import Giro.Time.Date

/-!
# Instants

An instant is a count of seconds from the start of 1970 and of nanoseconds
within the second, both in UTC. A leap second is the last second of its minute
with a billion or more nanoseconds. Instants are ordered by seconds first.
-/

namespace Giro

/-- A point in time in UTC. -/
structure Instant where
  seconds : Int
  nanos : Nat
deriving DecidableEq

namespace Instant

/-- Whether an instant is before another one. -/
def before (left right : Instant) : Bool :=
  left.seconds < right.seconds ||
    (left.seconds = right.seconds && left.nanos < right.nanos)

instance : LT Instant := ⟨fun left right => left.before right = true⟩

instance : LE Instant := ⟨fun left right => right.before left = false⟩

instance (left right : Instant) : Decidable (left < right) :=
  inferInstanceAs (Decidable (left.before right = true))

instance (left right : Instant) : Decidable (left <= right) :=
  inferInstanceAs (Decidable (right.before left = false))

/-- Nanoseconds in a second. -/
def nanosPerSecond : Nat := 1000000000

/-- The day of an instant. -/
def date (instant : Instant) : Date :=
  ⟨instant.seconds / 86400⟩

/-- Midnight at the start of a day. -/
def midnight (date : Date) : Instant :=
  ⟨date.day * 86400, 0⟩

/-- Second of the day. -/
def secondOfDay (instant : Instant) : Nat :=
  (instant.seconds % 86400).toNat

/-- Milliseconds from the start of 1970, rounded down. -/
def millis (instant : Instant) : Int :=
  instant.seconds * 1000 + instant.nanos / 1000000

/-- The first instant of the earliest date. -/
def earliest : Instant := midnight Date.first

/-- The last nanosecond of the latest date. -/
def latest : Instant := ⟨Date.last.day * 86400 + 86399, nanosPerSecond - 1⟩

/-- Whether the date of an instant is one that dates reach. -/
def inRange (instant : Instant) : Bool :=
  Date.first <= instant.date && instant.date <= Date.last

/-- The instant with its nanoseconds brought below a second. -/
def carry (seconds nanos : Int) : Instant :=
  ⟨seconds + nanos / nanosPerSecond, (nanos % nanosPerSecond).toNat⟩

/--
The instant a number of milliseconds later. A sum that stays inside a leap
second keeps it; one that leaves it counts the leap second as the one before.
-/
def plusMillis (instant : Instant) (millis : Int) : Instant :=
  let wholeSeconds := millis.tdiv 1000
  let extraNanos := millis.tmod 1000 * 1000000
  let total : Int := instant.nanos + extraNanos
  if instant.nanos < nanosPerSecond then carry (instant.seconds + wholeSeconds) total
  else if 0 < wholeSeconds || (2 * nanosPerSecond : Int) <= total then
    carry (instant.seconds + wholeSeconds) (total - nanosPerSecond)
  else if wholeSeconds < 0 then
    carry (instant.seconds + 1 + wholeSeconds) (total - nanosPerSecond)
  else ⟨instant.seconds, total.toNat⟩

/-- The instant a number of milliseconds later, if dates reach it. -/
def addMillis (instant : Instant) (millis : Int) : Except Overflow Instant :=
  let later := instant.plusMillis millis
  if later.inRange then .ok later else .error .instant

/-- Hour, minute and second, a leap second shown as the sixtieth. -/
def clockText (instant : Instant) : String :=
  let second := instant.secondOfDay
  let leap := if nanosPerSecond <= instant.nanos then 1 else 0
  Text.showPadded 2 (second / 3600) ++ ":" ++ Text.showPadded 2 (second / 60 % 60) ++
    ":" ++ Text.showPadded 2 (second % 60 + leap)

/-- The fraction of the second in three, six or nine digits, none for whole seconds. -/
def fractionText (instant : Instant) : String :=
  let nanos := instant.nanos % nanosPerSecond
  if nanos = 0 then ""
  else if nanos % 1000000 = 0 then "." ++ Text.showPadded 3 (nanos / 1000000)
  else if nanos % 1000 = 0 then "." ++ Text.showPadded 6 (nanos / 1000)
  else "." ++ Text.showPadded 9 nanos

/-- The instant as date and time with a final `Z`. -/
def toText (instant : Instant) : String :=
  instant.date.toText ++ "T" ++ instant.clockText ++ instant.fractionText ++ "Z"

/-- The instant as date and time with the name of its zone. -/
def toLogText (instant : Instant) : String :=
  instant.date.toText ++ " " ++ instant.clockText ++ instant.fractionText ++ " UTC"

end Instant
end Giro
