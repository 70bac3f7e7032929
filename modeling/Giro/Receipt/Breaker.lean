import Giro.Time.Instant

/-!
# Circuit breaker

A breaker counts failures in a row. At the threshold it opens and lets nothing
pass until a cooldown is over; then it lets one call pass as a probe. The
probe's success closes the breaker, its failure opens it again. A probe that
never reports stops blocking after another cooldown.
-/

namespace Giro

/-- How many failures open a breaker, and for how many milliseconds. -/
structure BreakerSettings where
  threshold : Nat
  cooldown : Nat
deriving DecidableEq

namespace BreakerSettings

/-- Five failures, thirty seconds. -/
def standard : BreakerSettings := ⟨5, 30000⟩

end BreakerSettings

/-- What a breaker does with calls. -/
inductive BreakerState
  | closed (failures : Nat)
  | opened (since : Instant)
  | halfOpen (probed : Instant)
deriving DecidableEq

namespace BreakerState

/-- The name of a state. -/
def name : BreakerState -> String
  | closed _ => "Closed"
  | opened _ => "Open"
  | halfOpen _ => "HalfOpen"

end BreakerState

/-- A breaker. -/
structure Breaker where
  settings : BreakerSettings
  state : BreakerState
deriving DecidableEq

namespace Breaker

/-- A closed breaker that one failure at least is needed to open. -/
def make (settings : BreakerSettings) : Breaker :=
  ⟨{ settings with threshold := max settings.threshold 1 }, .closed 0⟩

/-- The longest cooldown that can be added to an instant, in milliseconds. -/
def maxCooldown : Nat := 0x7FFFFFFFFFFFFFFF

/-- The most failures that are counted. -/
def maxFailures : Nat := 0xFFFFFFFF

/-- Whether a cooldown is over; one that is too long to be added counts as over. -/
def cooledDown (since now : Instant) (cooldown : Nat) : Except Overflow Bool :=
  if maxCooldown < cooldown then .ok true
  else
    match since.addMillis cooldown with
    | .ok finished => .ok (decide (finished <= now))
    | .error overflow => .error overflow

/-- Whether a call may pass now, and the breaker after that. -/
def allow (breaker : Breaker) (now : Instant) : Except Overflow (Bool × Breaker) :=
  let probe (since : Instant) : Except Overflow (Bool × Breaker) :=
    match cooledDown since now breaker.settings.cooldown with
    | .error overflow => .error overflow
    | .ok true => .ok (true, { breaker with state := .halfOpen now })
    | .ok false => .ok (false, breaker)
  match breaker.state with
  | .closed _ => .ok (true, breaker)
  | .opened since => probe since
  | .halfOpen probed => probe probed

/-- The breaker after a success. -/
def succeed (breaker : Breaker) : Breaker :=
  { breaker with state := .closed 0 }

/-- The breaker after a failure. -/
def fail (breaker : Breaker) (now : Instant) : Breaker :=
  match breaker.state with
  | .closed failures =>
      let failures := min (failures + 1) maxFailures
      if breaker.settings.threshold <= failures then
        { breaker with state := .opened now }
      else { breaker with state := .closed failures }
  | .halfOpen _ => { breaker with state := .opened now }
  | .opened _ => breaker

end Breaker
end Giro
