import Giro.Power

/-!
# Backoff

The time to wait before an attempt is repeated doubles after each failure, up to
a limit. Durations are milliseconds of 64 bits, the factor is a number of 32
bits, and both stay at their largest value instead of leaving it.
-/

namespace Giro

/-- How often an attempt is made and how long to wait in between. -/
structure RetryPolicy where
  maxAttempts : Nat
  initialBackoff : Nat
  maxBackoff : Nat
deriving DecidableEq

namespace RetryPolicy

/-- Three attempts, 200 milliseconds at first, two seconds at most. -/
def standard : RetryPolicy := ⟨3, 200, 2000⟩

/-- The largest factor. -/
def maxFactor : Nat := 0xFFFFFFFF

/-- The longest duration. -/
def maxDuration : Nat := 0xFFFFFFFFFFFFFFFF

/-- The factor after a number of failed attempts. -/
def factor (attempt : Nat) : Nat :=
  if 32 < attempt then maxFactor else twoTo (attempt - 1)

/-- The time to wait after a failed attempt, the first one being attempt one. -/
def baseDelay (policy : RetryPolicy) (attempt : Nat) : Nat :=
  min (min (policy.initialBackoff * factor attempt) maxDuration) policy.maxBackoff

/-- The delay with up to a quarter of it added, as a draw decides. -/
def jittered (delay draw : Nat) : Nat :=
  min (delay + draw % (delay / 4 + 1)) maxDuration

end RetryPolicy
end Giro
