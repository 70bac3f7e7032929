import Giro.Receipt.Backoff
import Mathlib.Order.MinMax
import Mathlib.Tactic.Tauto

/-!
# The doubling of the delays

The delay after a failed attempt is meant to be the first delay doubled once for every earlier
failure, up to the limit of the policy. The doubling is that of whole numbers, but two bounds
can end it early: the factor is a word of 32 bits and stays at the largest one, and a delay is
a word of 64 bits. Both act like a lower limit, the ceiling of the policy, and the delays
follow the law exactly as long as the law does not lead past it.
-/

namespace Giro

theorem twoTo_le_twoTo {low high : Nat} (ordered : low <= high) : twoTo low <= twoTo high :=
  Nat.pow_le_pow_right (by decide) ordered

namespace RetryPolicy

theorem twoTo_le_maxFactor {earlier : Nat} (few : earlier < 32) : twoTo earlier <= maxFactor :=
  (twoTo_le_twoTo (Nat.le_of_lt_succ few)).trans (by decide)

theorem maxFactor_lt_twoTo {earlier : Nat} (many : 32 <= earlier) : maxFactor < twoTo earlier :=
  Nat.lt_of_lt_of_le (by decide) (twoTo_le_twoTo many)

/-- The factor is the power of two, or the largest factor if that is less. -/
theorem factor_succ (earlier : Nat) : factor (earlier + 1) = min (twoTo earlier) maxFactor := by
  rcases Nat.lt_or_ge earlier 32 with few | many
  · rw [factor, if_neg (by omega), Nat.add_sub_cancel]
    exact (Nat.min_eq_left (twoTo_le_maxFactor few)).symm
  · rw [factor, if_pos (by omega)]
    exact (Nat.min_eq_right (maxFactor_lt_twoTo many).le).symm

variable (policy : RetryPolicy)

/-- The first delay, doubled for every earlier failure, or the limit if that is less. -/
def doubledDelay (earlier : Nat) : Nat :=
  min policy.maxBackoff (policy.initialBackoff * twoTo earlier)

/-- What no delay passes: the limit, the longest duration and the largest multiple. -/
def ceiling : Nat :=
  min policy.maxBackoff (min maxDuration (policy.initialBackoff * maxFactor))

theorem baseDelay_le_maxBackoff (attempt : Nat) :
    policy.baseDelay attempt <= policy.maxBackoff :=
  Nat.min_le_right _ _

/-- The bounds may as well be taken all at once, after the doubling. -/
theorem baseDelay_succ (earlier : Nat) :
    policy.baseDelay (earlier + 1) =
      min (policy.initialBackoff * twoTo earlier) policy.ceiling := by
  rw [baseDelay, factor_succ, ← Nat.mul_min_mul_left, ceiling]
  omega

/-- One more failure doubles the delay, up to the ceiling. -/
theorem baseDelay_succ_succ (earlier : Nat) :
    policy.baseDelay (earlier + 2) =
      min (2 * policy.baseDelay (earlier + 1)) policy.ceiling := by
  have twice : policy.initialBackoff * twoTo (earlier + 1) =
      2 * (policy.initialBackoff * twoTo earlier) := by
    rw [twoTo_succ, ← Nat.mul_assoc, Nat.mul_comm]
  rw [baseDelay_succ, baseDelay_succ, twice]
  omega

/-- The law leads past the largest multiple only after 32 attempts, and below the limit. -/
theorem doubledDelay_le_multiple_iff (earlier : Nat) :
    policy.doubledDelay earlier <= policy.initialBackoff * maxFactor ↔
      earlier < 32 ∨ policy.initialBackoff = 0 ∨
        policy.maxBackoff <= policy.initialBackoff * maxFactor := by
  rw [doubledDelay, min_le_iff]
  rcases Nat.lt_or_ge earlier 32 with few | many
  · have kept := Nat.mul_le_mul_left policy.initialBackoff (twoTo_le_maxFactor few)
    tauto
  · rcases Nat.eq_zero_or_pos policy.initialBackoff with zero | positive
    · simp [zero]
    · have passed := Nat.mul_lt_mul_of_pos_left (maxFactor_lt_twoTo many) positive
      omega

/--
The delay after an attempt is the first delay doubled for every earlier failure, up to the
limit, exactly if that fits a duration of 64 bits and the largest factor is not too small for
it, as it never is for the first 32 attempts. In general the delay is the doubled one up to the
ceiling, every further failure doubles it up to the ceiling, and it never exceeds the limit.
-/
theorem baseDelay_law_iff (earlier : Nat) :
    (policy.baseDelay (earlier + 1) = policy.doubledDelay earlier ↔
      policy.doubledDelay earlier <= maxDuration ∧
        (earlier < 32 ∨ policy.initialBackoff = 0 ∨
          policy.maxBackoff <= policy.initialBackoff * maxFactor)) ∧
    policy.baseDelay (earlier + 1) =
      min (policy.initialBackoff * twoTo earlier) policy.ceiling ∧
    policy.baseDelay (earlier + 2) =
      min (2 * policy.baseDelay (earlier + 1)) policy.ceiling ∧
    policy.baseDelay (earlier + 1) <= policy.maxBackoff := by
  refine ⟨?_, policy.baseDelay_succ earlier, policy.baseDelay_succ_succ earlier,
    policy.baseDelay_le_maxBackoff _⟩
  rw [← doubledDelay_le_multiple_iff, baseDelay_succ, doubledDelay, ceiling]
  omega

/-- A delay of one millisecond stays at the largest factor, below a limit it should reach. -/
theorem thirtyThird_delay_falls_short :
    RetryPolicy.baseDelay ⟨40, 1, 4294967296⟩ 33 = 4294967295 ∧
      RetryPolicy.doubledDelay ⟨40, 1, 4294967296⟩ 32 = 4294967296 := by
  decide

end RetryPolicy
end Giro
