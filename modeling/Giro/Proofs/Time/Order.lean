import Giro.Time.Instant

/-!
# The order of dates and instants

Dates are compared like their days. Instants are compared like their seconds, and
within a second like their nanoseconds. So of two different ones one is before the
other.
-/

namespace Giro

namespace Date

theorem lt_iff (left right : Date) : left < right ↔ left.day < right.day := Iff.rfl

theorem lt_trans {first second third : Date} (early : first < second) (late : second < third) :
    first < third := by
  rw [lt_iff] at *
  omega

theorem lt_irrefl (date : Date) : ¬ date < date :=
  Int.lt_irrefl date.day

theorem ne_of_lt {left right : Date} (before : left < right) : left ≠ right :=
  fun same => lt_irrefl right (same ▸ before)

/-- Of two different dates, one is before the other. -/
theorem lt_of_not_lt
    {left right : Date}
    (notBefore : ¬ left < right)
    (different : left ≠ right) :
    right < left := by
  rw [lt_iff] at *
  have unequal : left.day ≠ right.day := fun same =>
    different (by cases left; cases right; simp_all)
  omega

end Date

namespace Instant

/-- Instants are compared like their seconds and nanoseconds. -/
theorem lt_iff (left right : Instant) :
    left < right ↔
      left.seconds < right.seconds ∨
        left.seconds = right.seconds ∧ left.nanos < right.nanos := by
  change left.before right = true ↔ _
  simp [before]

theorem le_iff_not_lt (left right : Instant) : left <= right ↔ ¬ right < left := by
  change right.before left = false ↔ ¬ right.before left = true
  simp

/-- What is no later than something early is early. -/
theorem lt_of_le_of_lt
    {first second third : Instant}
    (notLater : first <= second)
    (early : second < third) :
    first < third := by
  rw [le_iff_not_lt] at notLater
  rw [lt_iff] at *
  omega

theorem lt_trans
    {first second third : Instant}
    (early : first < second)
    (late : second < third) :
    first < third := by
  rw [lt_iff] at *
  omega

theorem lt_asymm {left right : Instant} (before : left < right) : ¬ right < left := by
  rw [lt_iff] at *
  omega

/-- Instants of which none is before the other are the same. -/
theorem eq_of_not_lt
    {left right : Instant}
    (notBefore : ¬ left < right)
    (notAfter : ¬ right < left) :
    left = right := by
  rw [lt_iff] at notBefore notAfter
  have sameSecond : left.seconds = right.seconds := by omega
  have sameNano : left.nanos = right.nanos := by omega
  cases left
  cases right
  simp_all

/-- A later instant is that many seconds later at least. -/
theorem seconds_le_plusMillis (instant : Instant) (millis : Nat) :
    instant.seconds + millis / 1000 <= (instant.plusMillis millis).seconds := by
  have whole : (millis : Int).tdiv 1000 = millis / 1000 :=
    Int.tdiv_eq_ediv_of_nonneg (Int.natCast_nonneg _)
  have rest : (millis : Int).tmod 1000 = millis % 1000 :=
    Int.tmod_eq_emod_of_nonneg (Int.natCast_nonneg _)
  have second : (nanosPerSecond : Int) = 1000000000 := rfl
  rw [plusMillis, whole, rest]
  by_cases plain : instant.nanos < nanosPerSecond
  · rw [if_pos plain, carry, second]
    dsimp only
    omega
  · rw [if_neg plain]
    by_cases leaves : (0 < (millis / 1000 : Int) ||
        (2 * nanosPerSecond : Int) <= instant.nanos + millis % 1000 * 1000000) = true
    · rw [if_pos leaves, carry, second]
      dsimp only
      omega
    · rw [if_neg leaves, if_neg (by omega)]
      simp only [Bool.or_eq_true, decide_eq_true_eq, not_or] at leaves
      dsimp only
      omega

end Instant
end Giro
