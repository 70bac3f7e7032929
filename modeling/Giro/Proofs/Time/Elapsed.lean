import Giro.Proofs.Time.Timeline

/-!
# Waiting for a time to pass

The time between two readings of a clock is the difference of what they show. If one of the
two shows a leap second and the other one a later second, the leap second lies between them
and counts; of others nothing is known. Whether some milliseconds have passed by a reading
is then a matter of comparing it with the sum, with one exception. A leap second is shown as
the last second of its minute going on, and what is due in the first second of the next
minute is after all of it, although as much time may have passed.
-/

namespace Giro
namespace Instant

/-- Whether a leap second is shown. -/
def isLeap (instant : Instant) : Bool :=
  nanosPerSecond <= instant.nanos

/-- A clock can show the instant: no second goes on for more than two. -/
def Readable (instant : Instant) : Prop :=
  instant.nanos < 2 * nanosPerSecond

instance (instant : Instant) : Decidable instant.Readable :=
  inferInstanceAs (Decidable (_ < _))

/-- Nanoseconds from one reading to another, with no leap seconds but those that they show. -/
def elapsed (since now : Instant) : Int :=
  let passed : Int := if since.isLeap && since.seconds < now.seconds then 1 else 0
  let ahead : Int := if now.isLeap && now.seconds < since.seconds then 1 else 0
  (now.seconds - since.seconds + passed - ahead) * nanosPerSecond + now.nanos - since.nanos

/-- A leap second is shown, and a time in the second after it is as far on as that. -/
def HeldUp (due now : Instant) : Prop :=
  due.seconds = now.seconds + 1 ∧ due.nanos + nanosPerSecond <= now.nanos

instance (due now : Instant) : Decidable (HeldUp due now) :=
  inferInstanceAs (Decidable (_ ∧ _))

variable {since now : Instant}

/-- Outside of leap seconds, the time between two readings is the difference. -/
theorem elapsed_of_plain (sincePlain : since.isLeap = false) (nowPlain : now.isLeap = false) :
    since.elapsed now =
      (now.seconds * nanosPerSecond + now.nanos) -
        (since.seconds * nanosPerSecond + since.nanos) := by
  rw [elapsed, sincePlain, nowPlain, Bool.false_and, Bool.false_and, if_neg Bool.false_ne_true]
  ring

theorem not_heldUp_of_plain (nowPlain : now.isLeap = false) (due : Instant) :
    ¬ HeldUp due now := by
  rw [isLeap, decide_eq_false_iff_not] at nowPlain
  exact fun held => nowPlain (Nat.le_of_add_left_le held.2)

/-- A reading is not before a sum exactly if as much time has passed and nothing holds it up. -/
theorem plusMillis_le_iff
    (sinceReadable : since.Readable)
    (nowReadable : now.Readable)
    (millis : Nat) :
    since.plusMillis millis <= now ↔
      (millis * nanosPerMilli : Int) <= since.elapsed now ∧
        ¬ HeldUp (since.plusMillis millis) now := by
  have ways := plusMillis_cases since millis
  have second : nanosPerSecond = 1000000000 := rfl
  have milli : nanosPerMilli = 1000000 := rfl
  generalize since.plusMillis millis = due at ways ⊢
  simp only [Readable, second] at sinceReadable nowReadable
  simp only [second, milli] at ways
  rw [le_iff_not_lt, lt_iff, HeldUp, elapsed]
  simp only [isLeap, second, milli, Bool.and_eq_true, decide_eq_true_eq]
  rcases ways with
    ⟨plain, short, same⟩ | ⟨long, short, before, same⟩ | ⟨long, within, same, nanos⟩
  · split_ifs <;> omega
  · split_ifs <;> omega
  · split_ifs <;> omega

/-- A sum with fewer milliseconds is not later. -/
theorem plusMillis_mono (since : Instant) {fewer more : Nat} (within : fewer <= more) :
    since.plusMillis fewer <= since.plusMillis more := by
  have less := plusMillis_cases since fewer
  have ways := plusMillis_cases since more
  have second : nanosPerSecond = 1000000000 := rfl
  have milli : nanosPerMilli = 1000000 := rfl
  simp only [second, milli] at less ways
  rw [le_iff_not_lt, lt_iff]
  omega

theorem le_trans
    {first second third : Instant}
    (early : first <= second)
    (late : second <= third) :
    first <= third := by
  rw [le_iff_not_lt, lt_iff] at *
  omega

end Instant
end Giro
