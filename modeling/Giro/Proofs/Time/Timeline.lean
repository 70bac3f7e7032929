import Giro.Proofs.Time.Order
import Mathlib.Data.Finset.Card
import Mathlib.Tactic

/-!
# Time that has passed

Clocks show a leap second as the last second of a minute going on for longer. How much time
has passed between two readings depends on which leap seconds there were, and these are
given as the set of seconds that went on. On a timeline with all of them, what is shown
later is later, and what is shown no earlier than a reading plus some milliseconds is at
least as many milliseconds later.
-/

namespace Giro

theorem Date.le_iff (left right : Date) : left <= right ↔ left.day <= right.day := Iff.rfl

namespace Instant

/-- The nanoseconds in a millisecond. -/
def nanosPerMilli : Nat := 1000000

/-- A clock can show the instant, given the seconds that a leap second prolonged. -/
def Shown (leaps : Finset Int) (instant : Instant) : Prop :=
  instant.nanos < nanosPerSecond ∨
    instant.nanos < 2 * nanosPerSecond ∧ instant.seconds ∈ leaps

/-- How many leap seconds were over before a second began. -/
def leapsBefore (leaps : Finset Int) (second : Int) : Nat :=
  (leaps.filter (fun leap => leap < second)).card

/-- Nanoseconds from the start of 1970, those of leap seconds included. -/
def ticks (leaps : Finset Int) (instant : Instant) : Int :=
  (instant.seconds + leapsBefore leaps instant.seconds) * nanosPerSecond + instant.nanos

variable {leaps : Finset Int}

theorem leapsBefore_subset {earlier later : Int} (within : earlier <= later) :
    leaps.filter (fun leap => leap < earlier) ⊆ leaps.filter (fun leap => leap < later) := by
  intro leap member
  rw [Finset.mem_filter] at member ⊢
  exact ⟨member.1, Int.lt_of_lt_of_le member.2 within⟩

theorem leapsBefore_mono {earlier later : Int} (within : earlier <= later) :
    leapsBefore leaps earlier <= leapsBefore leaps later :=
  Finset.card_le_card (leapsBefore_subset within)

/-- A leap second is over once the second is over that it prolonged. -/
theorem leapsBefore_lt
    {earlier later : Int}
    (prolonged : earlier ∈ leaps)
    (before : earlier < later) :
    leapsBefore leaps earlier < leapsBefore leaps later := by
  apply Finset.card_lt_card
  apply (Finset.ssubset_iff_of_subset (leapsBefore_subset (Int.le_of_lt before))).mpr
  refine ⟨earlier, Finset.mem_filter.mpr ⟨prolonged, before⟩, fun member => ?_⟩
  exact Int.lt_irrefl _ (Finset.mem_filter.mp member).2

/-- What a clock shows later is later. -/
theorem ticks_le_ticks
    {earlier later : Instant}
    (shown : earlier.Shown leaps)
    (within : earlier <= later) :
    earlier.ticks leaps <= later.ticks leaps := by
  have second : nanosPerSecond = 1000000000 := rfl
  rw [le_iff_not_lt, lt_iff] at within
  rw [Shown, second] at shown
  rw [ticks, ticks, second]
  rcases Int.lt_trichotomy earlier.seconds later.seconds with before | same | after
  · rcases shown with plain | ⟨long, prolonged⟩
    · have counted : leapsBefore leaps earlier.seconds <= leapsBefore leaps later.seconds :=
        leapsBefore_mono (Int.le_of_lt before)
      omega
    · have counted := leapsBefore_lt prolonged before
      omega
  · rw [same]
    omega
  · omega

/-- Where a number of milliseconds leads: past no leap second, past one, or not out of one. -/
theorem plusMillis_cases (instant : Instant) (millis : Nat) :
    let later := instant.plusMillis millis
    let total := instant.nanos + millis * nanosPerMilli
    (instant.nanos < nanosPerSecond ∧ later.nanos < nanosPerSecond ∧
      later.seconds * nanosPerSecond + later.nanos =
        instant.seconds * nanosPerSecond + total) ∨
    (nanosPerSecond <= instant.nanos ∧ later.nanos < nanosPerSecond ∧
      instant.seconds < later.seconds ∧
      later.seconds * nanosPerSecond + later.nanos + nanosPerSecond =
        instant.seconds * nanosPerSecond + total) ∨
    (nanosPerSecond <= instant.nanos ∧ total < 2 * nanosPerSecond ∧
      later.seconds = instant.seconds ∧ later.nanos = total) := by
  have whole : (millis : Int).tdiv 1000 = millis / 1000 :=
    Int.tdiv_eq_ediv_of_nonneg (Int.natCast_nonneg _)
  have rest : (millis : Int).tmod 1000 = millis % 1000 :=
    Int.tmod_eq_emod_of_nonneg (Int.natCast_nonneg _)
  have second : nanosPerSecond = 1000000000 := rfl
  have milli : nanosPerMilli = 1000000 := rfl
  intro later total
  simp only [later, total]
  rw [plusMillis, whole, rest, second, milli]
  by_cases plain : instant.nanos < 1000000000
  · rw [if_pos plain, carry, second]
    dsimp only
    omega
  rw [if_neg plain]
  by_cases leaves : (0 < (millis / 1000 : Int) ||
      (2 * (1000000000 : Nat) : Int) <= instant.nanos + millis % 1000 * 1000000) = true
  · rw [if_pos leaves, carry, second]
    dsimp only
    simp only [Bool.or_eq_true, decide_eq_true_eq] at leaves
    omega
  · rw [if_neg leaves, if_neg (by omega)]
    simp only [Bool.or_eq_true, decide_eq_true_eq, not_or] at leaves
    dsimp only
    omega

/-- Adding milliseconds leads to what a clock can show, at least as many milliseconds later. -/
theorem Shown.plusMillis
    {since : Instant}
    (shown : since.Shown leaps)
    (millis : Nat) :
    (since.plusMillis millis).Shown leaps ∧
      since.ticks leaps + millis * nanosPerMilli <= (since.plusMillis millis).ticks leaps := by
  have ways := plusMillis_cases since millis
  have second : nanosPerSecond = 1000000000 := rfl
  have milli : nanosPerMilli = 1000000 := rfl
  simp only [Shown, ticks, second, milli] at shown ways ⊢
  have prolonged (long : 1000000000 <= since.nanos) : since.seconds ∈ leaps := by
    rcases shown with plain | ⟨-, prolonged⟩
    · omega
    · exact prolonged
  rcases ways with
    ⟨plain, short, same⟩ | ⟨long, short, before, same⟩ | ⟨long, within, same, nanos⟩
  · have forward : since.seconds <= (since.plusMillis millis).seconds := by omega
    have counted : leapsBefore leaps since.seconds <=
        leapsBefore leaps (since.plusMillis millis).seconds :=
      leapsBefore_mono forward
    exact ⟨Or.inl short, by omega⟩
  · have counted := leapsBefore_lt (prolonged long) before
    exact ⟨Or.inl short, by omega⟩
  · rw [same, nanos]
    exact ⟨Or.inr ⟨nanos ▸ within, same ▸ prolonged long⟩, by omega⟩

/-- What is shown no earlier than a reading plus some milliseconds is as much later. -/
theorem Shown.ticks_add_le
    {since now : Instant}
    (shown : since.Shown leaps)
    {millis : Nat}
    (elapsed : since.plusMillis millis <= now) :
    since.ticks leaps + millis * nanosPerMilli <= now.ticks leaps := by
  obtain ⟨there, apart⟩ := shown.plusMillis millis
  exact apart.trans (ticks_le_ticks there elapsed)

theorem le_refl (instant : Instant) : instant <= instant := by
  rw [le_iff_not_lt, lt_iff]
  omega

/-- Dates reach a time that is between two that they reach. -/
theorem inRange_plusMillis
    {since now : Instant}
    (told : since.inRange = true)
    (shown : now.inRange = true)
    {millis : Nat}
    (elapsed : since.plusMillis millis <= now) :
    (since.plusMillis millis).inRange = true := by
  have later := seconds_le_plusMillis since millis
  rw [le_iff_not_lt, lt_iff] at elapsed
  simp only [inRange, Bool.and_eq_true, decide_eq_true_eq, Date.le_iff, date] at told shown ⊢
  omega

end Instant
end Giro
