import Giro.Proofs.Receipt.Probes
import Giro.Proofs.Receipt.Trials
import Giro.Proofs.Time.Elapsed

/-!
# Cooldowns of any length

A shut breaker adds its cooldown to the instant since when it is shut, and compares. As long
as dates reach the sum, a call is let pass exactly if the cooldown has passed, a time within
a leap second aside. Past the last date there are two ways to go wrong: a sum that is tried
is an overflow, and a cooldown too long to be added at all counts as over at once.
-/

namespace Giro
namespace Breaker

variable {breaker : Breaker} {since now : Instant}

/-- A cooldown whose end dates reach is compared with the time. -/
theorem allow_of_reached
    (shut : breaker.state.since? = some since)
    (finite : breaker.settings.cooldown <= maxCooldown)
    (reached : (since.plusMillis breaker.settings.cooldown).inRange = true)
    (now : Instant) :
    ∃ after,
      breaker.allow now =
        .ok (decide (since.plusMillis breaker.settings.cooldown <= now), after) := by
  rw [allow_of_shut shut, cooledDown, if_neg (Nat.not_lt.mpr finite), Instant.addMillis]
  rw [if_pos reached]
  exact ⟨_, rfl⟩

/-- A cooldown that can be added but leads past the last date is an overflow. -/
theorem allow_of_unreached
    (shut : breaker.state.since? = some since)
    (finite : breaker.settings.cooldown <= maxCooldown)
    (unreached : (since.plusMillis breaker.settings.cooldown).inRange = false)
    (now : Instant) :
    breaker.allow now = .error .instant := by
  rw [allow_of_shut shut, cooledDown, if_neg (Nat.not_lt.mpr finite), Instant.addMillis]
  rw [if_neg (by rw [unreached]; exact Bool.false_ne_true)]
  rfl

/-- A cooldown that is too long to be added counts as over. -/
theorem allow_of_endless
    (shut : breaker.state.since? = some since)
    (endless : maxCooldown < breaker.settings.cooldown)
    (now : Instant) :
    breaker.allow now = .ok (true, { breaker with state := .halfOpen now }) := by
  rw [allow_of_shut shut, cooledDown, if_pos endless]
  rfl

/-- Between two instants that dates reach, no such cooldown has passed. -/
theorem not_elapsed_of_endless
    {cooldown : Nat}
    (endless : maxCooldown < cooldown)
    (told : since.inRange = true)
    (shown : now.inRange = true)
    (readable : now.Readable) :
    ¬ (cooldown * Instant.nanosPerMilli : Int) <= since.elapsed now := by
  simp only [Instant.inRange, Bool.and_eq_true, decide_eq_true_eq] at told shown
  have early : Date.first.day <= since.seconds / 86400 := told.1
  have late : now.seconds / 86400 <= Date.last.day := shown.2
  have first : Date.first.day = -96465292 := by decide
  have last : Date.last.day = 95026236 := by decide
  have second : Instant.nanosPerSecond = 1000000000 := rfl
  have milli : Instant.nanosPerMilli = 1000000 := rfl
  have most : maxCooldown = 9223372036854775807 := rfl
  rw [Instant.Readable, second] at readable
  rw [Instant.elapsed, second, milli]
  split_ifs <;> omega

/-- A call is answered and let pass if the cooldown has passed, given an end and nothing held up. -/
theorem allow_passed_iff
    (shut : breaker.state.since? = some since)
    (told : since.inRange = true)
    (sinceReadable : since.Readable)
    (shown : now.inRange = true)
    (nowReadable : now.Readable) :
    let cooldown := breaker.settings.cooldown
    let due := since.plusMillis cooldown
    let passed : Bool := decide ((cooldown * Instant.nanosPerMilli : Int) <= since.elapsed now)
    (∃ after, breaker.allow now = .ok (passed, after)) ↔
      due.inRange = true ∧ (passed = true -> ¬ Instant.HeldUp due now) := by
  intro cooldown due passed
  by_cases reached : due.inRange = true
  · have compared : due <= now ↔ passed = true ∧ ¬ Instant.HeldUp due now := by
      rw [decide_eq_true_eq]
      exact Instant.plusMillis_le_iff sinceReadable nowReadable cooldown
    obtain ⟨after, allowed⟩ := allow_of_reached shut (cooldown_le_of_inRange told reached)
      reached now
    rw [allowed]
    simp only [Except.ok.injEq, Prod.mk.injEq, exists_and_left, exists_eq', and_true, reached,
      true_and]
    rw [Bool.eq_iff_iff, decide_eq_true_eq, compared]
    tauto
  · refine iff_of_false (fun ⟨after, answered⟩ => ?_) (fun both => reached both.1)
    rcases Nat.lt_or_ge maxCooldown cooldown with endless | finite
    · have early : passed = false :=
        decide_eq_false (not_elapsed_of_endless endless told shown nowReadable)
      rw [allow_of_endless shut endless, early] at answered
      cases answered
    · rw [allow_of_unreached shut finite (Bool.eq_false_of_not_eq_true reached)] at answered
      cases answered

/--
A breaker is shut since some instant, and a call asks to pass at another one. It is answered
and let pass exactly if the cooldown has passed, provided that dates reach the end of the
cooldown and that no leap second holds it up. If dates do not reach it, asking is an overflow,
or, for the longer cooldowns, the call is let pass although the cooldown has not passed.
Outside of leap seconds what has passed is the difference of the two instants. Among the
cooldowns of which dates reach the end, a longer one never lets a call pass that a shorter
one does not.
-/
theorem cooldown_honoured_iff
    (breaker : Breaker)
    {since now : Instant}
    (shut : breaker.state.since? = some since)
    (told : since.inRange = true)
    (sinceReadable : since.Readable)
    (shown : now.inRange = true)
    (nowReadable : now.Readable) :
    let cooldown := breaker.settings.cooldown
    let due := since.plusMillis cooldown
    let passed : Bool := decide ((cooldown * Instant.nanosPerMilli : Int) <= since.elapsed now)
    ((∃ after, breaker.allow now = .ok (passed, after)) ↔
        due.inRange = true ∧ (passed = true -> ¬ Instant.HeldUp due now)) ∧
      (due.inRange = false ->
        if cooldown <= maxCooldown then breaker.allow now = .error .instant
        else breaker.admits now = true ∧ passed = false) ∧
      (due.inRange = true -> since.isLeap = false -> now.isLeap = false ->
        ∃ after, breaker.allow now =
          .ok (decide ((cooldown * Instant.nanosPerMilli : Int) <=
              (now.seconds * Instant.nanosPerSecond + now.nanos) -
                (since.seconds * Instant.nanosPerSecond + since.nanos)), after)) ∧
      (due.inRange = true ->
        ∀ other : Breaker,
          other.state.since? = some since -> other.settings.cooldown <= cooldown ->
            breaker.admits now = true -> other.admits now = true) := by
  intro cooldown due passed
  have honoured := allow_passed_iff shut told sinceReadable shown nowReadable
  refine ⟨honoured, ?unreached, ?plain, ?ordered⟩
  case unreached =>
    intro unreached
    split_ifs with finite
    · exact allow_of_unreached shut finite unreached now
    · have endless := Nat.lt_of_not_le finite
      exact ⟨admits_of_endless endless now,
        decide_eq_false (not_elapsed_of_endless endless told shown nowReadable)⟩
  case plain =>
    intro reached sincePlain nowPlain
    rw [← Instant.elapsed_of_plain sincePlain nowPlain]
    exact honoured.mpr ⟨reached, fun _ => Instant.not_heldUp_of_plain nowPlain due⟩
  case ordered =>
    intro reached other otherShut within admitted
    have finite := cooldown_le_of_inRange told reached
    obtain ⟨-, ended⟩ := (admits_iff finite shut now).mp admitted
    have sooner := Instant.le_trans (Instant.plusMillis_mono since within) ended
    exact (admits_iff (within.trans finite) otherShut now).mpr
      ⟨Instant.inRange_plusMillis told shown sooner, sooner⟩

end Breaker

namespace Sample

/-- A breaker that has opened at the start of time. -/
def shut (cooldown : Nat) : Breaker :=
  ⟨⟨1, cooldown⟩, .opened ⟨0, 0⟩⟩

end Sample

namespace Breaker

/-- A nanosecond before half a minute is over, a call is refused. -/
theorem cooldown_honoured_iff_sample :
    let breaker := Sample.shut 30000
    let since : Instant := ⟨0, 0⟩
    let now : Instant := ⟨29, 999999999⟩
    (breaker.state.since? = some since ∧ since.inRange = true ∧ since.Readable ∧
      now.inRange = true ∧ now.Readable) ∧
    (since.plusMillis 30000).inRange = true ∧
    ∃ after, breaker.allow now = .ok (false, after) := by
  intro breaker since now
  have reached : (since.plusMillis 30000).inRange = true := by decide
  have early : decide ((30000 * Instant.nanosPerMilli : Int) <= since.elapsed now) = false := by
    decide
  obtain ⟨⟨-, honoured⟩, -⟩ := @cooldown_honoured_iff breaker since now
    rfl (by decide) (by decide) (by decide) (by decide)
  refine ⟨by decide, reached, ?_⟩
  rw [← early]
  exact honoured ⟨reached, fun passed => absurd (early.symm.trans passed) Bool.false_ne_true⟩

/--
The moment a breaker has opened, a call asks to pass. It is refused for half a minute, but let
pass for the longest cooldown that can be set; the longest one that can be added to an instant
is an overflow.
-/
theorem endless_cooldown_admits :
    let now : Instant := ⟨0, 0⟩
    (Sample.shut 30000).admits now = false ∧
      (Sample.shut 0xFFFFFFFFFFFFFFFF).admits now = true ∧
      ¬ (0xFFFFFFFFFFFFFFFF * Instant.nanosPerMilli : Int) <= Instant.elapsed ⟨0, 0⟩ now ∧
      (Sample.shut 0x7FFFFFFFFFFFFFFF).allow now = .error .instant := by
  decide

end Breaker
end Giro
