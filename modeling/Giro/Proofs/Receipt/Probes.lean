import Giro.Proofs.Receipt.Cooldown
import Giro.Proofs.Time.Timeline

/-!
# One probe per cooldown

A breaker is told of calls that ask to pass, that failed and that succeeded, in any order:
calls may overlap, and some never report. While it is closed, it has counted the failures
since the last success. Otherwise it is shut since it last opened or let a probe pass. So
two probes are a cooldown apart, and a cooldown after either a call is let pass, whatever
became of the probe.
-/

namespace Giro

/-- What a breaker is told: that a call asks to pass, that one failed or that one succeeded. -/
inductive Signal
  | asked (now : Instant)
  | failed (now : Instant)
  | succeeded
deriving DecidableEq

namespace Signal

/-- When the clock was read for a signal. -/
def reading? : Signal -> Option Instant
  | asked now => some now
  | failed now => some now
  | succeeded => none

/-- When the clock was read for some signals. -/
def readings (signals : List Signal) : List Instant :=
  signals.filterMap reading?

/-- Whether a failure is reported. -/
def isFailure : Signal -> Bool
  | failed _ => true
  | _ => false

/-- How many failures were reported since the last success, newest signal first. -/
def strikes (signals : List Signal) : Nat :=
  (signals.takeWhile (fun signal => signal ≠ succeeded)).countP isFailure

theorem readings_sublist (signal : Signal) (signals : List Signal) :
    (readings signals).Sublist (readings (signal :: signals)) :=
  (List.sublist_cons_self ..).filterMap reading?

@[simp] theorem readings_asked (now : Instant) (signals : List Signal) :
    readings (asked now :: signals) = now :: readings signals := rfl

@[simp] theorem readings_append (newer older : List Signal) :
    readings (newer ++ older) = readings newer ++ readings older :=
  List.filterMap_append

@[simp] theorem strikes_asked (now : Instant) (signals : List Signal) :
    strikes (asked now :: signals) = strikes signals := by
  simp [strikes, isFailure]

@[simp] theorem strikes_failed (now : Instant) (signals : List Signal) :
    strikes (failed now :: signals) = strikes signals + 1 := by
  simp [strikes, List.countP_cons, isFailure]

@[simp] theorem strikes_succeeded (signals : List Signal) :
    strikes (succeeded :: signals) = 0 := by
  simp [strikes]

end Signal

/-- Since when a breaker is shut; a closed one lets everyone pass. -/
def BreakerState.since? : BreakerState -> Option Instant
  | closed _ => none
  | opened since => some since
  | halfOpen probed => some probed

namespace Breaker

open Signal

/-- The breaker after a signal. -/
def take (breaker : Breaker) : Signal -> Breaker
  | .asked now => breaker.heed now .allowed
  | .failed now => breaker.fail now
  | .succeeded => breaker.succeed

/-- A new breaker after some signals, newest first. -/
def after (settings : BreakerSettings) : List Signal -> Breaker
  | [] => make settings
  | signal :: earlier => (after settings earlier).take signal

/-- A call is let pass although the breaker is not closed. -/
def probes (breaker : Breaker) (now : Instant) : Bool :=
  !breaker.isClosed && breaker.admits now

/-- When the breaker opens or lets a probe pass with a signal, if it does. -/
def turn? (breaker : Breaker) : Signal -> Option Instant
  | .asked now => if breaker.probes now then some now else none
  | .failed now => if !breaker.isOpen && (breaker.fail now).isOpen then some now else none
  | .succeeded => none

/-- When a new breaker last opened or let a probe pass with some signals, newest first. -/
def lastTurn? (settings : BreakerSettings) : List Signal -> Option Instant
  | [] => none
  | signal :: earlier =>
      ((after settings earlier).turn? signal).or (lastTurn? settings earlier)

/-- What some signals, newest first, tell of the breaker after them. -/
def Tells (settings : BreakerSettings) (signals : List Signal) : BreakerState -> Prop
  | .closed failures => failures = strikes signals ∧ failures < max 1 settings.threshold
  | .opened since => lastTurn? settings signals = some since
  | .halfOpen probed => lastTurn? settings signals = some probed

variable {settings : BreakerSettings} {breaker : Breaker} {since now : Instant}

/-- A shut breaker rules by its cooldown alone. -/
theorem allow_of_shut
    (shut : breaker.state.since? = some since)
    (now : Instant) :
    breaker.allow now =
      (cooledDown since now breaker.settings.cooldown).map fun elapsed =>
        (elapsed, if elapsed then { breaker with state := .halfOpen now } else breaker) := by
  obtain ⟨settings, state⟩ := breaker
  cases state with
  | closed failures => cases shut
  | opened other =>
      cases shut
      simp only [allow]
      rcases cooledDown since now settings.cooldown with _ | _ | _ <;> rfl
  | halfOpen other =>
      cases shut
      simp only [allow]
      rcases cooledDown since now settings.cooldown with _ | _ | _ <;> rfl

/-- A shut breaker lets a call pass once the cooldown is over. -/
theorem admits_iff
    (finite : breaker.settings.cooldown <= maxCooldown)
    (shut : breaker.state.since? = some since)
    (now : Instant) :
    breaker.admits now = true ↔
      (since.plusMillis breaker.settings.cooldown).inRange = true ∧
        since.plusMillis breaker.settings.cooldown <= now := by
  rw [admits, allow_of_shut shut, cooledDown, if_neg (Nat.not_lt.mpr finite), Instant.addMillis]
  by_cases reached : (since.plusMillis breaker.settings.cooldown).inRange = true
  · simp [reached, Except.map]
  · simp [reached, Except.map]

/-- A breaker is closed, or shut since some time. -/
theorem isClosed_eq (breaker : Breaker) : breaker.isClosed = breaker.state.since?.isNone := by
  obtain ⟨settings, state⟩ := breaker
  cases state <;> rfl

/-- A call that asks changes nothing but by being a probe. -/
theorem take_asked (breaker : Breaker) (now : Instant) :
    breaker.take (.asked now) =
      if breaker.probes now then { breaker with state := .halfOpen now } else breaker := by
  rw [take, probes, isClosed_eq]
  cases shut : breaker.state.since? with
  | none =>
      obtain ⟨settings, state⟩ := breaker
      cases state with
      | closed failures => rfl
      | opened since => cases shut
      | halfOpen probed => cases shut
  | some since =>
      rw [heed, admits, allow_of_shut shut]
      rcases cooledDown since now breaker.settings.cooldown with _ | _ | _ <;> rfl

theorem settings_take (breaker : Breaker) (signal : Signal) :
    (breaker.take signal).settings = breaker.settings := by
  cases signal with
  | asked now => exact settings_heed breaker now .allowed
  | failed now => exact settings_heed breaker now .failed
  | succeeded => rfl

theorem settings_after (settings : BreakerSettings) (signals : List Signal) :
    (after settings signals).settings = (make settings).settings := by
  induction signals with
  | nil => rfl
  | cons signal earlier ih => rw [after, settings_take, ih]

/-- A closed breaker counts a failure, or opens with the one that reaches the threshold. -/
theorem state_fail_of_closed
    {failures : Nat}
    (counted : settings.threshold <= maxFailures)
    (configured : breaker.settings = (make settings).settings)
    (closed : breaker.state = .closed failures)
    (few : failures < max 1 settings.threshold)
    (now : Instant) :
    (breaker.fail now).state =
      if failures + 1 = max 1 settings.threshold then .opened now
      else .closed (failures + 1) := by
  have uncapped : 1 <= maxFailures := by decide
  have exact : min (failures + 1) maxFailures = failures + 1 := by omega
  have reached :
      max settings.threshold 1 <= failures + 1 ↔ failures + 1 = max 1 settings.threshold := by
    omega
  simp only [fail, closed, configured, make, exact, reached]
  split <;> rfl

/-- With each signal, what they tell of the breaker stays right. -/
theorem Tells.take
    {earlier : List Signal}
    (counted : settings.threshold <= maxFailures)
    (told : Tells settings earlier (after settings earlier).state)
    (signal : Signal) :
    Tells settings (signal :: earlier) ((after settings earlier).take signal).state := by
  have configured := settings_after settings earlier
  have last :
      lastTurn? settings (signal :: earlier) =
        ((after settings earlier).turn? signal).or (lastTurn? settings earlier) := rfl
  generalize after settings earlier = breaker at *
  cases signal with
  | asked now =>
      rw [take_asked]
      by_cases probe : breaker.probes now = true
      · rw [if_pos probe]
        simp [Tells, last, turn?, probe]
      · rw [if_neg probe]
        rw [turn?, if_neg probe, Option.none_or] at last
        cases state : breaker.state <;> simpa [Tells, state, last] using told
  | succeeded =>
      refine ⟨(strikes_succeeded earlier).symm, ?_⟩
      exact Nat.lt_of_lt_of_le Nat.zero_lt_one (Nat.le_max_left ..)
  | failed now =>
      cases state : breaker.state with
      | opened since =>
          rw [state] at told
          simpa [Tells, Breaker.take, fail, last, turn?, isOpen, state] using told
      | halfOpen probed => simp [Tells, Breaker.take, fail, last, turn?, isOpen, state]
      | closed failures =>
          rw [state] at told
          obtain ⟨rfl, few⟩ := told
          have failing := state_fail_of_closed counted configured state few now
          rw [Breaker.take, failing]
          by_cases reached : strikes earlier + 1 = max 1 settings.threshold
          · simp [Tells, last, turn?, isOpen, state, failing, reached]
          · rw [if_neg reached]
            exact ⟨(strikes_failed now earlier).symm, by omega⟩

/-- A shut breaker is shut since it last opened or let a probe pass. -/
theorem Tells.last_of_shut
    {signals : List Signal}
    (told : Tells settings signals breaker.state)
    (shut : breaker.state.since? = some since) :
    lastTurn? settings signals = some since := by
  cases state : breaker.state with
  | closed failures => simp [state, BreakerState.since?] at shut
  | opened other => simpa [Tells, state, BreakerState.since?, ← shut] using told
  | halfOpen other => simpa [Tells, state, BreakerState.since?, ← shut] using told

theorem tells_after
    (counted : settings.threshold <= maxFailures)
    (signals : List Signal) :
    Tells settings signals (after settings signals).state := by
  induction signals with
  | nil => exact ⟨rfl, Nat.lt_of_lt_of_le Nat.zero_lt_one (Nat.le_max_left ..)⟩
  | cons signal earlier ih => exact ih.take counted signal

/-- A closed breaker stays closed but for the failure that reaches the threshold. -/
theorem Tells.leaves_closed_iff
    {earlier : List Signal}
    (counted : settings.threshold <= maxFailures)
    (configured : breaker.settings = (make settings).settings)
    (told : Tells settings earlier breaker.state)
    (closed : breaker.isClosed = true)
    (signal : Signal) :
    (breaker.take signal).isClosed = false ↔
      signal.isFailure = true ∧ strikes earlier + 1 = max 1 settings.threshold := by
  cases state : breaker.state with
  | opened since => simp [isClosed, state] at closed
  | halfOpen probed => simp [isClosed, state] at closed
  | closed failures =>
      rw [state] at told
      obtain ⟨rfl, few⟩ := told
      cases signal with
      | asked now => simp [Breaker.take, heed, allow, isClosed, isFailure, state]
      | succeeded => simp [Breaker.take, succeed, isClosed, isFailure]
      | failed now =>
          rw [Breaker.take, isClosed, state_fail_of_closed counted configured state few now]
          by_cases reached : strikes earlier + 1 = max 1 settings.threshold
          · simp [reached, isFailure]
          · simp [reached, isFailure]

/-- Without a success, a shut breaker stays shut, since the same time or since the signal. -/
theorem since?_take
    (shut : breaker.state.since? = some since)
    {signal : Signal}
    (other : signal ≠ .succeeded) :
    ∃ later,
      (breaker.take signal).state.since? = some later ∧
        (later = since ∨ signal.reading? = some later) := by
  cases signal with
  | succeeded => exact absurd rfl other
  | asked now =>
      rw [take_asked]
      by_cases probe : breaker.probes now = true
      · exact ⟨now, by rw [if_pos probe, BreakerState.since?], Or.inr rfl⟩
      · exact ⟨since, by rw [if_neg probe, shut], Or.inl rfl⟩
  | failed now =>
      obtain ⟨settings, state⟩ := breaker
      cases state with
      | closed failures => cases shut
      | opened other => exact ⟨since, shut, Or.inl rfl⟩
      | halfOpen other => exact ⟨now, rfl, Or.inr rfl⟩

/-- Without a success, a shut breaker stays shut, since the same time or since a signal. -/
theorem since?_after
    {earlier : List Signal}
    (shut : (after settings earlier).state.since? = some since)
    {signals : List Signal}
    (unsuccessful : .succeeded ∉ signals) :
    ∃ later,
      (after settings (signals ++ earlier)).state.since? = some later ∧
        (later = since ∨ later ∈ readings signals) := by
  induction signals with
  | nil => exact ⟨since, shut, Or.inl rfl⟩
  | cons signal signals ih =>
      rw [List.mem_cons, not_or] at unsuccessful
      obtain ⟨middle, shut, which⟩ := ih unsuccessful.2
      obtain ⟨later, shut, last⟩ := since?_take shut (Ne.symm unsuccessful.1)
      refine ⟨later, shut, ?_⟩
      rcases last with rfl | reading
      · exact which.imp_right (fun member => (readings_sublist signal signals).mem member)
      · exact Or.inr (List.mem_filterMap.mpr ⟨signal, List.mem_cons_self .., reading⟩)

/-- The breaker opens, and probes pass, when the clock is read. -/
theorem mem_readings_of_lastTurn
    {signals : List Signal}
    {turn : Instant}
    (last : lastTurn? settings signals = some turn) :
    turn ∈ readings signals := by
  induction signals with
  | nil => cases last
  | cons signal earlier ih =>
      rw [lastTurn?, Option.or_eq_some_iff] at last
      rcases last with here | ⟨-, there⟩
      · refine List.mem_filterMap.mpr ⟨signal, List.mem_cons_self .., ?_⟩
        cases signal with
        | asked now =>
            rw [turn?, Option.ite_none_right_eq_some] at here
            exact here.2
        | failed now =>
            rw [turn?, Option.ite_none_right_eq_some] at here
            exact here.2
        | succeeded => cases here
      · exact (readings_sublist signal earlier).mem (ih there)

/--
A breaker is told anything in any order, at times that never go back. While it is closed,
it has counted the failures since it was made or last told of a success, less than the
threshold, and it stays closed but for the failure that reaches the threshold. Two probes
with no success in between are a cooldown apart, in time that has passed, leap seconds
included. And whatever became of the calls before, a call is let pass once the cooldown is
over since the breaker last opened or let a probe pass.
-/
theorem one_probe_a_cooldown
    (settings : BreakerSettings)
    (counted : settings.threshold <= maxFailures)
    (finite : settings.cooldown <= maxCooldown)
    (signals : List Signal)
    (told : ∀ reading ∈ readings signals, reading.inRange = true)
    (ordered : (readings signals).Pairwise (fun later earlier => earlier <= later)) :
    (∀ failures, (after settings signals).state = .closed failures ->
      failures = strikes signals ∧ failures < max 1 settings.threshold) ∧
    ((after settings signals).isClosed = true -> ∀ signal,
      ((after settings (signal :: signals)).isClosed = false ↔
        signal.isFailure = true ∧ strikes signals + 1 = max 1 settings.threshold)) ∧
    (∀ second between first earlier,
      .asked second :: (between ++ .asked first :: earlier) <:+ signals ->
        (after settings earlier).probes first = true ->
          (after settings (between ++ .asked first :: earlier)).probes second = true ->
            .succeeded ∉ between ->
              ∀ leaps, (∀ reading ∈ readings signals, reading.Shown leaps) ->
                first.ticks leaps + settings.cooldown * Instant.nanosPerMilli <=
                  second.ticks leaps) ∧
    ∀ now, now.inRange = true ->
      (∀ turn, lastTurn? settings signals = some turn ->
        turn.plusMillis settings.cooldown <= now) ->
      (after settings signals).admits now = true := by
  have tells := tells_after counted signals
  have configured := settings_after settings signals
  have cooldown (signals : List Signal) :
      (after settings signals).settings.cooldown = settings.cooldown := by
    rw [settings_after, make]
  have finite_after (signals : List Signal) :
      (after settings signals).settings.cooldown <= maxCooldown := by
    rw [cooldown]
    exact finite
  refine ⟨?counts, ?leaves, ?apart, ?unblocked⟩
  case counts =>
    intro failures closed
    rw [closed] at tells
    exact tells
  case leaves =>
    exact fun closed signal => tells.leaves_closed_iff counted configured closed signal
  case apart =>
    intro second between first earlier within probe again unsuccessful leaps shown
    have shut : (after settings (.asked first :: earlier)).state.since? = some first := by
      rw [after, take_asked, if_pos probe, BreakerState.since?]
    obtain ⟨since, shut, which⟩ := since?_after shut unsuccessful
    have sublist : (second :: (readings between ++ first :: readings earlier)).Sublist
        (readings signals) := by
      rw [← readings_asked, ← readings_append, ← readings_asked]
      exact within.sublist.filterMap reading?
    have ordered := List.pairwise_append.mp (List.pairwise_cons.mp (ordered.sublist sublist)).2
    have early : first <= since := by
      rcases which with rfl | among
      · exact Instant.le_refl since
      · exact ordered.2.2 since among first (List.mem_cons_self ..)
    have shownFirst : first.Shown leaps := shown first (sublist.mem (by simp))
    have shownSince : since.Shown leaps := by
      rcases which with rfl | among
      · exact shownFirst
      · exact shown since (sublist.mem (by simp [among]))
    rw [probes, Bool.and_eq_true, admits_iff (finite_after _) shut, cooldown] at again
    calc first.ticks leaps + settings.cooldown * Instant.nanosPerMilli
      _ <= since.ticks leaps + settings.cooldown * Instant.nanosPerMilli :=
        Int.add_le_add_right (Instant.ticks_le_ticks shownFirst early) _
      _ <= second.ticks leaps := shownSince.ticks_add_le again.2.2
  case unblocked =>
    intro now shown elapsed
    cases shut : (after settings signals).state.since? with
    | none => exact admits_of_closed (by rw [isClosed_eq, shut, Option.isNone_none]) now
    | some since =>
        have last := tells.last_of_shut shut
        have cooled := elapsed since last
        rw [admits_iff (finite_after _) shut, cooldown]
        refine ⟨?_, cooled⟩
        exact Instant.inRange_plusMillis (told since (mem_readings_of_lastTurn last)) shown cooled

end Breaker

namespace Sample

/--
Two failures open a breaker. The probe half a minute later never reports, and a call soon
after it is refused; the next one is a probe again.
-/
def lostProbe : List Signal :=
  [.asked ⟨60, 0⟩, .asked ⟨45, 0⟩, .asked ⟨30, 0⟩, .failed ⟨0, 0⟩, .failed ⟨0, 0⟩]

end Sample

namespace Breaker

open Signal

/-- The two probes are half a minute apart, and half a minute after them a call may pass. -/
theorem one_probe_a_cooldown_sample :
    let settings : BreakerSettings := ⟨2, 30000⟩
    let signals := Sample.lostProbe
    (settings.threshold <= maxFailures ∧
      settings.cooldown <= maxCooldown ∧
      (∀ reading ∈ readings signals, reading.inRange = true) ∧
      (readings signals).Pairwise (fun later earlier => earlier <= later) ∧
      (⟨45, 0⟩ : Instant) ∈ readings signals) ∧
    ((after settings (signals.drop 3)).probes ⟨30, 0⟩ = true ∧
      (after settings (signals.drop 2)).admits ⟨45, 0⟩ = false ∧
      (after settings (signals.drop 1)).probes ⟨60, 0⟩ = true ∧
      Instant.ticks ∅ ⟨30, 0⟩ + settings.cooldown * Instant.nanosPerMilli <=
        Instant.ticks ∅ ⟨60, 0⟩) ∧
    (after settings signals).admits ⟨90, 0⟩ = true := by
  intro settings signals
  have counted : settings.threshold <= maxFailures := by decide
  have finite : settings.cooldown <= maxCooldown := by decide
  have told : ∀ reading ∈ readings signals, reading.inRange = true := by decide
  have ordered : (readings signals).Pairwise (fun later earlier => earlier <= later) := by decide
  have probe : (after settings (signals.drop 3)).probes ⟨30, 0⟩ = true := by decide
  have again : (after settings (signals.drop 1)).probes ⟨60, 0⟩ = true := by decide
  obtain ⟨-, -, apart, unblocked⟩ :=
    one_probe_a_cooldown settings counted finite signals told ordered
  refine ⟨⟨counted, finite, told, ordered, by decide⟩, ⟨probe, by decide, again, ?_⟩, ?_⟩
  · refine apart ⟨60, 0⟩ [.asked ⟨45, 0⟩] ⟨30, 0⟩ (signals.drop 3) List.suffix_rfl probe again
      (by decide) ∅ ?_
    intro reading member
    exact Or.inl ((by decide : ∀ reading ∈ readings signals,
      reading.nanos < Instant.nanosPerSecond) reading member)
  · exact unblocked ⟨90, 0⟩ (by decide) (by decide)

end Breaker
end Giro
