import Giro.Proofs.Decimal.Range
import Giro.Proofs.Traffic.Basic
import Giro.Proofs.Transfer.Rules

/-!
# What the limit rule decides

The limit rule compares the limit with a sum that may have been rounded, and that overflows
if it is too large. Rounding keeps its place with respect to any decimal, the limit being
one: a sum above the limit is rounded to the limit at least, and one that is not above it is
never rounded to more. So there are two ways only in which the rule fails to decide by the
exact sum: it overflows, or it lets pass what goes beyond the limit by less than the last
digit of the sum can tell.
-/

namespace Giro

open Decimal (Holds TooLarge)

namespace Decimal

section Bounds

variable {left right sum bound : Decimal}

/-- A sum that is no larger than a number is not rounded to more than it. -/
theorem add?_le
    (leftNonnegative : 0 <= left.units)
    (rightNonnegative : 0 <= right.units)
    (added : left.add? right = some sum)
    (within : left.units + right.units <= bound.units) :
    sum.units <= bound.units := by
  obtain ⟨rounded, made, units⟩ := exists_of_map_units (map_units_add? left right) added
  obtain ⟨larger, largerMade, same⟩ := Option.map_eq_some_iff.mp (map_units_ofUnits?_units bound)
  obtain ⟨smaller, smallerMade, below⟩ := ofUnits?_mono
    (Int.add_nonneg leftNonnegative rightNonnegative) within largerMade
  rw [made, Option.some_inj] at smallerMade
  rw [← units, smallerMade, ← same]
  exact below

/-- A sum that is no smaller than a number is not rounded to less than it. -/
theorem le_add?
    (boundNonnegative : 0 <= bound.units)
    (added : left.add? right = some sum)
    (within : bound.units <= left.units + right.units) :
    bound.units <= sum.units := by
  obtain ⟨rounded, made, units⟩ := exists_of_map_units (map_units_add? left right) added
  obtain ⟨smaller, smallerMade, below⟩ := ofUnits?_mono boundNonnegative within made
  have same := map_units_ofUnits?_units bound
  rw [smallerMade, Option.map_some, Option.some_inj] at same
  rw [← units, ← same]
  exact below

/-- Between two numbers of which none is below zero, there is no difference too large. -/
theorem exists_sub_of_nonnegative
    (leftNonnegative : 0 <= left.units)
    (rightNonnegative : 0 <= right.units) :
    ∃ difference, left.sub right = .ok difference := by
  have leftSmall : ¬ TooLarge left.units := Holds.not_tooLarge ⟨left, rfl⟩
  have rightSmall : ¬ TooLarge right.units := Holds.not_tooLarge ⟨right, rfl⟩
  have small : ¬ TooLarge (left.units + right.negate.units) := by
    rw [units_negate]
    unfold TooLarge at *
    omega
  rw [sub, sub?]
  cases taken : left.add? right.negate with
  | none => exact absurd ((add?_eq_none_iff _ _).mp taken) small
  | some difference => exact ⟨difference, rfl⟩

end Bounds

end Decimal

namespace TransferCandidate

/-- What has been sent today and the amount together, in units. -/
def exactTotal (candidate : TransferCandidate) : Int :=
  candidate.usedToday.units + candidate.amount.units

/-- The limit in units. -/
def ceiling (candidate : TransferCandidate) : Int :=
  candidate.sender.dailyLimit.units

/-- The rules refuse a transfer because of the limit. -/
def OverLimit (candidate : TransferCandidate) : Prop :=
  ∃ remaining, candidate.validate = .error (.refused (.limitExceeded remaining))

/-- The total goes beyond the limit, but comes to just the limit when it is rounded. -/
def Blurred (candidate : TransferCandidate) : Prop :=
  candidate.ceiling < candidate.exactTotal ∧
    ∃ total, candidate.usedToday.add? candidate.amount = some total ∧
      total.units = candidate.ceiling

/-- The rules come to a result, and the limit rule decides by the exact total. -/
structure Decided (candidate : TransferCandidate) : Prop where
  answered : ∀ overflow, candidate.validate ≠ .error (.overflowed overflow)
  exact : candidate.Acceptable -> (candidate.OverLimit ↔ candidate.ceiling < candidate.exactTotal)

variable {candidate : TransferCandidate}

theorem validate_of_acceptable (acceptable : candidate.Acceptable) :
    candidate.validate = candidate.checkLimit := by
  rw [validate, checkRules_of_acceptable acceptable]

/-- A transfer that the rules before the limit rule do not let pass is refused. -/
theorem validate_of_not_acceptable (unacceptable : ¬ candidate.Acceptable) :
    ∃ refusal, candidate.validate = .error (.refused refusal) := by
  rw [validate]
  cases checked : candidate.checkRules with
  | error refusal => exact ⟨refusal, rfl⟩
  | ok _ => exact absurd (acceptable_of_checkRules checked) unacceptable

theorem checkLimit_of_tooLarge (large : TooLarge candidate.exactTotal) :
    candidate.checkLimit = .error (.overflowed .addition) := by
  rw [checkLimit, Decimal.add, (Decimal.add?_eq_none_iff _ _).mpr large]

/-- A total within range is compared with the limit as it was rounded. -/
theorem overLimit_iff_of_added
    (acceptable : candidate.Acceptable)
    (usedNonnegative : 0 <= candidate.usedToday.units)
    (limitNonnegative : 0 <= candidate.ceiling)
    {total : Decimal}
    (added : candidate.usedToday.add? candidate.amount = some total) :
    (candidate.OverLimit ↔ candidate.ceiling < total.units) ∧
      (candidate.validate = .ok () ↔ total.units <= candidate.ceiling) := by
  obtain ⟨left, taken⟩ := Decimal.exists_sub_of_nonnegative limitNonnegative usedNonnegative
  rw [OverLimit, validate_of_acceptable acceptable, checkLimit, Decimal.add, added]
  dsimp only
  rw [taken]
  by_cases beyond : candidate.sender.dailyLimit < total
  · rw [if_pos beyond]
    exact ⟨iff_of_true ⟨_, rfl⟩ beyond,
      iff_of_false (fun passed => by cases passed) (Int.not_le.mpr beyond)⟩
  · rw [if_neg beyond]
    refine ⟨iff_of_false ?_ beyond, iff_of_true rfl (Int.not_lt.mp beyond)⟩
    rintro ⟨remaining, refused⟩
    cases refused

theorem exists_add?_of_small (small : ¬ TooLarge candidate.exactTotal) :
    ∃ total, candidate.usedToday.add? candidate.amount = some total := by
  cases added : candidate.usedToday.add? candidate.amount with
  | none => exact absurd ((Decimal.add?_eq_none_iff _ _).mp added) small
  | some total => exact ⟨total, rfl⟩

/-- A total that some decimal can hold is not rounded. -/
theorem not_blurred_of_holds (holds : Holds candidate.exactTotal) : ¬ candidate.Blurred := by
  rintro ⟨beyond, total, added, same⟩
  have exact := (Decimal.add?_exact_iff added).mpr holds
  exact absurd (same.symm.trans exact) (Int.ne_of_lt beyond)

/-- A total that is not blurred stays on its side of the limit when it is rounded. -/
theorem ceiling_lt_iff_of_sharp
    (acceptable : candidate.Acceptable)
    (usedNonnegative : 0 <= candidate.usedToday.units)
    (limitNonnegative : 0 <= candidate.ceiling)
    {total : Decimal}
    (added : candidate.usedToday.add? candidate.amount = some total)
    (sharp : ¬ candidate.Blurred) :
    candidate.ceiling < total.units ↔ candidate.ceiling < candidate.exactTotal := by
  constructor
  · intro above
    by_contra within
    exact absurd above (Int.not_lt.mpr (Decimal.add?_le usedNonnegative
      (Int.le_of_lt acceptable.positive) added (Int.not_lt.mp within)))
  · intro beyond
    have reaches : candidate.ceiling <= total.units :=
      Decimal.le_add? limitNonnegative added (Int.le_of_lt beyond)
    exact lt_of_le_of_ne reaches fun same => sharp ⟨beyond, total, added, same.symm⟩

theorem decided_of_not_acceptable (unacceptable : ¬ candidate.Acceptable) :
    candidate.Decided := by
  refine ⟨fun overflow overflowed => ?_, fun acceptable => absurd acceptable unacceptable⟩
  obtain ⟨refusal, refused⟩ := validate_of_not_acceptable unacceptable
  rw [refused] at overflowed
  cases overflowed

/-- A total within range that is not blurred is decided on. -/
theorem decided_of_sharp
    (acceptable : candidate.Acceptable)
    (usedNonnegative : 0 <= candidate.usedToday.units)
    (limitNonnegative : 0 <= candidate.ceiling)
    (small : ¬ TooLarge candidate.exactTotal)
    (sharp : ¬ candidate.Blurred) :
    candidate.Decided := by
  obtain ⟨total, added⟩ := exists_add?_of_small small
  obtain ⟨refuses, passes⟩ :=
    overLimit_iff_of_added acceptable usedNonnegative limitNonnegative added
  have beyond :=
    ceiling_lt_iff_of_sharp acceptable usedNonnegative limitNonnegative added sharp
  refine ⟨fun overflow overflowed => ?_, fun _ => refuses.trans beyond⟩
  rcases Int.lt_or_le candidate.ceiling total.units with above | below
  · obtain ⟨remaining, refused⟩ := refuses.mpr above
    rw [refused] at overflowed
    cases overflowed
  · rw [passes.mpr below] at overflowed
    cases overflowed

/-- A blurred total is let pass, beyond the limit by half a step of its last digit at most. -/
theorem passes_of_blurred
    (acceptable : candidate.Acceptable)
    (usedNonnegative : 0 <= candidate.usedToday.units)
    (limitNonnegative : 0 <= candidate.ceiling)
    (blurred : candidate.Blurred) :
    candidate.validate = .ok () ∧
      ∃ total, candidate.usedToday.add? candidate.amount = some total ∧
        2 * (candidate.exactTotal - candidate.ceiling) <= tenTo (28 - total.scale) := by
  obtain ⟨beyond, total, added, same⟩ := blurred
  obtain ⟨-, passes⟩ :=
    overLimit_iff_of_added acceptable usedNonnegative limitNonnegative added
  refine ⟨passes.mpr same.le, total, added, ?_⟩
  have near := Decimal.add?_near added
  rw [same] at near
  rw [exactTotal] at beyond ⊢
  omega

/--
With nothing below zero in them, the rules come to a result and the limit rule decides by the
exact total, in this case only: the other rules refuse already, or the total is not too large
for a decimal and is not rounded down to the limit. If it is too large, the rules overflow.
If it is rounded down to the limit, they let the transfer pass, beyond the limit by half a
step of the last digit at most. Neither happens to a total that some decimal can hold, such
as one of storable amounts that is not too long with four digits after the point.
-/
theorem limit_decided_iff
    (candidate : TransferCandidate)
    (usedNonnegative : Decimal.zero <= candidate.usedToday)
    (limitNonnegative : Decimal.zero <= candidate.sender.dailyLimit) :
    (candidate.Decided ↔
      (candidate.Acceptable -> ¬ TooLarge candidate.exactTotal ∧ ¬ candidate.Blurred)) ∧
    (candidate.Acceptable -> TooLarge candidate.exactTotal ->
      candidate.validate = .error (.overflowed .addition)) ∧
    (candidate.Acceptable -> candidate.Blurred ->
      candidate.validate = .ok () ∧
        ∃ total, candidate.usedToday.add? candidate.amount = some total ∧
          2 * (candidate.exactTotal - candidate.ceiling) <= tenTo (28 - total.scale)) ∧
    (Holds candidate.exactTotal -> candidate.Decided) ∧
    (candidate.usedToday.Storable -> candidate.exactTotal.natAbs < Decimal.exactUnits ->
      candidate.Decided) := by
  have overflows (acceptable : candidate.Acceptable) (large : TooLarge candidate.exactTotal) :
      candidate.validate = .error (.overflowed .addition) := by
    rw [validate_of_acceptable acceptable, checkLimit_of_tooLarge large]
  have decided (clear : candidate.Acceptable ->
      ¬ TooLarge candidate.exactTotal ∧ ¬ candidate.Blurred) : candidate.Decided := by
    by_cases acceptable : candidate.Acceptable
    · obtain ⟨small, sharp⟩ := clear acceptable
      exact decided_of_sharp acceptable usedNonnegative limitNonnegative small sharp
    · exact decided_of_not_acceptable acceptable
  have held (holds : Holds candidate.exactTotal) : candidate.Decided :=
    decided fun _ => ⟨holds.not_tooLarge, not_blurred_of_holds holds⟩
  refine ⟨⟨?clear, decided⟩, overflows, ?blurred, held, ?stored⟩
  case clear =>
    intro answers acceptable
    refine ⟨fun large => answers.answered _ (overflows acceptable large), fun blurred => ?_⟩
    -- The exact total is beyond the limit, so the rules would have to refuse what they let pass.
    obtain ⟨passed, -⟩ := passes_of_blurred acceptable usedNonnegative limitNonnegative blurred
    obtain ⟨remaining, refused⟩ := (answers.exact acceptable).mpr blurred.1
    rw [passed] at refused
    cases refused
  case blurred =>
    exact fun acceptable => passes_of_blurred acceptable usedNonnegative limitNonnegative
  case stored =>
    intro usedStorable fits
    by_cases acceptable : candidate.Acceptable
    · exact held (Decimal.holds_of_stored (Int.dvd_add usedStorable acceptable.storable) fits)
    · exact decided_of_not_acceptable acceptable

end TransferCandidate

namespace Sample

/-- An account that has sent a fortune, up to its limit, and has it again sends some more. -/
def tireless (fortune amount : Decimal) : TransferCandidate where
  sender := { account "A" 1 with balance := fortune, dailyLimit := fortune }
  receiver := account "B" 2
  amount := amount
  currency := none
  caller := ⟨1, .user, "A", none⟩
  usedToday := fortune

end Sample

namespace TransferCandidate

/-- With a hundred for a fortune, one more is beyond the limit and within range. -/
theorem limit_decided_iff_sample :
    let candidate : TransferCandidate :=
      Sample.tireless (.whole 100 (by decide)) (.whole 1 (by decide))
    (Decimal.zero <= candidate.usedToday ∧ Decimal.zero <= candidate.sender.dailyLimit) ∧
      candidate.Decided := by
  intro candidate
  have used : Decimal.zero <= candidate.usedToday := by decide
  have limited : Decimal.zero <= candidate.sender.dailyLimit := by decide
  obtain ⟨-, -, -, -, stored⟩ := limit_decided_iff candidate used limited
  exact ⟨⟨used, limited⟩, stored (by decide) (by decide)⟩

/--
Beyond a limit that is as high as there is, one more is an overflow, and four tenths more
are let pass.
-/
theorem limit_rule_undecided :
    let fortune : Decimal := .whole 0xFFFFFFFFFFFFFFFFFFFFFFFF (by decide)
    let one : TransferCandidate := Sample.tireless fortune (.whole 1 (by decide))
    let fraction : TransferCandidate :=
      Sample.tireless fortune ⟨4, 1, by decide, by decide⟩
    (one.checkRules = .ok () ∧ one.ceiling < one.exactTotal ∧
        one.validate = .error (.overflowed .addition)) ∧
      fraction.checkRules = .ok () ∧ fraction.ceiling < fraction.exactTotal ∧
        fraction.validate = .ok () :=
  ⟨⟨rfl, by decide, rfl⟩, rfl, by decide, rfl⟩

end TransferCandidate
end Giro
