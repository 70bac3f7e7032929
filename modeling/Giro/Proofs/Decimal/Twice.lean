import Giro.Proofs.Decimal.Ordering
import Giro.Proofs.Decimal.Quotients
import Mathlib.Tactic

/-!
# Rounding twice

A quotient is rounded to what a decimal can hold, and that to four digits. The first
rounding takes a half to the even neighbour, the second one away from zero. Where the
divisor has few digits, the first one is so fine that the second one does not notice: a
quotient that is not halfway between two steps is farther from there than the first
rounding can move it, and one that is halfway is not moved.
-/

namespace Giro

/-- Steps are a quotient rounded to the nearest of them, a half going up. -/
def RoundsTo (numerator denominator steps : Int) : Prop :=
  (2 * steps - 1) * denominator <= 2 * numerator ∧
    2 * numerator < (2 * steps + 1) * denominator

/-- There is one number to which a quotient is rounded. -/
theorem RoundsTo.eq_ediv
    {numerator denominator steps : Int}
    (rounds : RoundsTo numerator denominator steps) :
    steps = (2 * numerator + denominator) / (2 * denominator) := by
  have positive : 0 < 2 * denominator := by
    have apart := rounds.1.trans_lt rounds.2
    nlinarith
  have low : steps <= (2 * numerator + denominator) / (2 * denominator) := by
    rw [Int.le_ediv_iff_mul_le positive]
    linarith [rounds.1]
  have high : (2 * numerator + denominator) / (2 * denominator) < steps + 1 := by
    rw [Int.ediv_lt_iff_lt_mul positive]
    linarith [rounds.2]
  omega

/-- A ratio in finer units is rounded to the same steps. -/
theorem RoundsTo.mul_right
    {numerator denominator steps : Int}
    (rounds : RoundsTo numerator denominator steps)
    {factor : Int}
    (positive : 0 < factor) :
    RoundsTo (numerator * factor) (denominator * factor) steps := by
  constructor
  · have low := Int.mul_le_mul_of_nonneg_right rounds.1 positive.le
    linarith
  · have high := Int.mul_lt_mul_of_pos_right rounds.2 positive
    linarith

theorem roundsTo_roundQuotient (numerator : Nat) {denominator : Nat} (positive : 0 < denominator) :
    RoundsTo numerator denominator
      (roundQuotient .awayFromZero numerator denominator : Nat) := by
  have low := (roundQuotient_near .awayFromZero numerator positive).1
  have high : 2 * numerator <
      2 * (roundQuotient .awayFromZero numerator denominator * denominator) + denominator := by
    have divided := Nat.div_add_mod' numerator denominator
    have remainder := Nat.mod_lt numerator positive
    have next : (numerator / denominator + 1) * denominator =
        numerator / denominator * denominator + denominator := Nat.succ_mul _ _
    unfold roundQuotient
    dsimp only
    split_ifs <;> omega
  zify at low high
  constructor
  · linarith
  · linarith

/-- A quotient halfway between two steps is not rounded by an even factor of steps. -/
theorem exact_of_halfway
    (numerator : Nat)
    {denominator factor : Nat}
    (positive : 0 < denominator)
    (even : factor % 2 = 0)
    (steps : Nat)
    (halfway : (2 * steps - 1 : Int) * denominator = 2 * numerator) :
    (2 * steps - 1 : Int) * factor =
      2 * (roundQuotient .toEven (numerator * factor) denominator : Nat) := by
  have some : 0 < steps := by
    rcases Nat.eq_zero_or_pos steps with rfl | some
    · push_cast at halfway
      omega
    · exact some
  obtain ⟨half, rfl⟩ := Nat.dvd_of_mod_eq_zero even
  have whole : numerator * (2 * half) = (2 * steps - 1) * half * denominator := by
    zify [(by omega : 1 <= 2 * steps)]
    linear_combination (-half : Int) * halfway
  rw [whole, roundQuotient_mul .toEven _ _ positive]
  push_cast [Nat.cast_sub (by omega : 1 <= 2 * steps)]
  ring

/-- What is rounded finely enough first is rounded as if it had not been. -/
theorem roundQuotient_twice
    (numerator : Nat)
    {denominator factor : Nat}
    (positive : 0 < denominator)
    (fine : denominator < factor)
    (even : factor % 2 = 0) :
    roundQuotient .awayFromZero
        (roundQuotient .toEven (numerator * factor) denominator) factor =
      roundQuotient .awayFromZero numerator denominator := by
  obtain ⟨low, high⟩ := roundsTo_roundQuotient numerator positive
  have near := roundQuotient_near .toEven (numerator * factor) positive
  have exact := exact_of_halfway numerator positive even
  set once := roundQuotient .toEven (numerator * factor) denominator
  set steps := roundQuotient .awayFromZero numerator denominator
  have divisor : (0 : Int) < denominator := by exact_mod_cast positive
  have finer : (denominator : Int) < factor := by exact_mod_cast fine
  zify at near
  have target : RoundsTo once factor steps := by
    constructor
    · rcases low.eq_or_lt with halfway | above
      · exact (exact steps halfway).le
      · -- The quotient is above half by at least one part of the divisor.
        have apart : ((2 * steps - 1) * denominator + 1 : Int) * factor <= 2 * numerator * factor :=
          Int.mul_le_mul_of_nonneg_right (by omega) (by omega)
        refine le_of_mul_le_mul_right ?_ divisor
        linarith [near.2]
    · have apart : (2 * numerator + 1 : Int) * factor <= (2 * steps + 1) * denominator * factor :=
        Int.mul_le_mul_of_nonneg_right (by omega) (by omega)
      refine lt_of_mul_lt_mul_right ?_ divisor.le
      linarith [near.1]
  have found := roundsTo_roundQuotient once (positive.trans fine)
  exact Int.ofNat.inj (found.eq_ediv.trans target.eq_ediv.symm)

theorem roundRatio_natCast (tie : Tie) (numerator denominator : Nat) :
    roundRatio tie numerator denominator = (roundQuotient tie numerator denominator : Nat) := by
  rw [roundRatio, Int.natAbs_natCast, if_neg (Int.not_lt.mpr (Int.natCast_nonneg _))]

/-- Equal ratios are rounded alike. -/
theorem roundQuotient_of_proportional
    (tie : Tie)
    {numerator denominator otherNumerator otherDenominator : Nat}
    (positive : 0 < denominator)
    (otherPositive : 0 < otherDenominator)
    (proportional : numerator * otherDenominator = otherNumerator * denominator) :
    roundQuotient tie numerator denominator =
      roundQuotient tie otherNumerator otherDenominator := by
  rw [← roundQuotient_mul_left tie numerator denominator otherPositive,
    ← roundQuotient_mul_left tie otherNumerator otherDenominator positive,
    Nat.mul_comm otherDenominator numerator, proportional, Nat.mul_comm otherNumerator,
    Nat.mul_comm otherDenominator denominator]

/-- A quotient is rounded to no more than a whole number that it does not pass. -/
theorem roundQuotient_le_of_le
    (tie : Tie)
    {numerator denominator limit : Nat}
    (positive : 0 < denominator)
    (within : numerator <= limit * denominator) :
    roundQuotient tie numerator denominator <= limit :=
  (roundQuotient_le tie positive within).trans_eq (roundQuotient_mul tie limit denominator positive)

namespace Decimal

/--
A ratio is held at the scale where it is made into a number, and at no smaller one than it
could be.
-/
theorem ofRatio?_scale
    {numerator : Int}
    {denominator lower scale : Nat}
    (found : (ofRatioAt? numerator denominator lower).isSome = true)
    (within : lower <= scale) :
    ∃ held number, lower <= held ∧
      ofRatio? numerator denominator scale = some number ∧
      ofRatioAt? numerator denominator held = some number := by
  cases made : ofRatio? numerator denominator scale with
  | none =>
      rw [ofRatio?_eq_none_iff.mp made lower within] at found
      cases found
  | some number =>
      obtain ⟨held, -, shown, finest⟩ := ofRatio?_largest made
      refine ⟨held, number, ?_, rfl, shown⟩
      by_contra below
      rw [finest lower (Nat.lt_of_not_le below) within] at found
      cases found

variable {left right : Decimal} {numerator denominator : Nat}

/-- Numbers with four digits that count have the ratio of the counts. -/
theorem proportional_of_units
    (dividend : left.units.natAbs = numerator * storedUnits)
    (divisor : right.units.natAbs = denominator * storedUnits) :
    left.coefficient.natAbs * tenTo right.scale * denominator =
      numerator * (right.coefficient.natAbs * tenTo left.scale) := by
  have leftScaled := natAbs_units_mul left
  have rightScaled := natAbs_units_mul right
  rw [dividend] at leftScaled
  rw [divisor] at rightScaled
  refine Nat.eq_of_mul_eq_mul_right (Nat.mul_pos (tenTo_pos 24) (tenTo_pos 28)) ?_
  calc
    left.coefficient.natAbs * tenTo right.scale * denominator * (tenTo 24 * tenTo 28)
        = left.coefficient.natAbs * tenTo 28 * tenTo right.scale * (denominator * storedUnits) := by
      rw [storedUnits]
      ring
    _ = numerator * storedUnits * tenTo left.scale *
        (denominator * storedUnits * tenTo right.scale) := by
      rw [← leftScaled]
      ring
    _ = numerator * (right.coefficient.natAbs * tenTo left.scale) * (tenTo 24 * tenTo 28) := by
      rw [rightScaled, storedUnits]
      ring

/-- A quotient of at most a hundred is told with 26 digits at least, rounded once. -/
theorem div_coefficient
    (dividend : left.units = (numerator * storedUnits : Nat))
    (divisor : right.units = (denominator * storedUnits : Nat))
    (positive : 0 < denominator)
    (within : numerator <= 100 * denominator) :
    ∃ quotient,
      left.div right = .ok quotient ∧ 26 <= quotient.scale ∧
        quotient.coefficient =
          (roundQuotient .toEven (numerator * tenTo quotient.scale) denominator : Nat) := by
  have leftSign : 0 <= left.coefficient := by
    have nonnegative : 0 <= left.units := dividend ▸ Int.natCast_nonneg _
    exact nonneg_of_mul_nonneg_left nonnegative (tenTo_cast_pos _)
  have rightSign : 0 < right.coefficient := by
    have large : 0 < right.units :=
      divisor ▸ Int.natCast_pos.mpr (Nat.mul_pos positive (tenTo_pos 24))
    exact pos_of_mul_pos_left large (tenTo_cast_pos _).le
  have same (scale : Nat) :
      ofRatioAt? (left.coefficient * tenTo right.scale)
          (right.coefficient.natAbs * tenTo left.scale) scale =
        make? (roundQuotient .toEven (numerator * tenTo scale) denominator : Nat) scale := by
    have size : left.coefficient * tenTo right.scale =
        (left.coefficient.natAbs * tenTo right.scale : Nat) := by
      rw [Nat.cast_mul, Int.natAbs_of_nonneg leftSign]
    have proportional :
        left.coefficient.natAbs * tenTo right.scale * denominator =
          numerator * (right.coefficient.natAbs * tenTo left.scale) :=
      proportional_of_units (by rw [dividend, Int.natAbs_natCast])
        (by rw [divisor, Int.natAbs_natCast])
    have divisorPositive : 0 < right.coefficient.natAbs * tenTo left.scale :=
      Nat.mul_pos (Int.natAbs_pos.mpr rightSign.ne') (tenTo_pos _)
    rw [size, ofRatioAt?_natCast, roundQuotient_of_proportional .toEven divisorPositive positive]
    rw [mul_right_comm, proportional]
    ring
  have most : roundQuotient .toEven (numerator * tenTo 26) denominator <= tenTo 28 := by
    refine roundQuotient_le_of_le .toEven positive ?_
    calc
      numerator * tenTo 26 <= 100 * denominator * tenTo 26 := Nat.mul_le_mul_right _ within
      _ = tenTo 28 * denominator := by
        rw [mul_right_comm]
        rfl
  have found :
      (ofRatioAt? (left.coefficient * tenTo right.scale)
        (right.coefficient.natAbs * tenTo left.scale) 26).isSome = true := by
    obtain ⟨number, made, -⟩ := exists_make?_natCast
      (lt_of_le_of_lt most (by decide)) (by decide : 26 <= 28)
    rw [same, made, Option.isSome_some]
  obtain ⟨held, quotient, least, ratio, made⟩ :=
    ofRatio?_scale found (by decide : 26 <= maxScale)
  rw [same, make?_natCast_eq_some_iff] at made
  obtain ⟨-, coefficient, rfl⟩ := made
  refine ⟨quotient, ?_, least, coefficient⟩
  simp only [div, div?, if_neg (not_lt.mpr rightSign.le), ratio]

/--
A quotient of numbers with four digits that count, of which the divisor is not too large,
is rounded to four digits as if it had been exact before.
-/
theorem div_roundTo
    (dividend : left.units = (numerator * storedUnits : Nat))
    (divisor : right.units = (denominator * storedUnits : Nat))
    (positive : 0 < denominator)
    (few : denominator < tenTo 19)
    (within : numerator <= 100 * denominator) :
    ∃ quotient rounded,
      left.div right = .ok quotient ∧ quotient.roundTo? 4 = some rounded ∧
        rounded.units =
          (roundQuotient .awayFromZero (numerator * tenTo 4) denominator * storedUnits : Nat) := by
  obtain ⟨quotient, divided, digits, coefficient⟩ :=
    div_coefficient dividend divisor positive within
  obtain ⟨extra, scale⟩ : ∃ extra, quotient.scale - 4 = 22 + extra :=
    Nat.exists_eq_add_of_le (by omega)
  have fine : denominator < tenTo (quotient.scale - 4) := by
    rw [scale, tenTo_add]
    have least := Nat.mul_le_mul_left (tenTo 22) (tenTo_pos extra)
    exact few.trans (lt_of_lt_of_le (by decide) least)
  have even : tenTo (quotient.scale - 4) % 2 = 0 := by
    rw [scale, Nat.add_right_comm 21 1 extra, tenTo_succ]
    omega
  have shifted : numerator * tenTo quotient.scale =
      numerator * tenTo 4 * tenTo (quotient.scale - 4) := by
    rw [mul_assoc, ← tenTo_add, Nat.add_sub_cancel' (by omega)]
  have twice := roundQuotient_twice (numerator * tenTo 4) positive fine even
  have most : roundQuotient .awayFromZero (numerator * tenTo 4) denominator <= tenTo 6 := by
    refine roundQuotient_le_of_le .awayFromZero positive ?_
    calc
      numerator * tenTo 4 <= 100 * denominator * tenTo 4 := Nat.mul_le_mul_right _ within
      _ = tenTo 6 * denominator := by
        rw [mul_right_comm]
        rfl
  obtain ⟨rounded, made, units⟩ := exists_make?_natCast
    (lt_of_le_of_lt most (by decide)) (by decide : 4 <= 28)
  refine ⟨quotient, rounded, divided, ?_, units⟩
  rw [roundTo?, if_neg (by omega), coefficient, roundRatio_natCast, shifted, twice, made]

end Decimal
end Giro
