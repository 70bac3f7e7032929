import Giro.Proofs.Decimal.Ordering
import Giro.Proofs.Decimal.Quotients

/-!
# What a decimal can hold

A sum comes out in one of three ways. It is exact if some decimal stands for it. It is
refused if even its whole part is too long, a half taken up. In between it is rounded: off
by no more than half a step of its own last digit, but off.
-/

namespace Giro

section Quotients

variable (tie : Tie)

@[simp] theorem natAbs_roundRatio (numerator : Int) (denominator : Nat) :
    (roundRatio tie numerator denominator).natAbs =
      roundQuotient tie numerator.natAbs denominator := by
  unfold roundRatio
  dsimp only
  split <;> omega

/-- A ratio is rounded by half at most, whatever its sign. -/
theorem roundRatio_near (numerator : Int) {denominator : Nat} (positive : 0 < denominator) :
    2 * (roundRatio tie numerator denominator * denominator - numerator).natAbs <=
      denominator := by
  obtain ⟨lower, upper⟩ := roundQuotient_near tie numerator.natAbs positive
  unfold roundRatio
  dsimp only
  split
  · rw [Int.neg_mul, ← Nat.cast_mul]
    omega
  · rw [← Nat.cast_mul]
    omega

end Quotients

/-- Rounded to even, a quotient reaches an even number from half below it on. -/
theorem le_roundQuotient_toEven_iff
    {limit : Nat}
    (even : limit % 2 = 0)
    (numerator : Nat)
    {denominator : Nat}
    (positive : 0 < denominator) :
    limit <= roundQuotient .toEven numerator denominator ↔
      2 * (limit * denominator) <= 2 * numerator + denominator := by
  have divided := Nat.div_add_mod' numerator denominator
  have remainder := Nat.mod_lt numerator positive
  unfold roundQuotient
  dsimp only
  generalize numerator / denominator = quotient at *
  rcases lt_trichotomy limit (quotient + 1) with below | next | above
  · have within : limit * denominator <= quotient * denominator :=
      Nat.mul_le_mul_right _ (Nat.le_of_lt_succ below)
    split_ifs <;> omega
  · -- Halfway below an even number the whole quotient is odd, and rounded upward.
    subst next
    rw [Nat.succ_mul quotient]
    split_ifs <;> omega
  · have beyond : (quotient + 2) * denominator <= limit * denominator :=
      Nat.mul_le_mul_right _ above
    rw [Nat.add_mul] at beyond
    split_ifs <;> omega

namespace Decimal

/-- Some decimal stands for a count of units. -/
def Holds (count : Int) : Prop :=
  ∃ number : Decimal, number.units = count

/-- A count of units whose whole part is too long for a decimal, a half taken up. -/
def TooLarge (count : Int) : Prop :=
  2 * (capacity * tenTo 28) <= 2 * count.natAbs + tenTo 28

instance (count : Int) : Decidable (TooLarge count) :=
  inferInstanceAs (Decidable (_ <= _))

theorem make?_eq_none_iff {coefficient : Int} {scale : Nat} (scaleFits : scale <= 28) :
    make? coefficient scale = none ↔ capacity <= coefficient.natAbs := by
  simp [make?, scaleFits]

/-- A count of units is made into no number exactly if it is too large. -/
theorem ofUnits?_eq_none_iff (count : Int) : ofUnits? count = none ↔ TooLarge count := by
  have whole : TooLarge count ↔
      capacity <= (roundRatio .toEven count (tenTo 28)).natAbs := by
    rw [natAbs_roundRatio, le_roundQuotient_toEven_iff (by decide) _ (tenTo_pos 28)]
    rfl
  rw [whole]
  constructor
  · intro nothing
    have atZero := ofRatio?_eq_none_iff.mp nothing 0 (Nat.zero_le _)
    rw [ofRatioAt?, make?_eq_none_iff (Nat.zero_le _)] at atZero
    simpa using atZero
  · intro large
    refine ofRatio?_eq_none_iff.mpr fun scale within => ?_
    rw [ofRatioAt?, make?_eq_none_iff within]
    refine large.trans ?_
    rw [natAbs_roundRatio, natAbs_roundRatio, Int.natAbs_mul, Int.natAbs_natCast]
    exact roundQuotient_le .toEven (tenTo_pos 28) (Nat.le_mul_of_pos_right _ (tenTo_pos scale))

theorem Holds.not_tooLarge {count : Int} (holds : Holds count) : ¬ TooLarge count := by
  obtain ⟨number, rfl⟩ := holds
  intro large
  have whole := map_units_ofUnits?_units number
  rw [(ofUnits?_eq_none_iff _).mpr large] at whole
  cases whole

/-- Four digits after the point can be held, in numbers that are not too long. -/
theorem holds_of_stored
    {count : Int}
    (stored : (storedUnits : Int) ∣ count)
    (fits : count.natAbs < exactUnits) :
    Holds count := by
  obtain ⟨steps, rfl⟩ := stored
  rw [Int.natAbs_mul, Int.natAbs_natCast, exactUnits, mul_comm] at fits
  obtain ⟨number, -, units⟩ :=
    make?_of_fits 4 (Nat.lt_of_mul_lt_mul_right fits) (by decide)
  exact ⟨number, units.trans (mul_comm _ _)⟩

/-- A sum is refused exactly if it is too large. -/
theorem add?_eq_none_iff (left right : Decimal) :
    left.add? right = none ↔ TooLarge (left.units + right.units) := by
  rw [← ofUnits?_eq_none_iff, ← Option.map_eq_none_iff (f := units), map_units_add?,
    Option.map_eq_none_iff]

/-- A sum that comes out is exact exactly if some decimal stands for it. -/
theorem add?_exact_iff
    {left right sum : Decimal}
    (added : left.add? right = some sum) :
    sum.units = left.units + right.units ↔ Holds (left.units + right.units) := by
  constructor
  · exact fun exact => ⟨sum, exact⟩
  · rintro ⟨number, same⟩
    have rounded := map_units_add? left right
    rw [added, ← same, map_units_ofUnits?_units] at rounded
    rw [← same]
    exact Option.some.inj rounded

/-- What is made of a ratio is off by no more than half a step of its last digit. -/
theorem ofRatio?_near
    {numerator : Int}
    {denominator scale : Nat}
    {number : Decimal}
    (positive : 0 < denominator)
    (scaleFits : scale <= 28)
    (made : ofRatio? numerator denominator scale = some number) :
    2 * (number.units * denominator - numerator * tenTo 28).natAbs <=
      denominator * tenTo (28 - number.scale) := by
  obtain ⟨held, within, made, -⟩ := ofRatio?_largest made
  have near := roundRatio_near .toEven (numerator * tenTo held) positive
  have weight : (tenTo 28 : Int) = tenTo held * tenTo (28 - held) := by
    rw [← Nat.cast_mul, ← tenTo_add, Nat.add_sub_cancel' (within.trans scaleFits)]
  have scaled : number.scale = held := by
    unfold ofRatioAt? make? at made
    split at made
    · cases made
      rfl
    · cases made
  rw [units_of_make? made, weight, scaled]
  have factored :
      roundRatio .toEven (numerator * tenTo held) denominator * tenTo (28 - held) *
            denominator -
          numerator * (tenTo held * tenTo (28 - held)) =
        (roundRatio .toEven (numerator * tenTo held) denominator * denominator -
            numerator * tenTo held) *
          tenTo (28 - held) := by ring
  rw [factored, Int.natAbs_mul, Int.natAbs_natCast, ← Nat.mul_assoc]
  exact Nat.mul_le_mul_right _ near

/-- A sum is off by no more than half a step of its last digit. -/
theorem add?_near
    {left right sum : Decimal}
    (added : left.add? right = some sum) :
    2 * (sum.units - (left.units + right.units)).natAbs <= tenTo (28 - sum.scale) := by
  unfold add? at added
  split at added
  · rename_i zero
    cases added
    simp [units_eq_zero zero]
  split at added
  · rename_i zero
    cases added
    simp [units_eq_zero zero]
  have scaleFits : max left.scale right.scale <= 28 := max_le left.scaleFits right.scaleFits
  have near := ofRatio?_near (tenTo_pos _) scaleFits added
  have aligned :
      (left.coefficient * tenTo (max left.scale right.scale - left.scale) +
          right.coefficient * tenTo (max left.scale right.scale - right.scale)) *
        tenTo 28 = (left.units + right.units) * tenTo (max left.scale right.scale) := by
    have weight : (tenTo 28 : Int) =
        tenTo (28 - max left.scale right.scale) * tenTo (max left.scale right.scale) := by
      rw [← Nat.cast_mul, ← tenTo_add, Nat.sub_add_cancel scaleFits]
    rw [weight, ← mul_assoc, add_mul, units_aligned left (le_max_left _ _) scaleFits,
      units_aligned right (le_max_right _ _) scaleFits]
  rw [aligned, ← sub_mul, Int.natAbs_mul, Int.natAbs_natCast, ← Nat.mul_assoc,
    Nat.mul_comm (tenTo _) (tenTo _)] at near
  exact Nat.le_of_mul_le_mul_right near (tenTo_pos _)

end Decimal
end Giro
