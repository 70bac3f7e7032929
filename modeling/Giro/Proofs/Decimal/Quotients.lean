import Giro.Proofs.Decimal.Exactness

/-!
# Quotients within range

A ratio is rounded to the largest scale that can hold it. There is one as soon as the
whole part can be held, so a quotient can be told whenever it is not too large, and
what a ratio is made into is hardly larger than the ratio.
-/

namespace Giro
namespace Decimal

/-- A ratio is made into no number exactly if it is too long at every scale. -/
theorem ofRatio?_eq_none_iff {numerator : Int} {denominator scale : Nat} :
    ofRatio? numerator denominator scale = none ↔
      ∀ lower, lower <= scale -> ofRatioAt? numerator denominator lower = none := by
  induction scale with
  | zero => simp [ofRatio?]
  | succ scale ih =>
      rw [ofRatio?]
      constructor
      · intro nothing lower within
        split at nothing
        · cases nothing
        · rcases Nat.le_succ_iff.mp within with deeper | rfl
          · exact ih.mp nothing lower deeper
          · assumption
      · intro nowhere
        rw [nowhere _ (Nat.le_refl _)]
        exact ih.mpr fun lower within => nowhere lower (Nat.le_succ_of_le within)

/-- What a ratio is made into has the largest scale that can hold it. -/
theorem ofRatio?_largest
    {numerator : Int}
    {denominator scale : Nat}
    {number : Decimal}
    (made : ofRatio? numerator denominator scale = some number) :
    ∃ held, held <= scale ∧ ofRatioAt? numerator denominator held = some number ∧
      ∀ finer, held < finer -> finer <= scale ->
        ofRatioAt? numerator denominator finer = none := by
  induction scale with
  | zero => exact ⟨0, Nat.le_refl 0, made, fun finer above within => by omega⟩
  | succ scale ih =>
      rw [ofRatio?] at made
      split at made
      · cases made
        exact ⟨scale + 1, Nat.le_refl _, ‹_›, fun finer above within => by omega⟩
      · rename_i unfit
        obtain ⟨held, least, shown, finest⟩ := ih made
        refine ⟨held, Nat.le_succ_of_le least, shown, fun finer above within => ?_⟩
        rcases Nat.le_succ_iff.mp within with deeper | rfl
        · exact finest finer above deeper
        · exact unfit

/-- A ratio that can be held without digits after the point can be held with some. -/
theorem ofRatio?_isSome
    {numerator : Int}
    {denominator : Nat}
    (fits : (roundRatio .toEven numerator denominator).natAbs < capacity)
    (scale : Nat) :
    (ofRatio? numerator denominator scale).isSome = true := by
  induction scale with
  | zero => simp [ofRatio?, ofRatioAt?, make?, fits]
  | succ scale ih =>
      rw [ofRatio?]
      split
      · rfl
      · exact ih

/-- A quotient is rounded to no more than the next whole number. -/
theorem roundRatio_natAbs_le (tie : Tie) (numerator : Int) (denominator : Nat) :
    (roundRatio tie numerator denominator).natAbs <= numerator.natAbs / denominator + 1 := by
  have rounded : roundQuotient tie numerator.natAbs denominator <=
      numerator.natAbs / denominator + 1 := by
    unfold roundQuotient
    cases tie <;> dsimp only <;> repeat' split
    all_goals omega
  unfold roundRatio
  dsimp only
  split <;> omega

theorem natAbs_units (number : Decimal) :
    number.units.natAbs = number.coefficient.natAbs * tenTo (28 - number.scale) := by
  rw [units, Int.natAbs_mul, Int.natAbs_natCast]

theorem natAbs_units_mul (number : Decimal) :
    number.units.natAbs * tenTo number.scale = number.coefficient.natAbs * tenTo 28 := by
  rw [natAbs_units, mul_assoc, ← tenTo_add, Nat.sub_add_cancel number.scaleFits]

/-- A ratio is made into a number that is larger by one at most. -/
theorem natAbs_units_ofRatio?_le
    {numerator : Int}
    {denominator scale : Nat}
    {number : Decimal}
    (scaleFits : scale <= 28)
    (made : ofRatio? numerator denominator scale = some number) :
    number.units.natAbs * denominator <= (numerator.natAbs + denominator) * tenTo 28 := by
  obtain ⟨held, within, made, -⟩ := ofRatio?_largest made
  have rounded := roundRatio_natAbs_le .toEven (numerator * tenTo held) denominator
  rw [Int.natAbs_mul, Int.natAbs_natCast] at rounded
  have positive := tenTo_pos held
  rw [units_of_make? made, Int.natAbs_mul, Int.natAbs_natCast]
  calc
    (roundRatio .toEven (numerator * tenTo held) denominator).natAbs * tenTo (28 - held) *
          denominator
        <= (numerator.natAbs * tenTo held / denominator + 1) * tenTo (28 - held) *
          denominator := by gcongr
    _ = (numerator.natAbs * tenTo held / denominator * denominator + denominator) *
          tenTo (28 - held) := by ring
    _ <= (numerator.natAbs * tenTo held + denominator * tenTo held) *
          tenTo (28 - held) := by
      exact Nat.mul_le_mul_right _ (Nat.add_le_add (Nat.div_mul_le_self _ _)
        (Nat.le_mul_of_pos_right _ positive))
    _ = (numerator.natAbs + denominator) * (tenTo held * tenTo (28 - held)) := by ring
    _ = (numerator.natAbs + denominator) * tenTo 28 := by
      rw [← tenTo_add, Nat.add_sub_cancel' (within.trans scaleFits)]

/-- A quotient that is not too large can be told. -/
theorem div_isOk
    {left right : Decimal}
    {most : Nat}
    (positive : 0 < right.units)
    (within : left.units.natAbs <= most * right.units.natAbs)
    (fits : most + 1 < capacity) :
    ∃ quotient, left.div right = .ok quotient := by
  have coefficientPositive : ¬ right.coefficient < 0 := by
    intro negative
    rw [units] at positive
    exact absurd positive (not_lt.mpr (Int.mul_nonpos_of_nonpos_of_nonneg
      (Int.le_of_lt negative) (Int.le_of_lt (tenTo_cast_pos _))))
  -- Both numbers as ratios with the scale of the other one.
  have scaled : left.coefficient.natAbs * tenTo right.scale <=
      most * (right.coefficient.natAbs * tenTo left.scale) := by
    refine Nat.le_of_mul_le_mul_right ?_ (tenTo_pos 28)
    calc
      left.coefficient.natAbs * tenTo right.scale * tenTo 28
          = left.units.natAbs * tenTo left.scale * tenTo right.scale := by
        rw [natAbs_units_mul]
        ring
      _ <= most * right.units.natAbs * tenTo left.scale * tenTo right.scale := by gcongr
      _ = most * (right.coefficient.natAbs * tenTo left.scale) * tenTo 28 := by
        have same := natAbs_units_mul right
        calc
          most * right.units.natAbs * tenTo left.scale * tenTo right.scale
              = most * (right.units.natAbs * tenTo right.scale) * tenTo left.scale := by ring
          _ = most * (right.coefficient.natAbs * tenTo left.scale) * tenTo 28 := by
            rw [same]
            ring
  have rounded := roundRatio_natAbs_le .toEven (left.coefficient * tenTo right.scale)
    (right.coefficient.natAbs * tenTo left.scale)
  rw [Int.natAbs_mul, Int.natAbs_natCast] at rounded
  have whole := Nat.div_le_of_le_mul (scaled.trans_eq (Nat.mul_comm _ _))
  have made := ofRatio?_isSome (lt_of_le_of_lt rounded (by omega)) maxScale
  obtain ⟨quotient, made⟩ := Option.isSome_iff_exists.mp made
  refine ⟨quotient, ?_⟩
  simp only [div, div?, if_neg coefficientPositive, made]

end Decimal

end Giro
