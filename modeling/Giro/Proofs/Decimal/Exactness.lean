import Giro.Money
import Giro.Decimal.Arithmetic
import Mathlib.Tactic

/-!
# Exact sums

A sum of decimals is rounded when its coefficient is too long for the larger of
the two scales. Amounts that can be stored are whole numbers of ten-thousandths,
whatever their scale, and a sum of two of them is exact as long as it would fit
with four digits after the point: the scale may shrink on the way, but never
below the last digit that counts.
-/

namespace Giro

theorem tenTo_add (left right : Nat) :
    tenTo (left + right) = tenTo left * tenTo right :=
  Nat.pow_add 10 left right

theorem tenTo_pos (exponent : Nat) : 0 < tenTo exponent :=
  Nat.pow_pos (by decide)

theorem tenTo_cast_pos (exponent : Nat) : (0 : Int) < tenTo exponent :=
  Int.natCast_pos.mpr (tenTo_pos exponent)

theorem roundQuotient_mul
    (tie : Tie)
    (quotient denominator : Nat)
    (positive : 0 < denominator) :
    roundQuotient tie (quotient * denominator) denominator = quotient := by
  simp [roundQuotient, Nat.mul_div_cancel _ positive, positive]

/-- A ratio that is a whole number is not rounded. -/
theorem roundRatio_mul
    (tie : Tie)
    (quotient : Int)
    (denominator : Nat)
    (positive : 0 < denominator) :
    roundRatio tie (quotient * denominator) denominator = quotient := by
  have size : (quotient * (denominator : Int)).natAbs = quotient.natAbs * denominator := by
    rw [Int.natAbs_mul, Int.natAbs_natCast]
  have sign : quotient * (denominator : Int) < 0 ↔ quotient < 0 := by
    rw [mul_neg_iff]
    omega
  simp only [roundRatio, size, roundQuotient_mul tie _ denominator positive, sign]
  split <;> omega

namespace Decimal

theorem units_of_make?
    {coefficient : Int}
    {scale : Nat}
    {number : Decimal}
    (made : make? coefficient scale = some number) :
    number.units = coefficient * tenTo (28 - scale) := by
  unfold make? at made
  split at made
  · cases made
    rfl
  · cases made

theorem make?_of_fits
    {coefficient : Int}
    (scale : Nat)
    (fits : coefficient.natAbs < capacity)
    (scaleFits : scale <= 28) :
    ∃ number, make? coefficient scale = some number ∧
      number.units = coefficient * tenTo (28 - scale) := by
  refine ⟨⟨coefficient, scale, fits, scaleFits⟩, ?_, rfl⟩
  rw [make?, dif_pos ⟨fits, scaleFits⟩]

/-- A ratio that is a whole number at a scale is made without rounding there. -/
theorem ofRatioAt?_of_whole
    {numerator coefficient : Int}
    {denominator scale : Nat}
    (positive : 0 < denominator)
    (whole : numerator * tenTo scale = coefficient * denominator) :
    ofRatioAt? numerator denominator scale = make? coefficient scale := by
  rw [ofRatioAt?, whole, roundRatio_mul _ _ _ positive]

/-- The units of four digits after the point. -/
def storedUnits : Nat := tenTo 24

/-- At most four digits after the point count, however many there are. -/
def Storable (number : Decimal) : Prop :=
  (storedUnits : Int) ∣ number.units

instance (number : Decimal) : Decidable number.Storable :=
  inferInstanceAs (Decidable ((storedUnits : Int) ∣ number.units))

/-- A total of storable numbers is exact below this many units. -/
def exactUnits : Nat := capacity * storedUnits

/--
A ratio that is a whole number of ten-thousandths is a whole number at every
scale of at least four digits.
-/
theorem whole_of_steps
    {numerator steps : Int}
    {scale : Nat}
    (scaleFits : scale <= 28)
    (whole : numerator * tenTo (28 - scale) = steps * storedUnits)
    (extra : Nat) :
    numerator * tenTo (4 + extra) = steps * tenTo extra * tenTo scale := by
  have weights : tenTo 24 * tenTo (4 + extra) =
      tenTo extra * (tenTo scale * tenTo (28 - scale)) := by
    rw [← tenTo_add, ← tenTo_add, ← tenTo_add]
    congr 1
    omega
  apply Int.eq_of_mul_eq_mul_right (Int.ne_of_gt (tenTo_cast_pos (28 - scale)))
  calc
    numerator * tenTo (4 + extra) * tenTo (28 - scale) =
        steps * ((tenTo 24 * tenTo (4 + extra) : Nat) : Int) := by
      rw [mul_right_comm, whole, storedUnits]
      push_cast
      ring
    _ = steps * tenTo extra * tenTo scale * tenTo (28 - scale) := by
      rw [weights]
      push_cast
      ring

/--
Rounding downward from a scale of at least four digits, a whole number of
ten-thousandths is reached exactly.
-/
theorem ofRatio?_of_steps
    {numerator steps : Int}
    {scale : Nat}
    (scaleFits : scale <= 28)
    (whole : numerator * tenTo (28 - scale) = steps * storedUnits)
    (fits : steps.natAbs < capacity)
    (extra : Nat)
    (within : 4 + extra <= scale) :
    ∃ number, ofRatio? numerator (tenTo scale) (4 + extra) = some number ∧
      number.units = steps * storedUnits := by
  have shown := ofRatioAt?_of_whole (tenTo_pos scale)
    (whole_of_steps scaleFits whole extra)
  induction extra with
  | zero =>
      obtain ⟨number, made, units⟩ := make?_of_fits 4 fits (by omega)
      refine ⟨number, ?_, units⟩
      simp only [Nat.add_zero, tenTo_zero, Nat.cast_one, mul_one] at shown
      simp [ofRatio?, shown, made]
  | succ extra ih =>
      change ∃ number, ofRatio? numerator (tenTo scale) (4 + extra + 1) = some number ∧ _
      rw [ofRatio?]
      -- Either the coefficient fits at this scale, or the next scale down is tried.
      split
      · rename_i number made
        refine ⟨number, rfl, ?_⟩
        rw [units_of_make? (shown.symm.trans made), mul_assoc, ← Nat.cast_mul, ← tenTo_add,
          storedUnits]
        congr 3
        omega
      · exact ih (by omega) (ofRatioAt?_of_whole (tenTo_pos scale)
          (whole_of_steps scaleFits whole extra))

/-- A whole number of ten-thousandths is not rounded at any scale it fits into. -/
theorem ofRatio?_exact
    {numerator steps : Int}
    {scale : Nat}
    (scaleFits : scale <= 28)
    (whole : numerator * tenTo (28 - scale) = steps * storedUnits)
    (fits : steps.natAbs < capacity) :
    ∃ number, ofRatio? numerator (tenTo scale) scale = some number ∧
      number.units = steps * storedUnits := by
  by_cases short : scale < 4
  · -- With fewer than four digits the numerator itself is the coefficient.
    have smaller : numerator.natAbs <= steps.natAbs := by
      have weight : tenTo (28 - scale) = tenTo 24 * tenTo (4 - scale) := by
        rw [← tenTo_add]
        congr 1
        omega
      have equal : numerator * tenTo (4 - scale) = steps := by
        apply Int.eq_of_mul_eq_mul_right (Int.ne_of_gt (tenTo_cast_pos 24))
        rw [← storedUnits, ← whole, weight, storedUnits]
        push_cast
        ring
      rw [← equal, Int.natAbs_mul, Int.natAbs_natCast]
      exact Nat.le_mul_of_pos_right _ (tenTo_pos _)
    obtain ⟨number, made, units⟩ := make?_of_fits scale (lt_of_le_of_lt smaller fits) scaleFits
    refine ⟨number, ?_, units.trans whole⟩
    have shown : ofRatioAt? numerator (tenTo scale) scale = make? numerator scale :=
      ofRatioAt?_of_whole (tenTo_pos scale) rfl
    cases scale with
    | zero => exact shown.trans made
    | succ scale => simp [ofRatio?, shown, made]
  · obtain ⟨extra, rfl⟩ := Nat.exists_eq_add_of_le (Nat.le_of_not_lt short)
    exact ofRatio?_of_steps scaleFits whole fits extra (Nat.le_refl _)

/-- The units of a number do not change when it is written at a larger scale. -/
theorem units_aligned
    (number : Decimal)
    {scale : Nat}
    (lower : number.scale <= scale)
    (scaleFits : scale <= 28) :
    number.coefficient * tenTo (scale - number.scale) * tenTo (28 - scale) = number.units := by
  rw [mul_assoc, ← Nat.cast_mul, ← tenTo_add, units]
  congr 3
  omega

theorem units_eq_zero {number : Decimal} (zero : number.coefficient = 0) :
    number.units = 0 := by
  rw [units, zero, zero_mul]

/-- The sum of two storable numbers is exact if it is within range. -/
theorem add?_exact
    {left right : Decimal}
    (leftStorable : left.Storable)
    (rightStorable : right.Storable)
    (fits : (left.units + right.units).natAbs < exactUnits) :
    ∃ sum, left.add? right = some sum ∧ sum.units = left.units + right.units := by
  unfold add?
  split
  · rename_i zero
    exact ⟨right, rfl, by rw [units_eq_zero zero, zero_add]⟩
  split
  · rename_i zero
    exact ⟨left, rfl, by rw [units_eq_zero zero, add_zero]⟩
  obtain ⟨steps, whole⟩ := dvd_add leftStorable rightStorable
  have scaleFits : max left.scale right.scale <= 28 := max_le left.scaleFits right.scaleFits
  have stepsFit : steps.natAbs < capacity := by
    rw [whole, Int.natAbs_mul, Int.natAbs_natCast, exactUnits, mul_comm] at fits
    exact Nat.lt_of_mul_lt_mul_right fits
  have aligned :
      (left.coefficient * tenTo (max left.scale right.scale - left.scale) +
          right.coefficient * tenTo (max left.scale right.scale - right.scale)) *
        tenTo (28 - max left.scale right.scale) = steps * storedUnits := by
    rw [add_mul, units_aligned left (le_max_left _ _) scaleFits,
      units_aligned right (le_max_right _ _) scaleFits, whole, mul_comm]
  obtain ⟨sum, made, units⟩ := ofRatio?_exact scaleFits aligned stepsFit
  exact ⟨sum, made, by rw [units, whole, mul_comm]⟩

theorem storable_negate {number : Decimal} (storable : number.Storable) :
    number.negate.Storable := by
  simpa [Storable] using storable

/-- The difference of two storable numbers is exact if it is within range. -/
theorem sub?_exact
    {left right : Decimal}
    (leftStorable : left.Storable)
    (rightStorable : right.Storable)
    (fits : (left.units - right.units).natAbs < exactUnits) :
    ∃ difference, left.sub? right = some difference ∧
      difference.units = left.units - right.units := by
  have fitsNegated : (left.units + right.negate.units).natAbs < exactUnits := by
    rwa [units_negate, ← sub_eq_add_neg]
  obtain ⟨difference, made, units⟩ :=
    add?_exact leftStorable (storable_negate rightStorable) fitsNegated
  exact ⟨difference, made, by rw [units, units_negate, sub_eq_add_neg]⟩

theorem storable_of_units_add
    {left right sum : Decimal}
    (leftStorable : left.Storable)
    (rightStorable : right.Storable)
    (units : sum.units = left.units + right.units) :
    sum.Storable := by
  rw [Storable, units]
  exact dvd_add leftStorable rightStorable

theorem storable_of_units_sub
    {left right difference : Decimal}
    (leftStorable : left.Storable)
    (rightStorable : right.Storable)
    (units : difference.units = left.units - right.units) :
    difference.Storable := by
  rw [Storable, units]
  exact dvd_sub leftStorable rightStorable

/-- Dropping zeros keeps the number. -/
theorem dropZeros_value (coefficient : Int) (scale : Nat) :
    (dropZeros coefficient scale).1 * tenTo (scale - (dropZeros coefficient scale).2) =
      coefficient := by
  induction scale generalizing coefficient with
  | zero => simp [dropZeros]
  | succ scale ih =>
      rw [dropZeros]
      split
      · rename_i zero
        have lower := dropZeros_scale_le (coefficient / 10) scale
        rw [Nat.succ_sub lower, tenTo_succ, Nat.cast_mul, ← mul_assoc, ih]
        exact Int.ediv_mul_cancel (Int.dvd_of_emod_eq_zero zero)
      · simp

/-- No zero is left to be dropped, or no digit after the point. -/
theorem dropZeros_last (coefficient : Int) (scale : Nat) :
    (dropZeros coefficient scale).2 = 0 ∨ (dropZeros coefficient scale).1 % 10 ≠ 0 := by
  induction scale generalizing coefficient with
  | zero => simp [dropZeros]
  | succ scale ih =>
      rw [dropZeros]
      split
      · exact ih _
      · rename_i digit
        exact Or.inr digit

@[simp] theorem units_normalize (number : Decimal) :
    number.normalize.units = number.units := by
  have lower := dropZeros_scale_le number.coefficient number.scale
  have within := number.scaleFits
  have value := dropZeros_value number.coefficient number.scale
  have weight : tenTo (28 - (dropZeros number.coefficient number.scale).2) =
      tenTo (number.scale - (dropZeros number.coefficient number.scale).2) *
        tenTo (28 - number.scale) := by
    rw [← tenTo_add]
    congr 1
    omega
  change (dropZeros number.coefficient number.scale).1 *
    (tenTo (28 - (dropZeros number.coefficient number.scale).2) : Int) = _
  rw [weight, Nat.cast_mul, ← mul_assoc, value, units]

/-- A number is storable exactly if no more than four of its digits count. -/
theorem storable_iff_scale_normalize (number : Decimal) :
    number.Storable ↔ number.normalize.scale <= Money.storedDigits := by
  have within := number.normalize.scaleFits
  have last : number.normalize.scale = 0 ∨ number.normalize.coefficient % 10 ≠ 0 :=
    dropZeros_last number.coefficient number.scale
  rw [Storable, ← units_normalize, units, storedUnits]
  change _ ↔ number.normalize.scale <= 4
  constructor
  · intro divides
    by_contra more
    have split : tenTo 24 =
        tenTo (number.normalize.scale - 5) * 10 * tenTo (28 - number.normalize.scale) := by
      rw [← tenTo_succ, ← tenTo_add]
      congr 1
      omega
    rw [split, Nat.cast_mul] at divides
    have divided := Int.dvd_of_mul_dvd_mul_right
      (Int.ne_of_gt (tenTo_cast_pos (28 - number.normalize.scale))) divides
    have ten : (10 : Int) ∣ number.normalize.coefficient :=
      (Dvd.intro_left _ (Nat.cast_mul _ _).symm).trans divided
    omega
  · intro few
    have split : tenTo (28 - number.normalize.scale) =
        tenTo (4 - number.normalize.scale) * tenTo 24 := by
      rw [← tenTo_add]
      congr 1
      omega
    rw [split, Nat.cast_mul, ← mul_assoc]
    exact Dvd.intro_left _ rfl

end Decimal

/-- The scale check lets exactly the storable amounts pass, unchanged. -/
theorem Money.checkScale_eq_ok_iff (amount checked : Decimal) :
    Money.checkScale amount = .ok checked ↔ amount.Storable ∧ checked = amount := by
  rw [Decimal.storable_iff_scale_normalize, Money.checkScale]
  by_cases many : Money.storedDigits < amount.normalize.scale
  · simp [many]
  · simp [many, Nat.le_of_not_lt many, eq_comm]

end Giro
