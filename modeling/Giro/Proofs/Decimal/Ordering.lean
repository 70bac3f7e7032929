import Giro.Proofs.Decimal.Exactness

/-!
# Sums in order

A sum that is rounded is not exact any more, but it keeps its place: of two totals that
are not negative, the smaller one is not rounded to more than the larger one. So a part
of some amounts can be added up whenever all of them can, and comes to no more, however
much was rounded on the way.

The reason is that rounding is done once a sum, to the largest scale that can hold it.
At one scale rounding keeps the order. Where the larger total needs a smaller scale
than the other, a power of ten times the capacity lies between them.
-/

namespace Giro

section Quotients

variable (tie : Tie)

/-- A quotient is rounded by half at most. -/
theorem roundQuotient_near (numerator : Nat) {denominator : Nat} (positive : 0 < denominator) :
    2 * (roundQuotient tie numerator denominator * denominator) <= 2 * numerator + denominator ∧
      2 * numerator <=
        2 * (roundQuotient tie numerator denominator * denominator) + denominator := by
  have divided := Nat.div_add_mod' numerator denominator
  have remainder := Nat.mod_lt numerator positive
  have next : (numerator / denominator + 1) * denominator =
      numerator / denominator * denominator + denominator := Nat.succ_mul _ _
  unfold roundQuotient
  dsimp only
  split
  · omega
  split
  · omega
  cases tie with
  | toEven => dsimp only; split <;> omega
  | awayFromZero => dsimp only; omega

/-- Quotients keep their order when they are rounded. -/
theorem roundQuotient_le
    {low high denominator : Nat}
    (positive : 0 < denominator)
    (within : low <= high) :
    roundQuotient tie low denominator <= roundQuotient tie high denominator := by
  rcases Nat.eq_or_lt_of_le within with rfl | below
  · exact Nat.le_refl _
  have lower := (roundQuotient_near tie low positive).1
  have upper := (roundQuotient_near tie high positive).2
  have close : roundQuotient tie low denominator * denominator <
      (roundQuotient tie high denominator + 1) * denominator := by
    rw [Nat.succ_mul]
    omega
  exact Nat.le_of_lt_succ (Nat.lt_of_mul_lt_mul_right close)

theorem roundQuotient_mul_left
    (numerator denominator : Nat)
    {factor : Nat}
    (positive : 0 < factor) :
    roundQuotient tie (factor * numerator) (factor * denominator) =
      roundQuotient tie numerator denominator := by
  have double : ∀ rest, 2 * (factor * rest) = factor * (2 * rest) := fun rest => by ring
  simp only [roundQuotient, Nat.mul_div_mul_left _ _ positive, Nat.mul_mod_mul_left, double,
    Nat.mul_lt_mul_left positive]

/-- A ratio is rounded the same whatever factor it is written with. -/
theorem roundRatio_mul_left
    (numerator : Int)
    (denominator : Nat)
    {factor : Nat}
    (positive : 0 < factor) :
    roundRatio tie (factor * numerator) (factor * denominator) =
      roundRatio tie numerator denominator := by
  have size : ((factor : Int) * numerator).natAbs = factor * numerator.natAbs := by
    rw [Int.natAbs_mul, Int.natAbs_natCast]
  have sign : (factor : Int) * numerator < 0 ↔ numerator < 0 := by
    rw [mul_neg_iff]
    omega
  simp only [roundRatio, size, roundQuotient_mul_left tie _ _ positive, sign]

end Quotients

namespace Decimal

theorem ofRatioAt?_natCast (numerator denominator scale : Nat) :
    ofRatioAt? numerator denominator scale =
      make? (roundQuotient .toEven (numerator * tenTo scale) denominator : Nat) scale := by
  have nonnegative : ¬ ((numerator : Int) * tenTo scale < 0) :=
    Int.not_lt.mpr (Int.mul_nonneg (Int.natCast_nonneg _) (Int.natCast_nonneg _))
  have size : ((numerator : Int) * tenTo scale).natAbs = numerator * tenTo scale := by
    rw [Int.natAbs_mul, Int.natAbs_natCast, Int.natAbs_natCast]
  rw [ofRatioAt?, roundRatio, size, if_neg nonnegative]

theorem make?_natCast_eq_some_iff {coefficient scale : Nat} {number : Decimal} :
    make? coefficient scale = some number ↔
      coefficient < capacity ∧ number.coefficient = coefficient ∧ number.scale = scale := by
  unfold make?
  have size : (coefficient : Int).natAbs = coefficient := Int.natAbs_natCast _
  split
  · rename_i fits
    rw [size] at fits
    constructor
    · rintro ⟨⟩
      exact ⟨fits.1, rfl, rfl⟩
    · rintro ⟨-, same, scaled⟩
      obtain ⟨_, _, _, _⟩ := number
      subst same scaled
      rfl
  · rename_i unfit
    refine ⟨fun made => (by cases made), ?_⟩
    rintro ⟨fits, -, scaled⟩
    exact absurd ⟨size ▸ fits, scaled ▸ number.scaleFits⟩ unfit

theorem exists_make?_natCast
    {coefficient scale : Nat}
    (fits : coefficient < capacity)
    (scaleFits : scale <= 28) :
    ∃ number, make? coefficient scale = some number ∧
      number.units = (coefficient * tenTo (28 - scale) : Nat) := by
  obtain ⟨number, made, units⟩ := make?_of_fits scale (Int.natAbs_natCast coefficient ▸ fits)
    scaleFits
  exact ⟨number, made, by rw [units, Nat.cast_mul]⟩

/-- A ratio that cannot be held at a scale is rounded to the capacity or more there. -/
theorem full_of_ofRatioAt?_eq_none
    {numerator denominator scale : Nat}
    (scaleFits : scale <= 28)
    (unfit : ofRatioAt? numerator denominator scale = none) :
    capacity <= roundQuotient .toEven (numerator * tenTo scale) denominator := by
  by_contra fits
  obtain ⟨number, made, -⟩ := exists_make?_natCast (Nat.lt_of_not_le fits) scaleFits
  rw [ofRatioAt?_natCast, made] at unfit
  cases unfit

/--
A coefficient that does not fit at a scale is hardly less with one digit fewer, and the
digit is worth ten times as much then.
-/
theorem capacity_le_of_full
    {numerator denominator : Nat}
    (positive : 0 < denominator)
    (full : capacity <= roundQuotient .toEven (numerator * 10) denominator) :
    capacity <= roundQuotient .toEven numerator denominator * 10 := by
  have lower := (roundQuotient_near .toEven (numerator * 10) positive).1
  have upper := (roundQuotient_near .toEven numerator positive).2
  have many := Nat.mul_le_mul_right denominator full
  have close : 2 * capacity * denominator <=
      (20 * roundQuotient .toEven numerator denominator + 11) * denominator := by
    calc
      2 * capacity * denominator = 2 * (capacity * denominator) := Nat.mul_assoc _ _ _
      _ <= 20 * (roundQuotient .toEven numerator denominator * denominator) +
          11 * denominator := by omega
      _ = (20 * roundQuotient .toEven numerator denominator + 11) * denominator := by ring
  have bound := Nat.le_of_mul_le_mul_right close positive
  have size : capacity = 79228162514264337593543950336 := rfl
  omega

/-- A ratio that does not fit at a scale is made into at least the capacity of that scale. -/
theorem capacity_le_units_of_full
    {numerator denominator scale : Nat}
    {number : Decimal}
    (positive : 0 < denominator)
    (scaleFits : scale < 28)
    (full : capacity <= roundQuotient .toEven (numerator * tenTo (scale + 1)) denominator)
    (made : ofRatio? numerator denominator scale = some number) :
    (capacity * tenTo (27 - scale) : Nat) <= number.units := by
  have atScale {scale : Nat}
      (scaleFits : scale < 28)
      (full : capacity <= roundQuotient .toEven (numerator * tenTo (scale + 1)) denominator)
      (made : ofRatioAt? numerator denominator scale = some number) :
      (capacity * tenTo (27 - scale) : Nat) <= number.units := by
    rw [tenTo_succ, ← Nat.mul_assoc] at full
    have enough := Nat.mul_le_mul_right (tenTo (27 - scale)) (capacity_le_of_full positive full)
    have weight : tenTo (28 - scale) = 10 * tenTo (27 - scale) := by
      rw [Nat.mul_comm, ← tenTo_succ]
      congr 1
      omega
    rw [ofRatioAt?_natCast] at made
    rw [units_of_make? made, weight, ← Nat.cast_mul, ← Nat.mul_assoc]
    exact Int.ofNat_le.mpr enough
  induction scale with
  | zero => exact atScale scaleFits full made
  | succ scale ih =>
      rw [ofRatio?] at made
      split at made
      · cases made
        exact atScale scaleFits full ‹_›
      · rename_i unfit
        -- What does not fit at this scale is worth even more at the ones below.
        have fullHere := full_of_ofRatioAt?_eq_none (Nat.le_of_lt scaleFits) unfit
        have step : tenTo (27 - scale) = tenTo (27 - (scale + 1)) * 10 := by
          rw [← tenTo_succ]
          congr 1
          omega
        have more := ih (by omega) fullHere made
        rw [step] at more
        refine le_trans (Int.ofNat_le.mpr (Nat.mul_le_mul_left _ ?_)) more
        exact Nat.le_mul_of_pos_right _ (by decide)

/-- Ratios keep their order when they are made into numbers. -/
theorem ofRatio?_mono
    {low high denominator scale : Nat}
    {larger : Decimal}
    (positive : 0 < denominator)
    (scaleFits : scale <= 28)
    (within : low <= high)
    (made : ofRatio? high denominator scale = some larger) :
    ∃ smaller, ofRatio? low denominator scale = some smaller ∧
      smaller.units <= larger.units := by
  have rounded (scale : Nat) : roundQuotient .toEven (low * tenTo scale) denominator <=
      roundQuotient .toEven (high * tenTo scale) denominator :=
    roundQuotient_le .toEven positive (Nat.mul_le_mul_right _ within)
  -- Where the larger one fits, so does the smaller one.
  have atScale {scale : Nat} (scaleFits : scale <= 28)
      (made : ofRatioAt? high denominator scale = some larger) :
      ∃ smaller, ofRatioAt? low denominator scale = some smaller ∧
        smaller.units <= larger.units := by
    rw [ofRatioAt?_natCast] at made
    have fits := (make?_natCast_eq_some_iff.mp made).1
    obtain ⟨smaller, shown, units⟩ :=
      exists_make?_natCast (lt_of_le_of_lt (rounded scale) fits) scaleFits
    refine ⟨smaller, by rw [ofRatioAt?_natCast, shown], ?_⟩
    rw [units, units_of_make? made, ← Nat.cast_mul]
    exact Int.ofNat_le.mpr (Nat.mul_le_mul_right _ (rounded scale))
  induction scale with
  | zero => exact atScale scaleFits made
  | succ scale ih =>
      rw [ofRatio?] at made ⊢
      split at made
      · cases made
        obtain ⟨smaller, shown, below⟩ := atScale scaleFits ‹_›
        exact ⟨smaller, by rw [shown], below⟩
      rename_i unfit
      cases shown : ofRatioAt? low denominator (scale + 1) with
      | none => exact ih (by omega) made
      | some smaller =>
          refine ⟨smaller, rfl, ?_⟩
          have full := full_of_ofRatioAt?_eq_none scaleFits unfit
          refine le_trans ?_ (capacity_le_units_of_full positive (by omega) full made)
          rw [ofRatioAt?_natCast] at shown
          have small := (make?_natCast_eq_some_iff.mp shown).1
          rw [units_of_make? shown, ← Nat.cast_mul]
          refine Int.ofNat_le.mpr (Nat.mul_le_mul (Nat.le_of_lt small) (Nat.le_of_eq ?_))
          congr 1
          omega

/-- The number of a count of units, rounded if it has too many digits. -/
def ofUnits? (count : Int) : Option Decimal :=
  ofRatio? count (tenTo 28) 28

/-- A coefficient that fits at its scale is not rounded. -/
theorem ofRatio?_of_fits
    {coefficient : Int}
    {scale : Nat}
    (fits : coefficient.natAbs < capacity)
    (scaleFits : scale <= 28) :
    ∃ number, ofRatio? coefficient (tenTo scale) scale = some number ∧
      number.units = coefficient * tenTo (28 - scale) := by
  obtain ⟨number, made, units⟩ := make?_of_fits scale fits scaleFits
  have shown : ofRatioAt? coefficient (tenTo scale) scale = make? coefficient scale :=
    ofRatioAt?_of_whole (tenTo_pos scale) rfl
  refine ⟨number, ?_, units⟩
  cases scale with
  | zero => exact shown.trans made
  | succ scale => simp [ofRatio?, shown, made]

/-- It does not matter from which scale on a ratio is rounded, if it is whole there. -/
theorem map_units_ofRatio?_of_whole
    (coefficient : Int)
    (scale extra : Nat)
    (scaleFits : scale + extra <= 28) :
    (ofRatio? (coefficient * tenTo (28 - scale)) (tenTo 28) (scale + extra)).map units =
      (ofRatio? coefficient (tenTo scale) scale).map units := by
  have weights : tenTo 28 = tenTo (28 - scale) * tenTo scale := by
    rw [← tenTo_add]
    congr 1
    omega
  induction extra with
  | zero =>
      have same (scaleDown : Nat) :
          ofRatioAt? (coefficient * tenTo (28 - scale)) (tenTo 28) scaleDown =
            ofRatioAt? coefficient (tenTo scale) scaleDown := by
        rw [ofRatioAt?, ofRatioAt?, weights, mul_comm coefficient, mul_assoc,
          roundRatio_mul_left _ _ _ (tenTo_pos _)]
      have everywhere (scaleDown : Nat) :
          ofRatio? (coefficient * tenTo (28 - scale)) (tenTo 28) scaleDown =
            ofRatio? coefficient (tenTo scale) scaleDown := by
        induction scaleDown with
        | zero => exact same 0
        | succ scaleDown ih => rw [ofRatio?, ofRatio?, same, ih]
      rw [Nat.add_zero, everywhere]
  | succ extra ih =>
      have shown : ofRatioAt? (coefficient * tenTo (28 - scale)) (tenTo 28) (scale + extra + 1) =
          make? (coefficient * tenTo (extra + 1)) (scale + extra + 1) := by
        refine ofRatioAt?_of_whole (tenTo_pos 28) ?_
        rw [weights, Nat.add_assoc, tenTo_add]
        push_cast
        ring
      rw [← Nat.add_assoc, ofRatio?, shown]
      split
      · rename_i number made
        have fits : coefficient.natAbs < capacity := by
          unfold make? at made
          split at made
          · rename_i fits
            refine lt_of_le_of_lt ?_ fits.1
            rw [Int.natAbs_mul, Int.natAbs_natCast]
            exact Nat.le_mul_of_pos_right _ (tenTo_pos _)
          · cases made
        obtain ⟨whole, wholeMade, units⟩ := ofRatio?_of_fits fits (by omega : scale <= 28)
        rw [wholeMade, Option.map_some, Option.map_some, units, units_of_make? made, mul_assoc,
          ← Nat.cast_mul, ← tenTo_add]
        congr 4
        omega
      · exact ih (by omega)

/-- The units of a number are the units of a number. -/
theorem map_units_ofUnits?_units (number : Decimal) :
    (ofUnits? number.units).map units = some number.units := by
  have scaleFits := number.scaleFits
  obtain ⟨same, made, units⟩ := ofRatio?_of_fits number.coefficientFits scaleFits
  have whole := map_units_ofRatio?_of_whole number.coefficient number.scale
    (28 - number.scale) (by omega)
  rw [Nat.add_sub_cancel' scaleFits, made, Option.map_some, units] at whole
  exact whole

/-- A sum is the exact sum of the units, rounded once. -/
theorem map_units_add? (left right : Decimal) :
    (left.add? right).map units = (ofUnits? (left.units + right.units)).map units := by
  unfold add?
  split
  · rename_i zero
    rw [units_eq_zero zero, zero_add, map_units_ofUnits?_units, Option.map_some]
  split
  · rename_i zero
    rw [units_eq_zero zero, add_zero, map_units_ofUnits?_units, Option.map_some]
  have scaleFits : max left.scale right.scale <= 28 := max_le left.scaleFits right.scaleFits
  have whole := map_units_ofRatio?_of_whole
    (left.coefficient * tenTo (max left.scale right.scale - left.scale) +
      right.coefficient * tenTo (max left.scale right.scale - right.scale))
    (max left.scale right.scale) (28 - max left.scale right.scale) (by omega)
  rw [Nat.add_sub_cancel' scaleFits, add_mul, units_aligned left (le_max_left _ _) scaleFits,
    units_aligned right (le_max_right _ _) scaleFits] at whole
  exact whole.symm

/-- Counts of units keep their order when they are made into numbers. -/
theorem ofUnits?_mono
    {low high : Int}
    {larger : Decimal}
    (nonnegative : 0 <= low)
    (within : low <= high)
    (made : ofUnits? high = some larger) :
    ∃ smaller, ofUnits? low = some smaller ∧ smaller.units <= larger.units := by
  obtain ⟨low, rfl⟩ := Int.eq_ofNat_of_zero_le nonnegative
  obtain ⟨high, rfl⟩ := Int.eq_ofNat_of_zero_le (Int.le_trans nonnegative within)
  exact ofRatio?_mono (tenTo_pos 28) (Nat.le_refl 28) (Int.ofNat_le.mp within) made

theorem exists_of_map_units
    {left right : Option Decimal}
    {number : Decimal}
    (same : left.map units = right.map units)
    (found : left = some number) :
    ∃ other, right = some other ∧ other.units = number.units := by
  rw [found, Option.map_some] at same
  exact Option.map_eq_some_iff.mp same.symm

section Sums

variable {low high amount sum : Decimal}

/-- A sum with a smaller number can be told if the other one can, and is no larger. -/
theorem add?_mono
    (nonnegative : 0 <= low.units)
    (amountNonnegative : 0 <= amount.units)
    (within : low <= high)
    (added : high.add? amount = some sum) :
    ∃ smaller, low.add? amount = some smaller ∧ smaller <= sum := by
  obtain ⟨rounded, made, units⟩ := exists_of_map_units (map_units_add? high amount) added
  obtain ⟨smaller, smallerMade, below⟩ := ofUnits?_mono
    (Int.add_nonneg nonnegative amountNonnegative) (Int.add_le_add_right within _) made
  obtain ⟨lowSum, lowAdded, lowUnits⟩ :=
    exists_of_map_units (map_units_add? low amount).symm smallerMade
  refine ⟨lowSum, lowAdded, ?_⟩
  rw [le_def, lowUnits, ← units]
  exact below

/-- A sum is not below its parts. -/
theorem le_of_add?
    (nonnegative : 0 <= low.units)
    (amountNonnegative : 0 <= amount.units)
    (added : low.add? amount = some sum) :
    low <= sum := by
  obtain ⟨rounded, made, units⟩ := exists_of_map_units (map_units_add? low amount) added
  obtain ⟨smaller, smallerMade, below⟩ := ofUnits?_mono nonnegative
    (Int.le_add_of_nonneg_right amountNonnegative) made
  have same := map_units_ofUnits?_units low
  rw [smallerMade, Option.map_some, Option.some_inj] at same
  rw [le_def, ← same, ← units]
  exact below

end Sums

theorem add_eq_ok_iff {left right sum : Decimal} :
    left.add right = .ok sum ↔ left.add? right = some sum := by
  unfold add
  cases left.add? right <;> simp

theorem foldlM_add_cons (start number : Decimal) (rest : List Decimal) (total : Decimal) :
    (number :: rest).foldlM add start = .ok total ↔
      ∃ sum, start.add number = .ok sum ∧ rest.foldlM add sum = .ok total := by
  rw [List.foldlM_cons]
  cases start.add number <;> simp [bind, Except.bind]

/-- Fewer amounts, added to less, can be added up if all of them can, and come to no more. -/
theorem foldlM_add_mono
    {part all : List Decimal}
    (within : part.Sublist all)
    (nonnegative : ∀ number ∈ all, 0 <= number.units)
    {low high total : Decimal}
    (lowNonnegative : 0 <= low.units)
    (below : low <= high)
    (added : all.foldlM add high = .ok total) :
    ∃ sum, part.foldlM add low = .ok sum ∧ sum <= total := by
  induction within generalizing low high with
  | slnil =>
      cases added
      exact ⟨low, rfl, below⟩
  | @cons part all number within ih =>
      obtain ⟨first, rest⟩ := List.forall_mem_cons.mp nonnegative
      obtain ⟨more, addedFirst, addedRest⟩ := (foldlM_add_cons ..).mp added
      have grown := le_of_add? (Int.le_trans lowNonnegative below) first
        (add_eq_ok_iff.mp addedFirst)
      exact ih rest lowNonnegative (Int.le_trans below grown) addedRest
  | @cons_cons part all number within ih =>
      obtain ⟨first, rest⟩ := List.forall_mem_cons.mp nonnegative
      obtain ⟨more, addedFirst, addedRest⟩ := (foldlM_add_cons ..).mp added
      obtain ⟨less, addedLess, stillBelow⟩ :=
        add?_mono lowNonnegative first below (add_eq_ok_iff.mp addedFirst)
      have lessNonnegative : 0 <= less.units :=
        Int.le_trans lowNonnegative (le_of_add? lowNonnegative first addedLess)
      obtain ⟨sum, addedPart, sumBelow⟩ := ih rest lessNonnegative stillBelow addedRest
      exact ⟨sum, (foldlM_add_cons ..).mpr ⟨less, add_eq_ok_iff.mpr addedLess, addedPart⟩, sumBelow⟩

/--
A part of some amounts can be added up whenever all of them can, and comes to no more,
although every sum on the way may have been rounded.
-/
theorem sum_mono
    {part all : List Decimal}
    {total : Decimal}
    (within : part.Sublist all)
    (nonnegative : ∀ number ∈ all, 0 <= number.units)
    (added : sum all = .ok total) :
    ∃ partTotal, sum part = .ok partTotal ∧ partTotal <= total :=
  foldlM_add_mono within nonnegative (Int.le_refl 0) (Int.le_refl _) added

/-- The sum of a list that grows at its end. -/
theorem sum_concat (numbers : List Decimal) (number : Decimal) :
    sum (numbers ++ [number]) = (do (<- sum numbers).add number) := by
  rw [sum, List.foldlM_append]
  simp only [List.foldlM_cons, List.foldlM_nil, bind_pure]
  rfl

end Decimal
end Giro
