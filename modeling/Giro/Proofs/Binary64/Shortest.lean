import Giro.Binary64.Shortest
import Giro.Proofs.Binary64.Rounding
import Giro.Proofs.Text.Digits

/-!
# The shortest decimal of a binary number

Grids of decimals are searched from coarse to fine, and on each grid the two decimals
next to the number are tried. If any decimal of a grid is rounded to the number, one of
these two is. So the decimal found is rounded to the number, and a decimal of so few
digits that the number distinguishes them all is the one that is found.
-/

namespace Giro
namespace Binary64

/-- The decimal as a ratio. -/
def Scaled.value (number : Scaled) : ℚ :=
  number.digits * 10 ^ number.exponent

section Grid

variable (number : Binary64) (exponent : Int)

/-- One step of a grid, as a natural number. -/
def gridStep : Nat :=
  tenTo exponent.toNat * twoTo (-(number.exponent - 2)).toNat

/-- A quarter of a step of binary numbers, in the same measure. -/
def gridUnit : Nat :=
  twoTo (number.exponent - 2).toNat * tenTo (-exponent).toNat

/-- The largest decimal of a grid that is not above the number. -/
def gridLow : Nat :=
  4 * number.significand * number.gridUnit exponent / number.gridStep exponent

/-- Whether a decimal of a grid is rounded to the number. -/
def readsOn (digits : Nat) : Bool :=
  let below :=
    if number.significand = twoTo 52 && minExponent < number.exponent then
      4 * number.significand - 1
    else 4 * number.significand - 2
  let value := digits * number.gridStep exponent
  if number.significand % 2 = 0 then
    below * number.gridUnit exponent <= value &&
      value <= (4 * number.significand + 2) * number.gridUnit exponent
  else
    below * number.gridUnit exponent < value &&
      value < (4 * number.significand + 2) * number.gridUnit exponent

end Grid

variable {number : Binary64} {exponent : Int}

theorem onGrid?_eq (number : Binary64) (exponent : Int) :
    number.onGrid? exponent =
      match number.readsOn exponent (number.gridLow exponent) &&
          number.gridLow exponent != 0,
        number.readsOn exponent (number.gridLow exponent + 1) with
      | true, true =>
          let quarters := 4 * number.significand * number.gridUnit exponent
          let low := number.gridLow exponent
          let toLow := quarters - low * number.gridStep exponent
          let toHigh := (low + 1) * number.gridStep exponent - quarters
          if toLow < toHigh || (toLow = toHigh && low % 2 = 0) then some ⟨low, exponent⟩
          else some ⟨low + 1, exponent⟩
      | true, false => some ⟨number.gridLow exponent, exponent⟩
      | false, true => some ⟨number.gridLow exponent + 1, exponent⟩
      | false, false => none := rfl

/-- What both measures on a grid are multiplied by, so that they are natural numbers. -/
def gridScale (number : Binary64) (exponent : Int) : ℚ :=
  10 ^ (-exponent).toNat * 2 ^ (-(number.exponent - 2)).toNat

theorem gridScale_pos (number : Binary64) (exponent : Int) : 0 < number.gridScale exponent := by
  unfold gridScale
  positivity

theorem gridStep_cast (number : Binary64) (exponent : Int) :
    (number.gridStep exponent : ℚ) = 10 ^ exponent * number.gridScale exponent := by
  rw [gridStep, gridScale, Nat.cast_mul, tenTo_cast, twoTo_cast, zpow_eq_div (by norm_num) exponent]
  field_simp

theorem gridUnit_cast (number : Binary64) (exponent : Int) :
    (number.gridUnit exponent : ℚ) = 2 ^ (number.exponent - 2) * number.gridScale exponent := by
  rw [gridUnit, gridScale, Nat.cast_mul, tenTo_cast, twoTo_cast,
    zpow_eq_div (by norm_num) (number.exponent - 2)]
  field_simp

theorem mul_gridUnit_le_iff (number : Binary64) (exponent : Int) (quarters digits : Nat) :
    quarters * number.gridUnit exponent <= digits * number.gridStep exponent ↔
      (quarters * 2 ^ (number.exponent - 2) : ℚ) <= digits * 10 ^ exponent := by
  rw [← Nat.cast_le (α := ℚ), Nat.cast_mul, Nat.cast_mul, gridStep_cast, gridUnit_cast,
    ← mul_assoc, ← mul_assoc, mul_le_mul_iff_left₀ (gridScale_pos number exponent)]

theorem mul_gridStep_le_iff (number : Binary64) (exponent : Int) (quarters digits : Nat) :
    digits * number.gridStep exponent <= quarters * number.gridUnit exponent ↔
      (digits * 10 ^ exponent : ℚ) <= quarters * 2 ^ (number.exponent - 2) := by
  rw [← Nat.cast_le (α := ℚ), Nat.cast_mul, Nat.cast_mul, gridStep_cast, gridUnit_cast,
    ← mul_assoc, ← mul_assoc, mul_le_mul_iff_left₀ (gridScale_pos number exponent)]

/-- The number is between the two decimals next to it. -/
theorem gridLow_bounds (number : Binary64) (exponent : Int) :
    (number.gridLow exponent * 10 ^ exponent : ℚ) <= number.value ∧
      number.value < ((number.gridLow exponent + 1 : Nat) : ℚ) * 10 ^ exponent := by
  have positive : 0 < number.gridStep exponent := Nat.mul_pos (tenTo_pos _) (twoTo_pos _)
  have below := Nat.div_mul_le_self (4 * number.significand * number.gridUnit exponent)
    (number.gridStep exponent)
  have above : 4 * number.significand * number.gridUnit exponent <
      (number.gridLow exponent + 1) * number.gridStep exponent := by
    rw [gridLow, Nat.add_mul, one_mul]
    exact Nat.lt_div_mul_add positive
  rw [value_eq_quarters]
  constructor
  · have bound := (mul_gridStep_le_iff number exponent (4 * number.significand) _).mp below
    push_cast at bound
    exact bound
  · have bound :=
      (mul_gridStep_le_iff number exponent (4 * number.significand) _).not.mp (not_le.mpr above)
    push_cast at bound ⊢
    exact not_le.mp bound

/-- A decimal of a grid is read if it is rounded to the number. -/
theorem readsOn_iff (positive : 0 < number.significand) (digits : Nat) :
    number.readsOn exponent digits = true ↔ number.Reads (digits * 10 ^ exponent) := by
  have quarters : (((if number.significand = twoTo 52 && minExponent < number.exponent then
        4 * number.significand - 1
      else 4 * number.significand - 2 : Nat) : ℚ)) * 2 ^ (number.exponent - 2) = number.lower := by
    rw [lower]
    congr 1
    by_cases edge : number.significand = twoTo 52 ∧ minExponent < number.exponent
    · rw [if_pos edge, if_pos (by simpa using edge), Nat.cast_sub (by omega)]
      push_cast
      rfl
    · rw [if_neg edge, if_neg (by simpa using edge), Nat.cast_sub (by omega)]
      push_cast
      rfl
  have upper_eq : ((4 * number.significand + 2 : Nat) : ℚ) * 2 ^ (number.exponent - 2) =
      number.upper := by
    rw [upper]
    push_cast
    rfl
  unfold readsOn
  dsimp only
  generalize (if number.significand = twoTo 52 && minExponent < number.exponent then
      4 * number.significand - 1
    else 4 * number.significand - 2) = least at quarters ⊢
  by_cases even : number.significand % 2 = 0
  · rw [if_pos even, Bool.and_eq_true, decide_eq_true_eq, decide_eq_true_eq, mul_gridUnit_le_iff,
      mul_gridStep_le_iff, quarters, upper_eq]
    exact ⟨fun bounds => ⟨bounds.1, bounds.2, fun odd => by omega⟩,
      fun reads => ⟨reads.above, reads.below⟩⟩
  · rw [if_neg even, Bool.and_eq_true, decide_eq_true_eq, decide_eq_true_eq, ← not_le, ← not_le,
      mul_gridUnit_le_iff, mul_gridStep_le_iff, quarters, upper_eq, not_le, not_le]
    exact ⟨fun bounds => ⟨bounds.1.le, bounds.2.le, fun _ => bounds⟩,
      fun reads => reads.odd (by omega)⟩

theorem lower_lt_value (number : Binary64) : number.lower < number.value := by
  have quarter := two_zpow_pos (number.exponent - 2)
  rw [lower, value_eq_quarters]
  split <;> nlinarith

theorem value_lt_upper (number : Binary64) : number.value < number.upper := by
  have quarter := two_zpow_pos (number.exponent - 2)
  rw [upper, value_eq_quarters]
  nlinarith

/-- What is between the number and a ratio that is rounded to it is rounded to it. -/
theorem Reads.of_between
    {ratio other : ℚ}
    (reads : number.Reads ratio)
    (between : ratio <= other ∧ other <= number.value ∨ number.value <= other ∧ other <= ratio) :
    number.Reads other := by
  have low := number.lower_lt_value
  have high := number.value_lt_upper
  rcases between with ⟨above, below⟩ | ⟨above, below⟩
  · exact ⟨reads.above.trans above, below.trans high.le,
      fun odd => ⟨(reads.odd odd).1.trans_le above, below.trans_lt high⟩⟩
  · exact ⟨low.le.trans above, below.trans reads.below,
      fun odd => ⟨low.trans_le above, below.trans_lt (reads.odd odd).2⟩⟩

/-- What is found on a grid is a decimal of the grid, not zero, and rounded to the number. -/
theorem onGrid?_sound
    (positive : 0 < number.significand)
    {found : Scaled}
    (onGrid : number.onGrid? exponent = some found) :
    found.exponent = exponent ∧ 0 < found.digits ∧ number.Reads found.value := by
  have sound {digits : Nat}
      (read : number.readsOn exponent digits = true ∧ ¬ digits = 0) :
      exponent = exponent ∧ 0 < digits ∧ number.Reads (digits * 10 ^ exponent) :=
    ⟨rfl, Nat.pos_iff_ne_zero.mpr read.2, (readsOn_iff positive digits).mp read.1⟩
  rw [onGrid?_eq] at onGrid
  cases low : number.readsOn exponent (number.gridLow exponent) &&
      number.gridLow exponent != 0 <;>
    cases high : number.readsOn exponent (number.gridLow exponent + 1) <;>
    rw [low, high] at onGrid
  · cases onGrid
  · cases onGrid
    exact sound ⟨high, Nat.succ_ne_zero _⟩
  · cases onGrid
    exact sound (by simpa using low)
  · dsimp only at onGrid
    split at onGrid
    · cases onGrid
      exact sound (by simpa using low)
    · cases onGrid
      exact sound ⟨high, Nat.succ_ne_zero _⟩

/-- A grid with any decimal that is rounded to the number has one next to the number. -/
theorem onGrid?_complete
    (positive : 0 < number.significand)
    {digits : Nat}
    (nonzero : 0 < digits)
    (reads : number.Reads (digits * 10 ^ exponent)) :
    (number.onGrid? exponent).isSome = true := by
  have step := ten_zpow_pos exponent
  obtain ⟨below, above⟩ := number.gridLow_bounds exponent
  rw [onGrid?_eq]
  rcases Nat.lt_or_ge (number.gridLow exponent) digits with beyond | within
  · have order : ((number.gridLow exponent + 1 : Nat) : ℚ) <= digits := by exact_mod_cast beyond
    have high : number.readsOn exponent (number.gridLow exponent + 1) = true :=
      (readsOn_iff positive _).mpr (reads.of_between (.inr ⟨above.le, by gcongr⟩))
    rw [high]
    cases number.readsOn exponent (number.gridLow exponent) && number.gridLow exponent != 0 with
    | false => rfl
    | true =>
        dsimp only
        split <;> rfl
  · have order : (digits : ℚ) <= number.gridLow exponent := by exact_mod_cast within
    have read : number.readsOn exponent (number.gridLow exponent) = true :=
      (readsOn_iff positive _).mpr (reads.of_between (.inl ⟨by gcongr, below⟩))
    have low : (number.readsOn exponent (number.gridLow exponent) &&
        number.gridLow exponent != 0) = true := by
      simp only [read, Bool.true_and, bne_iff_ne]
      omega
    rw [low]
    cases number.readsOn exponent (number.gridLow exponent + 1) with
    | false => rfl
    | true =>
        dsimp only
        split <;> rfl

/-- The search ends on a grid that is not finer than any one that has a decimal. -/
theorem searchGrid_finds
    (onGrid : (number.onGrid? exponent).isSome = true)
    {steps : Nat}
    {first : Int}
    (reached : exponent <= first ∧ first < exponent + steps) :
    ∃ grid, exponent <= grid ∧ number.onGrid? grid = some (number.searchGrid steps first) := by
  induction steps generalizing first with
  | zero => omega
  | succ steps ih =>
      rw [searchGrid]
      cases found : number.onGrid? first with
      | some decimal => exact ⟨first, reached.1, found⟩
      | none =>
          have different : exponent ≠ first := by
            rintro rfl
            simp [found] at onGrid
          exact ih (by omega)

/-- The search ends after so many grids, each finer by a digit, or with nothing. -/
theorem searchGrid_within
    (positive : 0 < number.significand)
    (steps : Nat)
    (first : Int) :
    (number.searchGrid steps first).exponent = 0 ∨
      first - steps < (number.searchGrid steps first).exponent := by
  induction steps generalizing first with
  | zero => exact .inl rfl
  | succ steps ih =>
      rw [searchGrid]
      cases found : number.onGrid? first with
      | some decimal =>
          right
          dsimp only
          rw [(onGrid?_sound positive found).1]
          omega
      | none =>
          refine (ih (first - 1)).imp_right fun within => ?_
          dsimp only
          omega

/-- The shortest decimal has at most 400 digits behind the point. -/
theorem exponent_shortest_ge (number : Binary64) : -400 <= number.shortest.exponent := by
  rw [shortest]
  split_ifs with zero
  · decide
  · have within := searchGrid_within (Nat.pos_iff_ne_zero.mpr zero) 400
      ((Text.digitsOf (number.numerator / number.denominator)).length : Int)
    dsimp only
    omega

/-- How many digits the number has before the point: the grid on which the search begins. -/
def wholeDigits (number : Binary64) : Nat :=
  (Text.digitsOf (number.numerator / number.denominator)).length

theorem value_lt_wholeDigits (number : Binary64) :
    number.value < 10 ^ (number.wholeDigits : Int) := by
  have positive : (0 : ℚ) < number.denominator := Nat.cast_pos.mpr number.denominator_pos
  have whole := Text.lt_tenTo_length_digitsOf (number.numerator / number.denominator)
  have bound := (Nat.div_lt_iff_lt_mul number.denominator_pos).mp whole
  rw [← numerator_div_denominator, div_lt_iff₀ positive, zpow_natCast, ← tenTo_cast]
  exact_mod_cast bound

/-- A decimal that is rounded to the number is on no coarser grid than the first one. -/
theorem Reads.exponent_le
    (positive : 0 < number.significand)
    {digits : Nat}
    (nonzero : 0 < digits)
    (reads : number.Reads (digits * 10 ^ exponent)) :
    exponent <= number.wholeDigits := by
  have near := reads.le_value positive
  have small := number.value_lt_wholeDigits
  have step := ten_zpow_pos exponent
  have one : (1 : ℚ) <= digits := by exact_mod_cast nonzero
  have bound : (10 : ℚ) ^ exponent < 10 ^ ((number.wholeDigits : Int) + 1) := by
    rw [zpow_add₀ (by norm_num), zpow_one]
    nlinarith [ten_zpow_pos number.wholeDigits]
  have bound := (zpow_lt_zpow_iff_right₀ (by norm_num)).mp bound
  omega

/-- The shortest decimal is rounded to the number, and on no finer grid than any other such one. -/
theorem shortest_spec
    (positive : 0 < number.significand)
    {digits : Nat}
    (nonzero : 0 < digits)
    (reads : number.Reads (digits * 10 ^ exponent))
    (reached : number.wholeDigits < exponent + 400) :
    exponent <= number.shortest.exponent ∧ 0 < number.shortest.digits ∧
      number.Reads number.shortest.value := by
  have within : exponent <= number.wholeDigits ∧
      (number.wholeDigits : Int) < exponent + (400 : Nat) :=
    ⟨reads.exponent_le positive nonzero, by exact_mod_cast reached⟩
  obtain ⟨grid, coarse, found⟩ :=
    searchGrid_finds (onGrid?_complete positive nonzero reads) within
  have shortest_eq : number.shortest = number.searchGrid 400 number.wholeDigits := by
    rw [shortest, if_neg (Nat.pos_iff_ne_zero.mp positive)]
    rfl
  rw [← shortest_eq] at found
  obtain ⟨same, some, read⟩ := onGrid?_sound positive found
  exact ⟨same ▸ coarse, some, read⟩

/-- A number below a power of ten has no more digits before the point, but one at least. -/
theorem wholeDigits_le
    {count : Nat}
    (some : 0 < count)
    (small : number.value < 10 ^ (count : Int)) :
    number.wholeDigits <= count := by
  have positive : (0 : ℚ) < number.denominator := Nat.cast_pos.mpr number.denominator_pos
  refine (Nat.length_toDigits_le_iff (by decide) some).mpr ?_
  rw [← numerator_div_denominator, div_lt_iff₀ positive, zpow_natCast, ← tenTo_cast] at small
  exact (Nat.div_lt_iff_lt_mul number.denominator_pos).mpr (by exact_mod_cast small)

/-- On a grid with steps no longer than those of the number, some decimal is rounded to it. -/
theorem exists_reads
    (positive : 0 < number.significand)
    (fine : (10 : ℚ) ^ exponent <= 2 ^ (number.exponent - 1)) :
    ∃ digits : Nat, 0 < digits ∧ number.Reads (digits * 10 ^ exponent) := by
  have step := ten_zpow_pos exponent
  have low := number.lower_lt_value
  have upper_eq : number.upper = number.value + 2 ^ (number.exponent - 1) := by
    rw [upper, value_eq_quarters, two_zpow_sub_one]
    ring
  have quotientPositive : 0 < number.value / 10 ^ exponent := div_pos (value_pos positive) step
  have above := (div_le_iff₀ step).mp (Nat.le_ceil (number.value / 10 ^ exponent))
  have below := Nat.ceil_lt_add_one quotientPositive.le
  rw [← sub_lt_iff_lt_add, lt_div_iff₀ step, sub_mul, one_mul] at below
  have within : (⌈number.value / 10 ^ exponent⌉₊ : ℚ) * 10 ^ exponent < number.upper := by
    linarith
  exact ⟨⌈number.value / 10 ^ exponent⌉₊, Nat.ceil_pos.mpr quotientPositive, low.le.trans above,
    within.le, fun _ => ⟨low.trans_le above, within⟩⟩

/-- A number is below the power of two after its digits. -/
theorem Regular.value_lt
    (regular : number.Regular)
    {most : Int}
    (atMost : number.exponent <= most) :
    number.value < 2 ^ 53 * 2 ^ most := by
  have short : (number.significand : ℚ) < 2 ^ 53 := by
    rw [← twoTo_cast]
    exact_mod_cast regular.short
  have exponentPositive := two_zpow_pos number.exponent
  have monotone : (2 : ℚ) ^ number.exponent <= 2 ^ most :=
    zpow_le_zpow_right₀ (by norm_num) atMost
  rw [value]
  nlinarith

/-- A number has no more than 309 digits before the point. -/
theorem Regular.wholeDigits_le (regular : number.Regular) : number.wholeDigits <= 309 := by
  have most : twoTo 53 * twoTo 971 < tenTo 309 := by decide +kernel
  refine Binary64.wholeDigits_le (by decide) ((regular.value_lt regular.highest).trans ?_)
  rw [← Nat.cast_lt (α := ℚ), Nat.cast_mul, twoTo_cast, twoTo_cast, tenTo_cast] at most
  rw [show maxExponent = ((971 : Nat) : Int) from rfl, zpow_natCast, zpow_natCast]
  exact most

/-- The grid with 324 digits behind the point is fine enough for every number. -/
theorem Regular.fine (regular : number.Regular) :
    (10 : ℚ) ^ (-324 : Int) <= 2 ^ (number.exponent - 1) := by
  have finest : twoTo 1075 <= tenTo 324 := by decide +kernel
  rw [← Nat.cast_le (α := ℚ), twoTo_cast, tenTo_cast] at finest
  have least : (2 : ℚ) ^ (-1075 : Int) <= 2 ^ (number.exponent - 1) := by
    refine zpow_le_zpow_right₀ (by norm_num) ?_
    have lowest := regular.lowest
    rw [minExponent] at lowest
    omega
  refine le_trans ?_ least
  rw [zpow_neg, zpow_neg]
  refine inv_anti₀ (two_zpow_pos 1075) ?_
  exact_mod_cast finest

/-- Every number has a decimal on a grid that the search reaches. -/
theorem Regular.exists_reached
    (regular : number.Regular)
    (positive : 0 < number.significand) :
    ∃ (digits : Nat) (exponent : Int), 0 < digits ∧ number.Reads (digits * 10 ^ exponent) ∧
      number.wholeDigits < exponent + 400 := by
  -- Large numbers have many digits before the point, but are whole.
  rcases Int.lt_or_le 0 number.exponent with large | small
  · have whole : (10 : ℚ) ^ (0 : Int) <= 2 ^ (number.exponent - 1) := by
      rw [zpow_zero]
      exact one_le_zpow₀ (by norm_num) (by omega)
    obtain ⟨digits, nonzero, reads⟩ := exists_reads positive whole
    have few := regular.wholeDigits_le
    exact ⟨digits, 0, nonzero, reads, by omega⟩
  · obtain ⟨digits, nonzero, reads⟩ := exists_reads positive regular.fine
    have few : number.wholeDigits <= 16 := by
      refine Binary64.wholeDigits_le (by decide) ((regular.value_lt small).trans ?_)
      norm_num
    exact ⟨digits, -324, nonzero, reads, by omega⟩

/-- The shortest decimal of a number is rounded to it. -/
theorem Regular.reads_shortest
    (regular : number.Regular)
    (positive : 0 < number.significand) :
    0 < number.shortest.digits ∧ number.Reads number.shortest.value := by
  obtain ⟨digits, exponent, nonzero, reads, reached⟩ := regular.exists_reached positive
  exact (shortest_spec positive nonzero reads reached).2

/-- Zero is its own shortest decimal. -/
theorem shortest_value_of_zero (zero : number.significand = 0) : number.shortest.value = 0 := by
  rw [shortest, if_pos zero, Scaled.value, Nat.cast_zero, zero_mul]

/-- A decimal of at most fifteen digits is the shortest one that is rounded to the number. -/
theorem shortest_eq_of_few
    (full : twoTo 52 <= number.significand)
    {digits : Nat}
    (nonzero : 0 < digits)
    (few : digits < tenTo 15)
    (reads : number.Reads (digits * 10 ^ exponent))
    (reached : number.wholeDigits < exponent + 400) :
    number.shortest.value = digits * 10 ^ exponent := by
  have positive : 0 < number.significand := Nat.lt_of_lt_of_le (twoTo_pos 52) full
  obtain ⟨coarse, -, found⟩ := shortest_spec positive nonzero reads reached
  obtain ⟨zeros, same⟩ := Int.eq_ofNat_of_zero_le (Int.sub_nonneg.mpr coarse)
  -- Both decimals are on the grid of the given one, and a step of it is too long for the interval.
  have onGrid : number.shortest.value =
      ((number.shortest.digits * tenTo zeros : Nat) : ℚ) * 10 ^ exponent := by
    have split : number.shortest.exponent = zeros + exponent := by omega
    rw [Scaled.value, split, zpow_add₀ (by norm_num), zpow_natCast, Nat.cast_mul, tenTo_cast]
    ring
  rw [onGrid] at found ⊢
  generalize number.shortest.digits * tenTo zeros = other at found ⊢
  have step := ten_zpow_pos exponent
  have quarter := two_zpow_pos (number.exponent - 2)
  have many : (4503599627370496 : ℚ) <= number.significand := by exact_mod_cast full
  have fewCast : (digits : ℚ) < 1000000000000000 := by exact_mod_cast few
  have low : (4 * number.significand - 2 : ℚ) * 2 ^ (number.exponent - 2) <= number.lower := by
    rw [lower]
    split <;> nlinarith
  have high : number.upper = (4 * number.significand + 2 : ℚ) * 2 ^ (number.exponent - 2) := rfl
  have apart {least most : Nat} (less : least < most)
      (leastReads : number.Reads (least * 10 ^ exponent))
      (mostReads : number.Reads (most * 10 ^ exponent)) : False := by
    have next : (least : ℚ) + 1 <= most := by exact_mod_cast less
    have above := low.trans leastReads.above
    have below := mostReads.below
    rw [high] at below
    have short : (10 : ℚ) ^ exponent <= 4 * 2 ^ (number.exponent - 2) := by nlinarith
    have reach := low.trans reads.above
    nlinarith
  rcases Nat.lt_trichotomy other digits with less | same | more
  · exact (apart less found reads).elim
  · rw [same]
  · exact (apart more reads found).elim

end Binary64
end Giro
