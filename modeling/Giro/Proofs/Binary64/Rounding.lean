import Giro.Binary64.Basic
import Giro.Proofs.Decimal.Exactness
import Mathlib.Tactic

/-!
# Ratios and the binary numbers they are rounded to

A ratio is rounded to the nearest binary number. So what is rounded to a number is an
interval: it reaches half of a step to both sides, a quarter downward where the steps
become smaller, and has its ends exactly if the significand is even.
-/

namespace Giro

/-- An integer power is a ratio of two natural ones. -/
theorem zpow_eq_div {base : ℚ} (nonzero : base ≠ 0) (exponent : Int) :
    base ^ exponent = base ^ exponent.toNat / base ^ (-exponent).toNat := by
  rw [eq_div_iff (pow_ne_zero _ nonzero), ← zpow_natCast, ← zpow_natCast, ← zpow_add₀ nonzero]
  congr 1
  omega

theorem twoTo_cast (exponent : Nat) : ((twoTo exponent : Nat) : ℚ) = 2 ^ exponent :=
  Nat.cast_pow 2 exponent

theorem tenTo_cast (exponent : Nat) : ((tenTo exponent : Nat) : ℚ) = 10 ^ exponent :=
  Nat.cast_pow 10 exponent

theorem twoTo_pos (exponent : Nat) : 0 < twoTo exponent :=
  Nat.pow_pos (by decide)

theorem two_zpow_pos (exponent : Int) : (0 : ℚ) < 2 ^ exponent :=
  zpow_pos (by norm_num) exponent

theorem ten_zpow_pos (exponent : Int) : (0 : ℚ) < 10 ^ exponent :=
  zpow_pos (by norm_num) exponent

theorem two_zpow_eq_quarters (exponent : Int) : (2 : ℚ) ^ exponent = 4 * 2 ^ (exponent - 2) := by
  rw [zpow_sub₀ (by norm_num)]
  ring

theorem two_zpow_sub_one (exponent : Int) : (2 : ℚ) ^ (exponent - 1) = 2 * 2 ^ (exponent - 2) := by
  rw [zpow_sub₀ (by norm_num), zpow_sub₀ (by norm_num)]
  ring

/-- A number of few digits is below the power of ten that has one digit more. -/
theorem cast_lt_ten_zpow {digits count : Nat} (few : digits < tenTo count) :
    (digits : ℚ) < 10 ^ (count : Int) := by
  rw [zpow_natCast, ← tenTo_cast]
  exact_mod_cast few

/-- A rounded quotient is off by half at most, and by less if it is odd. -/
theorem roundQuotient_toEven_bounds
    (numerator : Nat)
    {denominator : Nat}
    (positive : 0 < denominator) :
    let rounded := roundQuotient .toEven numerator denominator
    2 * numerator <= (2 * rounded + 1) * denominator ∧
      2 * rounded * denominator <= 2 * numerator + denominator ∧
      (rounded % 2 = 1 ->
        2 * numerator < (2 * rounded + 1) * denominator ∧
          2 * rounded * denominator < 2 * numerator + denominator) := by
  have split := Nat.div_add_mod numerator denominator
  have small := Nat.mod_lt numerator positive
  unfold roundQuotient
  dsimp only
  generalize numerator / denominator = quotient at *
  generalize numerator % denominator = remainder at *
  have product : (2 * quotient + 1) * denominator = 2 * (denominator * quotient) + denominator := by
    ring
  have next : 2 * (quotient + 1) * denominator =
      2 * (denominator * quotient) + 2 * denominator := by ring
  have product' : (2 * (quotient + 1) + 1) * denominator =
      2 * (denominator * quotient) + 3 * denominator := by ring
  have double : 2 * quotient * denominator = 2 * (denominator * quotient) := by ring
  split
  · rw [product, double]
    omega
  · split
    · rw [product', next]
      omega
    · split
      · rw [product, double]
        omega
      · rw [product', next]
        omega

namespace Binary64

/-- The number as a ratio. -/
def value (number : Binary64) : ℚ :=
  number.significand * 2 ^ number.exponent

/-- The form in which numbers are rounded to: as many digits as there are, down to the smallest. -/
structure Regular (number : Binary64) : Prop where
  short : number.significand < twoTo 53
  lowest : minExponent <= number.exponent
  highest : number.exponent <= maxExponent
  full : twoTo 52 <= number.significand ∨ number.exponent = minExponent

/-- The least ratio that may be rounded to the number. -/
def lower (number : Binary64) : ℚ :=
  (if number.significand = twoTo 52 ∧ minExponent < number.exponent then
      4 * (number.significand : ℚ) - 1
    else 4 * number.significand - 2) * 2 ^ (number.exponent - 2)

/-- The largest ratio that may be rounded to the number. -/
def upper (number : Binary64) : ℚ :=
  (4 * number.significand + 2) * 2 ^ (number.exponent - 2)

/-- Whether a ratio is rounded to the number. -/
structure Reads (number : Binary64) (ratio : ℚ) : Prop where
  above : number.lower <= ratio
  below : ratio <= number.upper
  odd : number.significand % 2 = 1 -> number.lower < ratio ∧ ratio < number.upper

theorem numerator_div_denominator (number : Binary64) :
    (number.numerator : ℚ) / number.denominator = number.value := by
  rw [numerator, denominator, value, zpow_eq_div (by norm_num), Nat.cast_mul, twoTo_cast,
    twoTo_cast, mul_div_assoc]

theorem denominator_pos (number : Binary64) : 0 < number.denominator :=
  twoTo_pos _

theorem value_nonneg (number : Binary64) : 0 <= number.value :=
  mul_nonneg (Nat.cast_nonneg _) (two_zpow_pos _).le

theorem value_eq_quarters (number : Binary64) :
    number.value = 4 * number.significand * 2 ^ (number.exponent - 2) := by
  rw [value, two_zpow_eq_quarters]
  ring

/-- The exponent of a ratio, or one less, if the exponents are not bounded. -/
def exponentGuess (numerator denominator : Nat) : Int :=
  (Nat.log2 numerator : Int) - Nat.log2 denominator - 53

theorem exponentFor_eq (numerator denominator : Nat) :
    exponentFor numerator denominator =
      let guess := exponentGuess numerator denominator
      let fits :=
        numerator * twoTo (-guess).toNat < twoTo 53 * denominator * twoTo guess.toNat
      max minExponent (if fits then guess else guess + 1) := rfl

/-- A ratio is between the powers of two that its terms are between. -/
theorem ratio_bounds
    {numerator denominator : Nat}
    (numeratorPositive : 0 < numerator)
    (denominatorPositive : 0 < denominator) :
    let guess := exponentGuess numerator denominator
    (2 : ℚ) ^ 52 * 2 ^ guess < numerator / denominator ∧
      (numerator / denominator : ℚ) < 2 ^ 53 * 2 ^ (guess + 1) := by
  intro guess
  have guess_eq : guess = (Nat.log2 numerator : Int) - Nat.log2 denominator - 53 := rfl
  clear_value guess
  have bounds {number : Nat} (positive : 0 < number) :
      (2 : ℚ) ^ (Nat.log2 number : Int) <= number ∧
        (number : ℚ) < 2 ^ ((Nat.log2 number : Int) + 1) := by
    constructor
    · rw [zpow_natCast]
      exact_mod_cast Nat.log2_self_le (Nat.pos_iff_ne_zero.mp positive)
    · rw [← Nat.cast_succ, zpow_natCast]
      exact_mod_cast Nat.lt_log2_self
  obtain ⟨numeratorLeast, numeratorMost⟩ := bounds numeratorPositive
  obtain ⟨denominatorLeast, denominatorMost⟩ := bounds denominatorPositive
  have castPositive : (0 : ℚ) < denominator := Nat.cast_pos.mpr denominatorPositive
  rw [lt_div_iff₀ castPositive, div_lt_iff₀ castPositive]
  constructor
  · calc
      (2 : ℚ) ^ 52 * 2 ^ guess * denominator
          < 2 ^ 52 * 2 ^ guess * 2 ^ ((Nat.log2 denominator : Int) + 1) := by
        have := two_zpow_pos guess
        gcongr
      _ = 2 ^ (Nat.log2 numerator : Int) := by
        rw [← zpow_natCast, ← zpow_add₀ (by norm_num), ← zpow_add₀ (by norm_num)]
        congr 1
        push_cast
        omega
      _ <= numerator := numeratorLeast
  · calc
      (numerator : ℚ) < 2 ^ ((Nat.log2 numerator : Int) + 1) := numeratorMost
      _ = 2 ^ 53 * 2 ^ (guess + 1) * 2 ^ (Nat.log2 denominator : Int) := by
        rw [← zpow_natCast, ← zpow_add₀ (by norm_num), ← zpow_add₀ (by norm_num)]
        congr 1
        push_cast
        omega
      _ <= 2 ^ 53 * 2 ^ (guess + 1) * denominator := by
        have := two_zpow_pos (guess + 1)
        gcongr

/-- Cross-multiplied natural numbers are compared like a ratio and a multiple of a power. -/
theorem mul_twoTo_lt_iff
    (numerator limit : Nat)
    {denominator : Nat}
    (positive : 0 < denominator)
    (exponent : Int) :
    numerator * twoTo (-exponent).toNat < limit * denominator * twoTo exponent.toNat ↔
      (numerator / denominator : ℚ) < limit * 2 ^ exponent := by
  have castPositive : (0 : ℚ) < denominator := Nat.cast_pos.mpr positive
  rw [← Nat.cast_lt (α := ℚ), zpow_eq_div (by norm_num), div_lt_iff₀ castPositive]
  push_cast
  rw [twoTo_cast, twoTo_cast, mul_div_assoc', div_mul_eq_mul_div, lt_div_iff₀ (by positivity),
    mul_right_comm (limit : ℚ)]

/-- At the exponent of a ratio, it has 53 bits before the point, or the exponent is the least. -/
theorem exponentFor_spec
    {numerator denominator : Nat}
    (numeratorPositive : 0 < numerator)
    (denominatorPositive : 0 < denominator) :
    let exponent := exponentFor numerator denominator
    minExponent <= exponent ∧
      (numerator / denominator : ℚ) < 2 ^ 53 * 2 ^ exponent ∧
      (exponent = minExponent ∨ (2 : ℚ) ^ 52 * 2 ^ exponent <= numerator / denominator) := by
  intro exponent
  obtain ⟨more, less⟩ := ratio_bounds numeratorPositive denominatorPositive
  have exponent_eq : exponent = _ := exponentFor_eq numerator denominator
  dsimp only at exponent_eq
  generalize exponentGuess numerator denominator = guess at more less exponent_eq
  have monotone {low high : Int} (ordered : low <= high) : (2 : ℚ) ^ low <= 2 ^ high :=
    zpow_le_zpow_right₀ (by norm_num) ordered
  have fits_iff := mul_twoTo_lt_iff numerator (twoTo 53) denominatorPositive guess
  rw [twoTo_cast] at fits_iff
  -- The exponent before it is kept from being too small.
  obtain ⟨free, clamped, atMost, atLeast⟩ : ∃ free : Int, exponent = max minExponent free ∧
      (numerator / denominator : ℚ) < 2 ^ 53 * 2 ^ free ∧
      (2 : ℚ) ^ 52 * 2 ^ free <= numerator / denominator := by
    by_cases fits :
        numerator * twoTo (-guess).toNat < twoTo 53 * denominator * twoTo guess.toNat
    · rw [if_pos fits] at exponent_eq
      exact ⟨guess, exponent_eq, fits_iff.mp fits, more.le⟩
    · rw [if_neg fits] at exponent_eq
      refine ⟨guess + 1, exponent_eq, less, ?_⟩
      rw [zpow_add₀ (by norm_num)]
      have := not_lt.mp (fits_iff.not.mp fits)
      linarith
  refine ⟨clamped ▸ le_max_left _ _, atMost.trans_le ?_, ?_⟩
  · rw [clamped]
    have := monotone (le_max_right minExponent free)
    gcongr
  · rw [clamped]
    rcases max_choice minExponent free with least | own
    · exact .inl least
    · exact .inr (by rwa [own])

/-- The significand of a ratio at an exponent is off by half at most, by less if it is odd. -/
theorem significand_bounds
    (numerator : Nat)
    {denominator : Nat}
    (positive : 0 < denominator)
    (exponent : Int) :
    let significand :=
      roundQuotient .toEven (numerator * twoTo (-exponent).toNat)
        (denominator * twoTo exponent.toNat)
    (4 * significand - 2 : ℚ) * 2 ^ (exponent - 2) <= numerator / denominator ∧
      (numerator / denominator : ℚ) <= (4 * significand + 2) * 2 ^ (exponent - 2) ∧
      (significand % 2 = 1 ->
        (4 * significand - 2 : ℚ) * 2 ^ (exponent - 2) < numerator / denominator ∧
          (numerator / denominator : ℚ) < (4 * significand + 2) * 2 ^ (exponent - 2)) := by
  intro significand
  obtain ⟨high, low, odd⟩ :=
    roundQuotient_toEven_bounds (numerator * twoTo (-exponent).toNat)
      (Nat.mul_pos positive (twoTo_pos exponent.toNat))
  have castPositive : (0 : ℚ) < denominator := Nat.cast_pos.mpr positive
  have down : (0 : ℚ) < 2 ^ (-exponent).toNat := by positivity
  have up : (0 : ℚ) < 2 ^ exponent.toNat := by positivity
  -- The ratio and the power as fractions with one denominator.
  have ratio_eq : (numerator / denominator : ℚ) =
      2 * (numerator * 2 ^ (-exponent).toNat) / (2 * denominator * 2 ^ (-exponent).toNat) := by
    field_simp
  have quarter_eq (quarters : ℚ) : (2 * quarters) * 2 ^ (exponent - 2) =
      quarters * (denominator * 2 ^ exponent.toNat) /
        (2 * denominator * 2 ^ (-exponent).toNat) := by
    rw [zpow_sub₀ (by norm_num), zpow_eq_div (by norm_num) exponent]
    field_simp
  have common : (0 : ℚ) < 2 * denominator * 2 ^ (-exponent).toNat := by positivity
  have lowEq : (4 * significand - 2 : ℚ) = 2 * (2 * significand - 1) := by ring
  have highEq : (4 * significand + 2 : ℚ) = 2 * (2 * significand + 1) := by ring
  rw [lowEq, highEq, quarter_eq, quarter_eq, ratio_eq, div_le_div_iff_of_pos_right common,
    div_le_div_iff_of_pos_right common, div_lt_div_iff_of_pos_right common,
    div_lt_div_iff_of_pos_right common]
  rw [← Nat.cast_le (α := ℚ)] at high low
  rw [← Nat.cast_lt (α := ℚ), ← Nat.cast_lt (α := ℚ)] at odd
  push_cast [twoTo_cast] at high low odd
  refine ⟨?_, ?_, fun isOdd => ?_⟩
  · linarith
  · linarith
  · obtain ⟨highOdd, lowOdd⟩ := odd isOdd
    constructor <;> linarith

/-- A ratio at its exponent, and the significand that it is rounded to there. -/
structure Rounded (ratio : ℚ) (significand : Nat) (exponent : Int) : Prop where
  least : minExponent <= exponent
  atMost : ratio < 2 ^ 53 * 2 ^ exponent
  atLeast : exponent = minExponent ∨ 2 ^ 52 * 2 ^ exponent <= ratio
  low : (4 * significand - 2 : ℚ) * 2 ^ (exponent - 2) <= ratio
  high : ratio <= (4 * significand + 2 : ℚ) * 2 ^ (exponent - 2)
  odd : significand % 2 = 1 ->
    (4 * significand - 2 : ℚ) * 2 ^ (exponent - 2) < ratio ∧
      ratio < (4 * significand + 2 : ℚ) * 2 ^ (exponent - 2)

theorem rounded_of_ratio
    {numerator denominator : Nat}
    (numeratorPositive : 0 < numerator)
    (denominatorPositive : 0 < denominator) :
    let exponent := exponentFor numerator denominator
    Rounded (numerator / denominator)
      (roundQuotient .toEven (numerator * twoTo (-exponent).toNat)
        (denominator * twoTo exponent.toNat))
      exponent := by
  intro exponent
  obtain ⟨least, atMost, atLeast⟩ := exponentFor_spec numeratorPositive denominatorPositive
  obtain ⟨low, high, odd⟩ := significand_bounds numerator denominatorPositive exponent
  exact ⟨least, atMost, atLeast, low, high, odd⟩

theorem twoTo_fiftyTwo : twoTo 52 = 4503599627370496 := rfl

theorem twoTo_fiftyThree : twoTo 53 = 9007199254740992 := rfl

namespace Rounded

variable {ratio : ℚ} {significand : Nat} {exponent : Int}

theorem significand_le (rounded : Rounded ratio significand exponent) :
    significand <= twoTo 53 := by
  have quarter := two_zpow_pos (exponent - 2)
  have bound := rounded.low.trans_lt rounded.atMost
  rw [two_zpow_eq_quarters exponent, ← mul_assoc] at bound
  have bound := lt_of_mul_lt_mul_right bound quarter.le
  have bound : (significand : ℚ) < 9007199254740993 := by linarith
  have bound : significand < 9007199254740993 := by exact_mod_cast bound
  rw [twoTo_fiftyThree]
  omega

theorem le_significand (rounded : Rounded ratio significand exponent) :
    twoTo 52 <= significand ∨ exponent = minExponent := by
  refine (rounded.atLeast.imp_right fun reached => ?_).symm
  have quarter := two_zpow_pos (exponent - 2)
  have bound := reached.trans rounded.high
  rw [two_zpow_eq_quarters exponent, ← mul_assoc] at bound
  have bound := le_of_mul_le_mul_right bound quarter
  have bound : (4503599627370495 : ℚ) < significand := by linarith
  have bound : 4503599627370495 < significand := by exact_mod_cast bound
  rw [twoTo_fiftyTwo]
  omega

/-- A significand that is short enough is the one of the number. -/
theorem spec_of_short
    (rounded : Rounded ratio significand exponent)
    (short : significand < twoTo 53)
    (finite : exponent <= maxExponent) :
    Regular ⟨significand, exponent⟩ ∧ Reads ⟨significand, exponent⟩ ratio := by
  refine ⟨⟨short, rounded.least, finite, rounded.le_significand⟩, ?above, rounded.high, ?odd⟩
  case above =>
    rw [lower]
    split
    · -- At a power of two, the ratio is no smaller than the number.
      rename_i edge
      have isEdge : significand = twoTo 52 := edge.1
      have reached := rounded.atLeast.resolve_left (ne_of_gt edge.2)
      have quarter := two_zpow_pos (exponent - 2)
      rw [two_zpow_eq_quarters] at reached
      rw [isEdge, twoTo_fiftyTwo]
      push_cast
      linarith
    · exact rounded.low
  case odd =>
    intro (isOdd : significand % 2 = 1)
    have inner : significand ≠ twoTo 52 := by
      rw [twoTo_fiftyTwo]
      omega
    rw [lower, if_neg (fun edge => inner edge.1)]
    exact rounded.odd isOdd

/-- A significand that is rounded up to one bit more is that of the next power of two. -/
theorem spec_of_carry
    (rounded : Rounded ratio (twoTo 53) exponent)
    (finite : exponent + 1 <= maxExponent) :
    Regular ⟨twoTo 52, exponent + 1⟩ ∧ Reads ⟨twoTo 52, exponent + 1⟩ ratio := by
  have least := rounded.least
  have inner : minExponent < exponent + 1 := by omega
  have quarter := two_zpow_pos (exponent - 2)
  have next : (2 : ℚ) ^ (exponent + 1 - 2) = 2 * 2 ^ (exponent - 2) := by
    rw [← two_zpow_sub_one]
    congr 1
    ring
  refine ⟨⟨show twoTo 52 < twoTo 53 by decide, inner.le, finite, .inl (Nat.le_refl _)⟩,
    ?above, ?below, fun isOdd => ?odd⟩
  case above =>
    have low := rounded.low
    rw [twoTo_fiftyThree] at low
    rw [lower, if_pos ⟨rfl, inner⟩, next, twoTo_fiftyTwo]
    push_cast at low ⊢
    linarith
  case below =>
    have atMost := rounded.atMost
    rw [two_zpow_eq_quarters] at atMost
    rw [upper, next, twoTo_fiftyTwo]
    push_cast
    linarith
  case odd =>
    have even : twoTo 52 % 2 = 0 := rfl
    exact absurd isOdd (by simp [even])

end Rounded

/-- What a positive ratio is rounded to reads it, and has a regular form. -/
theorem nearest?_spec
    {numerator denominator : Nat}
    (numeratorPositive : 0 < numerator)
    (denominatorPositive : 0 < denominator)
    {number : Binary64}
    (found : nearest? numerator denominator = some number) :
    number.Regular ∧ number.Reads (numerator / denominator) := by
  have rounded := rounded_of_ratio numeratorPositive denominatorPositive
  rw [nearest?, if_neg (Nat.pos_iff_ne_zero.mp numeratorPositive)] at found
  dsimp only at found rounded
  generalize exponentFor numerator denominator = exponent at *
  generalize roundQuotient .toEven (numerator * twoTo (-exponent).toNat)
    (denominator * twoTo exponent.toNat) = significand at *
  by_cases short : significand < twoTo 53
  · rw [if_pos short] at found
    split at found
    · cases found
    · cases found
      exact rounded.spec_of_short short (not_lt.mp ‹_›)
  · obtain rfl : significand = twoTo 53 := le_antisymm rounded.significand_le (not_lt.mp short)
    rw [if_neg short] at found
    split at found
    · cases found
    · cases found
      exact rounded.spec_of_carry (not_lt.mp ‹_›)

/-- A ratio that is not too large is rounded to its significand at its exponent. -/
theorem nearest?_of_small
    {numerator denominator : Nat}
    (numeratorPositive : 0 < numerator)
    (denominatorPositive : 0 < denominator)
    {limit : Int}
    (finite : limit <= 1000)
    (small : (numerator / denominator : ℚ) < 2 ^ limit) :
    ∃ number, nearest? numerator denominator = some number ∧
      number.value =
        roundQuotient .toEven
            (numerator * twoTo (-exponentFor numerator denominator).toNat)
            (denominator * twoTo (exponentFor numerator denominator).toNat) *
          2 ^ exponentFor numerator denominator := by
  have rounded := rounded_of_ratio numeratorPositive denominatorPositive
  rw [nearest?, if_neg (Nat.pos_iff_ne_zero.mp numeratorPositive)]
  dsimp only at rounded ⊢
  generalize exponentFor numerator denominator = exponent at *
  generalize roundQuotient .toEven (numerator * twoTo (-exponent).toNat)
    (denominator * twoTo exponent.toNat) = significand at *
  have finite : exponent + 1 <= maxExponent := by
    have least : minExponent + 1 <= maxExponent := by decide
    rcases rounded.atLeast with minimal | reached
    · omega
    · have bound := reached.trans_lt small
      rw [← zpow_natCast, ← zpow_add₀ (by norm_num)] at bound
      have bound := (zpow_lt_zpow_iff_right₀ (by norm_num)).mp bound
      rw [maxExponent]
      push_cast at bound
      omega
  by_cases short : significand < twoTo 53
  · rw [if_pos short]
    dsimp only
    exact ⟨_, if_neg (by omega), rfl⟩
  · obtain rfl : significand = twoTo 53 := le_antisymm rounded.significand_le (not_lt.mp short)
    rw [if_neg short]
    dsimp only
    refine ⟨_, if_neg (by omega), ?_⟩
    rw [value, zpow_add₀ (by norm_num), zpow_one, twoTo_fiftyTwo, twoTo_fiftyThree]
    push_cast
    ring

/-- The exponent of a ratio is the least that leaves 53 bits before the point. -/
theorem Rounded.exponent_le
    {ratio : ℚ}
    {significand : Nat}
    {exponent limit : Int}
    (rounded : Rounded ratio significand exponent)
    (reachable : minExponent <= limit)
    (atMost : ratio < 2 ^ 53 * 2 ^ limit) :
    exponent <= limit := by
  rcases rounded.atLeast with minimal | reached
  · exact minimal ▸ reachable
  · have bound := reached.trans_lt atMost
    rw [← zpow_natCast, ← zpow_natCast, ← zpow_add₀ (by norm_num), ← zpow_add₀ (by norm_num)]
      at bound
    have bound := (zpow_lt_zpow_iff_right₀ (by norm_num)).mp bound
    push_cast at bound
    omega

/-- At an exponent that is not above its zeros, a whole number is divided without a rest. -/
theorem mul_twoTo_of_le {zeros : Nat} {exponent : Int} (below : exponent <= zeros) (bits : Nat) :
    bits * twoTo zeros * twoTo (-exponent).toNat =
      bits * twoTo (zeros - exponent).toNat * (1 * twoTo exponent.toNat) := by
  have split : zeros + (-exponent).toNat = (zeros - exponent).toNat + exponent.toNat := by omega
  rw [one_mul, mul_assoc, mul_assoc]
  congr 1
  change 2 ^ zeros * 2 ^ (-exponent).toNat = 2 ^ (zeros - exponent).toNat * 2 ^ exponent.toNat
  rw [← pow_add, ← pow_add, split]

/-- A whole number with few bits before its zeros is not rounded. -/
theorem nearest?_exact
    {bits zeros : Nat}
    (positive : 0 < bits)
    (short : bits < twoTo 53)
    (few : zeros <= 900) :
    ∃ number, nearest? (bits * twoTo zeros) 1 = some number ∧
      number.value = bits * 2 ^ (zeros : Int) := by
  have wholePositive : 0 < bits * twoTo zeros := Nat.mul_pos positive (twoTo_pos zeros)
  have atMost : ((bits * twoTo zeros : Nat) / (1 : Nat) : ℚ) < 2 ^ 53 * 2 ^ (zeros : Int) := by
    have := two_zpow_pos zeros
    have bound : (bits : ℚ) < 2 ^ 53 := by
      rw [← twoTo_cast]
      exact_mod_cast short
    rw [Nat.cast_mul, twoTo_cast, Nat.cast_one, div_one, ← zpow_natCast]
    gcongr
  have small : ((bits * twoTo zeros : Nat) / (1 : Nat) : ℚ) < 2 ^ (53 + zeros : Int) := by
    rw [zpow_add₀ (by norm_num)]
    exact_mod_cast atMost
  obtain ⟨number, found, value⟩ :=
    nearest?_of_small wholePositive Nat.one_pos (by omega : (53 + zeros : Int) <= 1000) small
  have least : minExponent <= zeros := le_trans (by decide) (Int.natCast_nonneg zeros)
  have below := (rounded_of_ratio wholePositive Nat.one_pos).exponent_le least atMost
  refine ⟨number, found, ?_⟩
  rw [value, mul_twoTo_of_le below,
    roundQuotient_mul _ _ _ (Nat.mul_pos Nat.one_pos (twoTo_pos _)), Nat.cast_mul, twoTo_cast,
    ← zpow_natCast, mul_assoc, ← zpow_add₀ (by norm_num)]
  congr 2
  omega

/-- What is rounded to a number is at least half of it. -/
theorem Reads.value_le
    {number : Binary64}
    {ratio : ℚ}
    (reads : number.Reads ratio)
    (nonnegative : 0 <= ratio) :
    number.value <= 2 * ratio := by
  have quarter := two_zpow_pos (number.exponent - 2)
  rw [value_eq_quarters]
  rcases Nat.eq_zero_or_pos number.significand with zero | positive
  · rw [zero]
    push_cast
    linarith
  · have one : (1 : ℚ) <= number.significand := by exact_mod_cast positive
    have low : (4 * number.significand - 2 : ℚ) * 2 ^ (number.exponent - 2) <= number.lower := by
      rw [lower]
      split <;> nlinarith
    have := low.trans reads.above
    nlinarith

/-- What is rounded to a number that is not zero is at most one and a half of it. -/
theorem Reads.le_value
    {number : Binary64}
    {ratio : ℚ}
    (reads : number.Reads ratio)
    (positive : 0 < number.significand) :
    2 * ratio <= 3 * number.value := by
  have quarter := two_zpow_pos (number.exponent - 2)
  have one : (1 : ℚ) <= number.significand := by exact_mod_cast positive
  have high := reads.below
  rw [upper] at high
  rw [value_eq_quarters]
  nlinarith

/-- What is rounded to zero is at most half of the smallest number. -/
theorem Reads.le_of_zero
    {number : Binary64}
    {ratio : ℚ}
    (reads : number.Reads ratio)
    (regular : number.Regular)
    (zero : number.significand = 0) :
    ratio <= 2 ^ (minExponent - 1) := by
  have least : number.exponent = minExponent := by
    refine regular.full.resolve_left fun full => ?_
    rw [zero] at full
    exact absurd full (by decide)
  have below := reads.below
  rw [upper, zero, least] at below
  rw [two_zpow_sub_one]
  push_cast at below
  linarith

/-- A ratio that is not so small is not rounded to zero. -/
theorem Reads.significand_pos
    {number : Binary64}
    {ratio : ℚ}
    (reads : number.Reads ratio)
    (regular : number.Regular)
    (large : 2 ^ (minExponent - 1) < ratio) :
    0 < number.significand :=
  Nat.pos_iff_ne_zero.mpr fun zero => absurd large (not_lt.mpr (reads.le_of_zero regular zero))

/-- Only small ratios are rounded to numbers with fewer digits. -/
theorem Reads.full_of_le
    {number : Binary64}
    {ratio : ℚ}
    (reads : number.Reads ratio)
    (regular : number.Regular)
    (large : 2 ^ (minExponent + 53) <= ratio) :
    twoTo 52 <= number.significand := by
  refine regular.full.resolve_right fun least => ?_
  have quarter := two_zpow_pos (minExponent - 2)
  have short : (number.significand : ℚ) + 1 <= 9007199254740992 := by exact_mod_cast regular.short
  have reached : (2 : ℚ) ^ (minExponent + 53) = 2 ^ 55 * 2 ^ (minExponent - 2) := by
    rw [← zpow_natCast, ← zpow_add₀ (by norm_num)]
    congr 1
  have bound := large.trans reads.below
  rw [upper, least, reached] at bound
  nlinarith

/-- Rounding at most doubles a ratio. -/
theorem value_of_nearest?_le
    {numerator denominator : Nat}
    (denominatorPositive : 0 < denominator)
    {number : Binary64}
    (found : nearest? numerator denominator = some number) :
    number.value <= 2 * (numerator / denominator) := by
  rcases Nat.eq_zero_or_pos numerator with zero | positive
  · rw [nearest?, if_pos zero] at found
    cases found
    simp [value, Binary64.zero, zero]
  · exact (nearest?_spec positive denominatorPositive found).2.value_le (by positivity)

section Arithmetic

variable {left right number : Binary64}

theorem value_of_zero (zero : number.significand = 0) : number.value = 0 := by
  rw [value, zero, Nat.cast_zero, zero_mul]

theorem value_pos (positive : 0 < number.significand) : 0 < number.value :=
  mul_pos (Nat.cast_pos.mpr positive) (two_zpow_pos _)

theorem numerator_pos (positive : 0 < number.significand) : 0 < number.numerator :=
  Nat.mul_pos positive (twoTo_pos _)

/-- What a ratio is rounded to has a regular form. -/
theorem nearest?_regular
    {numerator denominator : Nat}
    (denominatorPositive : 0 < denominator)
    (found : nearest? numerator denominator = some number) :
    number.Regular := by
  rcases Nat.eq_zero_or_pos numerator with none | positive
  · rw [nearest?, if_pos none] at found
    cases found
    exact ⟨by decide, by decide, by decide, .inr rfl⟩
  · exact (nearest?_spec positive denominatorPositive found).1

theorem mul_eq_ratio (left right : Binary64) :
    ((left.numerator * right.numerator : Nat) / (left.denominator * right.denominator : Nat) : ℚ) =
      left.value * right.value := by
  rw [← numerator_div_denominator, ← numerator_div_denominator, Nat.cast_mul, Nat.cast_mul,
    mul_div_mul_comm]

theorem div_eq_ratio (left right : Binary64) :
    ((left.numerator * right.denominator : Nat) / (left.denominator * right.numerator : Nat) : ℚ) =
      left.value / right.value := by
  rw [← numerator_div_denominator, ← numerator_div_denominator, Nat.cast_mul, Nat.cast_mul,
    div_div_div_eq]

/-- A product is rounded to what reads it. -/
theorem mul?_reads
    (leftPositive : 0 < left.significand)
    (rightPositive : 0 < right.significand)
    (found : left.mul? right = some number) :
    number.Regular ∧ number.Reads (left.value * right.value) := by
  rw [← mul_eq_ratio]
  exact nearest?_spec (Nat.mul_pos (numerator_pos leftPositive) (numerator_pos rightPositive))
    (Nat.mul_pos left.denominator_pos right.denominator_pos) found

/-- A quotient is rounded to what reads it. -/
theorem div?_reads
    (leftPositive : 0 < left.significand)
    (rightPositive : 0 < right.significand)
    (found : left.div? right = some number) :
    number.Regular ∧ number.Reads (left.value / right.value) := by
  rw [← div_eq_ratio]
  exact nearest?_spec (Nat.mul_pos (numerator_pos leftPositive) right.denominator_pos)
    (Nat.mul_pos left.denominator_pos (numerator_pos rightPositive)) found

/-- A product that is not too large is rounded. -/
theorem mul?_of_small
    (leftPositive : 0 < left.significand)
    (rightPositive : 0 < right.significand)
    {limit : Int}
    (finite : limit <= 1000)
    (small : left.value * right.value < 2 ^ limit) :
    ∃ number, left.mul? right = some number := by
  rw [← mul_eq_ratio] at small
  obtain ⟨number, found, -⟩ :=
    nearest?_of_small (Nat.mul_pos (numerator_pos leftPositive) (numerator_pos rightPositive))
      (Nat.mul_pos left.denominator_pos right.denominator_pos) finite small
  exact ⟨number, found⟩

/-- A quotient that is not too large is rounded. -/
theorem div?_of_small
    (leftPositive : 0 < left.significand)
    (rightPositive : 0 < right.significand)
    {limit : Int}
    (finite : limit <= 1000)
    (small : left.value / right.value < 2 ^ limit) :
    ∃ number, left.div? right = some number := by
  rw [← div_eq_ratio] at small
  obtain ⟨number, found, -⟩ :=
    nearest?_of_small (Nat.mul_pos (numerator_pos leftPositive) right.denominator_pos)
      (Nat.mul_pos left.denominator_pos (numerator_pos rightPositive)) finite small
  exact ⟨number, found⟩

/-- A product is at most doubled. -/
theorem mul?_value_le (found : left.mul? right = some number) :
    number.value <= 2 * (left.value * right.value) := by
  rw [← mul_eq_ratio]
  exact value_of_nearest?_le (Nat.mul_pos left.denominator_pos right.denominator_pos) found

/-- A quotient is at most doubled. -/
theorem div?_value_le
    (rightPositive : 0 < right.significand)
    (found : left.div? right = some number) :
    number.value <= 2 * (left.value / right.value) := by
  rw [← div_eq_ratio]
  exact value_of_nearest?_le (Nat.mul_pos left.denominator_pos (numerator_pos rightPositive)) found

end Arithmetic

end Binary64
end Giro
