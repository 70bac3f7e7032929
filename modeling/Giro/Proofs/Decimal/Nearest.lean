import Giro.Proofs.Decimal.Plain

/-!
# Digits that do not fit

Reading stops at the first digit behind the point that does not fit, and that digit alone
decides whether the last digit kept is raised. So what is read is off by half a step of its
own last digit at most, and a numeral is refused exactly if it is too large when rounded to a
whole number. What is read is the number that is written exactly if some decimal is that
number: of the digits that do not fit, only zeros can be left out.
-/

namespace Giro

namespace Text

/-- The number that digits behind a point write. -/
def fractionOf (digits : List Char) : ℚ :=
  valueOfDigits digits / 10 ^ digits.length

@[simp] theorem fractionOf_nil : fractionOf [] = 0 := by simp [fractionOf]

theorem fractionOf_cons (digit : Char) (rest : List Char) :
    10 * fractionOf (digit :: rest) = digitValue digit + fractionOf rest := by
  rw [fractionOf, fractionOf, valueOfDigits_cons, List.length_cons, pow_succ, Nat.cast_add,
    Nat.cast_mul, cast_tenTo]
  field_simp

theorem fractionOf_nonneg (digits : List Char) : 0 <= fractionOf digits := by
  rw [fractionOf]
  positivity

theorem fractionOf_lt_one {digits : List Char} (areDigits : digits.all Char.isDigit = true) :
    fractionOf digits < 1 := by
  rw [fractionOf, div_lt_one (by positivity), ← cast_tenTo, Nat.cast_lt]
  exact valueOfDigits_lt areDigits

/-- Whether digits behind a point are less than a half is told by the first of them. -/
theorem two_mul_fractionOf_lt_one_iff
    {digit : Char}
    {rest : List Char}
    (areDigits : (digit :: rest).all Char.isDigit = true) :
    2 * fractionOf (digit :: rest) < 1 ↔ digitValue digit < 5 := by
  simp only [List.all_cons, Bool.and_eq_true] at areDigits
  have tail := fractionOf_cons digit rest
  have nonneg := fractionOf_nonneg rest
  have below := fractionOf_lt_one areDigits.2
  constructor
  · intro less
    have : (digitValue digit : ℚ) < 5 := by linarith
    exact_mod_cast this
  · intro low
    have : (digitValue digit : ℚ) + 1 <= 5 := by exact_mod_cast low
    linarith

end Text

namespace Decimal

open Text (digitValue valueOfDigits fractionOf)

/-- Some decimal is this number. -/
def IsDecimal (number : ℚ) : Prop :=
  ∃ decimal : Decimal, decimal.value = number

/-- A decimal that is off by half a step of its last digit at most, and not where it need not be. -/
structure Nears (number : Decimal) (written : ℚ) : Prop where
  near : 2 * |number.value - written| <= 1 / 10 ^ number.scale
  exact : IsDecimal written -> number.value = written

/-- What becomes of a number that is written: it is refused exactly if it is too large. -/
inductive Settles (written : ℚ) : Except TextFault Decimal -> Prop
  | read {number : Decimal}
      (small : 2 * written + 1 < 2 * capacity)
      (nears : Nears number written) :
      Settles written (.ok number)
  | refused {fault : TextFault}
      (large : 2 * capacity <= 2 * written + 1) :
      Settles written (.error fault)

namespace Reading

variable {reading : Reading} {digit : Char} {rest : List Char}

/-- The number that is written if these digits follow behind the point. -/
def written (reading : Reading) (digits : List Char) : ℚ :=
  (reading.coefficient + fractionOf digits) / 10 ^ reading.scale

theorem written_nonneg (reading : Reading) (digits : List Char) : 0 <= reading.written digits :=
  div_nonneg (add_nonneg (Nat.cast_nonneg _) (Text.fractionOf_nonneg _)) (by positivity)

theorem written_mul (reading : Reading) (digits : List Char) :
    reading.written digits * 10 ^ reading.scale = reading.coefficient + fractionOf digits :=
  div_mul_cancel₀ _ (by positivity)

theorem written_le (reading : Reading) (digits : List Char) :
    reading.written digits <= reading.coefficient + fractionOf digits := by
  rw [← written_mul]
  exact le_mul_of_one_le_right (reading.written_nonneg digits) (one_le_pow₀ (by norm_num))

/-- A digit that is taken writes the same number as before. -/
theorem Behind.written_push (behind : reading.Behind false) (digit : Char) (rest : List Char) :
    (reading.push digit).written rest = reading.written (digit :: rest) := by
  have tail := Text.fractionOf_cons digit rest
  have coefficient : ((reading.push digit).coefficient : ℚ) =
      10 * reading.coefficient + digitValue digit := by
    simp [Reading.push]
  have scale : (reading.push digit).scale = reading.scale + 1 := by
    simp [Reading.push, behind.past]
  rw [written, written, coefficient, scale, pow_succ, div_eq_div_iff (by positivity) (by positivity)]
  linear_combination -(10 ^ reading.scale) * tail

theorem Behind.replace (behind : reading.Behind false) (coefficient scale : Nat) :
    { reading with coefficient := coefficient, scale := scale }.Behind false :=
  ⟨behind.seen, behind.sign, behind.past⟩

/-- A reading that ends within bounds, half a step away at most, settles what is written. -/
theorem Behind.settles_finish
    (behind : reading.Behind false)
    (fits : reading.coefficient < capacity)
    (scaleFits : reading.scale <= maxScale)
    {number : ℚ}
    (small : 2 * number + 1 < 2 * capacity)
    (lower : 2 * (reading.coefficient - number * 10 ^ reading.scale) <= 1)
    (upper : 2 * (number * 10 ^ reading.scale - reading.coefficient) <= 1)
    (exact : IsDecimal number -> reading.coefficient = number * 10 ^ reading.scale) :
    Settles number reading.finish := by
  obtain ⟨decimal, finished, coefficient, scale⟩ :=
    finish_of_fits behind.seen fits scaleFits
  have weight : (0 : ℚ) < 10 ^ reading.scale := by positivity
  have value : decimal.value = reading.coefficient / 10 ^ reading.scale := by
    rw [Decimal.value, coefficient, behind.sign, if_neg Bool.false_ne_true, scale, Int.cast_natCast]
  rw [finished]
  refine .read small ⟨?_, fun isDecimal => ?_⟩
  · have off : decimal.value - number =
        (reading.coefficient - number * 10 ^ reading.scale) / 10 ^ reading.scale := by
      rw [value]
      field_simp
    have near : |reading.coefficient - number * 10 ^ reading.scale| <= 1 / 2 :=
      abs_le.mpr ⟨by linarith, by linarith⟩
    rw [off, abs_div, abs_of_pos weight, scale, ← mul_div_assoc]
    exact div_le_div_of_nonneg_right (by linarith) weight.le
  · rw [value, exact isDecimal, mul_div_cancel_right₀ _ weight.ne']

/-- A reading that can take no more digits: it has as many behind the point as there may be,
or one more would make its coefficient too long. -/
def FullFor (reading : Reading) (digit : Char) : Prop :=
  maxScale <= reading.scale ∨ capacity <= (reading.push digit).coefficient

/-- If what is written is a decimal with no finer steps than the reading, only zeros are left. -/
theorem fractionOf_eq_zero_of_coarse
    {decimal : Decimal}
    {digits : List Char}
    (areDigits : digits.all Char.isDigit = true)
    (same : decimal.value = reading.written digits)
    (coarse : decimal.scale <= reading.scale) :
    fractionOf digits = 0 := by
  have nonneg := Text.fractionOf_nonneg digits
  have below := Text.fractionOf_lt_one areDigits
  -- What is left is a whole number of steps of the reading.
  have steps : fractionOf digits =
      (decimal.coefficient * 10 ^ (reading.scale - decimal.scale) - reading.coefficient : ℤ) := by
    have weight : (10 : ℚ) ^ decimal.scale ≠ 0 := by positivity
    have split : (10 : ℚ) ^ reading.scale =
        10 ^ (reading.scale - decimal.scale) * 10 ^ decimal.scale := by
      rw [← pow_add, Nat.sub_add_cancel coarse]
    rw [written, Decimal.value, div_eq_div_iff weight (by positivity), split] at same
    push_cast
    apply mul_right_cancel₀ weight
    linear_combination -same
  rw [steps] at nonneg below ⊢
  norm_cast at nonneg below ⊢
  omega

/-- If what is written is a decimal with finer steps than the reading, one more digit fits. -/
theorem coefficient_push_lt_of_fine
    {decimal : Decimal}
    (same : decimal.value = reading.written (digit :: rest))
    (fine : reading.scale < decimal.scale) :
    (reading.push digit).coefficient < capacity := by
  have tail := Text.fractionOf_cons digit rest
  have others := Text.fractionOf_nonneg rest
  have nonneg := Text.fractionOf_nonneg (digit :: rest)
  have fits : decimal.coefficient < capacity := by
    have := decimal.coefficientFits
    omega
  have whole : (decimal.coefficient : ℚ) =
      10 ^ (decimal.scale - reading.scale) * (reading.coefficient + fractionOf (digit :: rest)) := by
    have weight : (10 : ℚ) ^ reading.scale ≠ 0 := by positivity
    have split : (10 : ℚ) ^ decimal.scale =
        10 ^ reading.scale * 10 ^ (decimal.scale - reading.scale) := by
      rw [← pow_add, Nat.add_sub_cancel' fine.le]
    rw [written, Decimal.value, div_eq_div_iff (by positivity) weight, split] at same
    apply mul_right_cancel₀ weight
    linear_combination same
  have pushed : ((reading.push digit).coefficient : ℚ) < capacity := by
    calc
      ((reading.push digit).coefficient : ℚ) = 10 * reading.coefficient + digitValue digit := by
        simp [push]
      _ <= 10 * (reading.coefficient + fractionOf (digit :: rest)) := by linarith
      _ <= decimal.coefficient := by
        rw [whole]
        exact mul_le_mul_of_nonneg_right (le_self_pow₀ (by norm_num) (by omega)) (by positivity)
      _ < capacity := by exact_mod_cast fits
  exact_mod_cast pushed

/-- If what is written is a decimal although a digit does not fit, only zeros are left. -/
theorem fractionOf_eq_zero
    (full : reading.FullFor digit)
    (areDigits : (digit :: rest).all Char.isDigit = true)
    (isDecimal : IsDecimal (reading.written (digit :: rest))) :
    fractionOf (digit :: rest) = 0 := by
  obtain ⟨decimal, same⟩ := isDecimal
  have scaleFits : decimal.scale <= maxScale := decimal.scaleFits
  rcases le_or_gt decimal.scale reading.scale with coarse | fine
  · exact fractionOf_eq_zero_of_coarse areDigits same coarse
  · have long : capacity <= (reading.push digit).coefficient := full.resolve_left (by omega)
    exact absurd (coefficient_push_lt_of_fine same fine) (not_lt.mpr long)

/-- The last digit kept may have no successor of its length. Then it is dropped, and the one
before it raised. -/
theorem Behind.settles_carried
    (behind : reading.Behind false)
    (last : reading.coefficient + 1 = capacity)
    (scaleFits : reading.scale <= maxScale)
    (fractional : reading.scale ≠ 0)
    (high : 1 <= 2 * fractionOf (digit :: rest))
    (below : fractionOf (digit :: rest) < 1)
    (notDecimal : ¬ IsDecimal (reading.written (digit :: rest))) :
    Settles (reading.written (digit :: rest))
      { reading with
        coefficient := (reading.coefficient + 1 + 4) / 10
        scale := reading.scale - 1 }.finish := by
  have nonneg := reading.written_nonneg (digit :: rest)
  have lastCast : (reading.coefficient : ℚ) + 1 = capacity := by exact_mod_cast last
  have carried : (10 : ℚ) * ((reading.coefficient + 1 + 4) / 10 : Nat) = capacity + 4 := by
    rw [last]
    norm_num [capacity]
  have size : 10 * (reading.written (digit :: rest) * 10 ^ (reading.scale - 1)) =
      reading.coefficient + fractionOf (digit :: rest) := by
    have weight : (10 : ℚ) ^ reading.scale = 10 ^ (reading.scale - 1) * 10 := by
      rw [← pow_succ, Nat.sub_add_cancel (Nat.pos_of_ne_zero fractional)]
    rw [← written_mul, weight]
    ring
  have small : reading.written (digit :: rest) <=
      reading.written (digit :: rest) * 10 ^ (reading.scale - 1) :=
    le_mul_of_one_le_right nonneg (one_le_pow₀ (by norm_num))
  refine (behind.replace _ _).settles_finish ?_ ((Nat.sub_le _ _).trans scaleFits) ?_ ?_ ?_
    fun isDecimal => absurd isDecimal notDecimal
  · change (reading.coefficient + 1 + 4) / 10 < capacity
    rw [last]
    decide
  · linarith
  · linarith
  · linarith

/-- At the digit that does not fit, reading stops half a step away at most. -/
theorem Behind.settles_cutAt
    (behind : reading.Behind false)
    (fits : reading.coefficient < capacity)
    (scaleFits : reading.scale <= maxScale)
    (full : reading.FullFor digit)
    (areDigits : (digit :: rest).all Char.isDigit = true) :
    Settles (reading.written (digit :: rest)) (reading.cutAt digit) := by
  have idle := fractionOf_eq_zero full areDigits
  have size := reading.written_mul (digit :: rest)
  have bound := reading.written_le (digit :: rest)
  have nonneg := Text.fractionOf_nonneg (digit :: rest)
  have below := Text.fractionOf_lt_one areDigits
  have half := Text.two_mul_fractionOf_lt_one_iff areDigits
  have kept : (reading.coefficient : ℚ) + 1 <= capacity := by exact_mod_cast fits
  simp only [List.all_cons, Bool.and_eq_true] at areDigits
  rw [cutAt, if_pos areDigits.1]
  by_cases low : digitValue digit < 5
  · rw [if_pos low]
    have low := half.mpr low
    refine behind.settles_finish fits scaleFits ?_ ?_ ?_ fun isDecimal => ?_
    · linarith
    · linarith
    · linarith
    · rw [size, idle isDecimal, add_zero]
  · rw [if_neg low]
    have high : 1 <= 2 * fractionOf (digit :: rest) := not_lt.mp (half.not.mpr low)
    have notDecimal : ¬ IsDecimal (reading.written (digit :: rest)) := fun isDecimal => by
      rw [idle isDecimal] at high
      norm_num at high
    dsimp only
    split_ifs with single integral
    · have raised : (reading.coefficient : ℚ) + 1 + 1 <= capacity := by exact_mod_cast single
      refine (behind.replace _ _).settles_finish single scaleFits ?_ ?_ ?_
        fun isDecimal => absurd isDecimal notDecimal
      · linarith
      · push_cast
        linarith
      · push_cast
        linarith
    · have last : (reading.coefficient : ℚ) + 1 = capacity :=
        le_antisymm kept (by exact_mod_cast not_lt.mp single)
      rw [integral, pow_zero, mul_one] at size
      exact .refused (by linarith)
    · have last : reading.coefficient + 1 = capacity := by omega
      exact behind.settles_carried last scaleFits integral high below notDecimal

/-- Whatever digits follow behind the point, they settle what is read. -/
theorem Behind.settles_read
    {digits : List Char}
    (behind : reading.Behind false)
    (fits : reading.coefficient < capacity)
    (scaleFits : reading.scale <= maxScale)
    (areDigits : digits.all Char.isDigit = true) :
    Settles (reading.written digits) (reading.read digits) := by
  induction digits generalizing reading with
  | nil =>
      have size := reading.written_mul []
      have bound := reading.written_le []
      have kept : (reading.coefficient : ℚ) + 1 <= capacity := by exact_mod_cast fits
      rw [Text.fractionOf_nil, add_zero] at size bound
      refine behind.settles_finish fits scaleFits ?_ ?_ ?_ fun _ => size.symm
      · linarith
      · linarith
      · linarith
  | cons digit rest ih =>
      have both := areDigits
      simp only [List.all_cons, Bool.and_eq_true] at both
      rw [read, behind.past, Bool.true_and]
      by_cases full : maxScale <= reading.scale
      · rw [if_pos (decide_eq_true full)]
        exact behind.settles_cutAt fits scaleFits (.inl full) areDigits
      rw [if_neg (by simpa using full), if_pos both.1]
      by_cases long : (reading.push digit).coefficient < capacity
      · have scale : (reading.push digit).scale = reading.scale + 1 := by
          simp [Reading.push, behind.past]
        rw [if_pos long, ← behind.written_push]
        exact ih (behind.push digit) long (by omega) both.2
      · rw [if_neg long, if_pos rfl]
        exact behind.settles_cutAt fits scaleFits (.inr (not_lt.mp long)) areDigits

/-- Digits in front of the point are refused if they do not fit. -/
theorem read_of_long
    {digits : List Char}
    (before : reading.pastPoint = false)
    (areDigits : digits.all Char.isDigit = true)
    (fits : reading.coefficient < capacity)
    (long : capacity <= (reading.pushAll digits).coefficient)
    (rest : List Char) :
    reading.read (digits ++ rest) = .error .tooManyDigits := by
  induction digits generalizing reading with
  | nil => exact absurd fits (not_lt.mpr long)
  | cons digit others ih =>
      simp only [List.all_cons, Bool.and_eq_true] at areDigits
      rw [List.cons_append, read, before, Bool.false_and, if_neg Bool.false_ne_true,
        if_pos areDigits.1, if_neg Bool.false_ne_true]
      split_ifs with more
      · exact ih before areDigits.2 more long
      · rfl

end Reading

/-- A numeral is refused if it is too large, and is read as a decimal next to it otherwise. -/
theorem Numeral.settles (numeral : Numeral) : Settles numeral.value (ofChars numeral.chars) := by
  by_cases fits : valueOfDigits numeral.whole < capacity
  · obtain ⟨reading, behind, unscaled, whole, read⟩ := numeral.exists_behind false fits
    have written : reading.written numeral.fraction = numeral.value := by
      rw [Reading.written, value, digits_eq, unscaled, whole, fractionOf, pow_zero, div_one,
        Nat.cast_add, Nat.cast_mul, cast_tenTo]
      field_simp
    rw [ofChars_eq_read, ← written, show Reading.start.read _ = _ from read]
    exact behind.settles_read (whole ▸ fits) (unscaled ▸ Nat.zero_le _) numeral.fractionDigits
  · have refused (rest : List Char) :
        Reading.start.read (numeral.whole ++ rest) = .error .tooManyDigits := by
      refine Reading.read_of_long rfl numeral.wholeDigits (by decide) ?_ rest
      simpa [Reading.start] using not_lt.mp fits
    have large : (capacity : ℚ) <= numeral.value := by
      rw [value, le_div_iff₀ (by positivity), ← cast_tenTo]
      norm_cast
      rw [digits_eq]
      exact (Nat.mul_le_mul_right _ (not_lt.mp fits)).trans (Nat.le_add_right _ _)
    rw [ofChars_eq_read, chars, refused]
    exact .refused (by linarith)

/-- If all its digits fit, a numeral is a decimal. -/
theorem Numeral.isDecimal_of_fits
    {numeral : Numeral}
    (fits : numeral.digits < capacity)
    (few : numeral.fraction.length <= maxScale) :
    IsDecimal numeral.value := by
  obtain ⟨number, -, coefficient, scale⟩ := ofChars_of_fits fits few
  exact ⟨number, value_eq_of_same coefficient scale⟩

end Decimal
end Giro
