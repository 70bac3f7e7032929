import Giro.Json.Number
import Giro.Proofs.Binary64.Rounding

/-!
# Digits and a power of ten as a binary number

The digits are rounded to a binary number, so is the power of ten, and so is their
product or quotient. With few digits and a small power the first two are exact, and the
number is rounded only once. With any other power it still has about the size that is
written: large numbers stay large, and only what is next to nothing becomes zero.
-/

namespace Giro

namespace Binary64

variable {number : Binary64}

theorem two_zpow_lt_one {exponent : Int} (negative : exponent < 0) : (2 : ℚ) ^ exponent < 1 :=
  zpow_lt_one_of_neg₀ (by norm_num) negative

/-- The smallest number is next to nothing, and so are its multiples up to a hundred. -/
theorem least_lt_ten_zpow : (128 : ℚ) * 2 ^ minExponent < 10 ^ (-300 : Int) := by
  have bound : tenTo 300 < twoTo 1067 := by decide +kernel
  rw [← Nat.cast_lt (α := ℚ), tenTo_cast, twoTo_cast, ← zpow_natCast, ← zpow_natCast] at bound
  have inverse : (128 : ℚ) * 2 ^ minExponent = (2 ^ ((1067 : Nat) : Int))⁻¹ := by
    rw [← zpow_neg, show minExponent = -7 + -((1067 : Nat) : Int) from rfl,
      zpow_add₀ (by norm_num), ← mul_assoc]
    norm_num
  rw [inverse, show (-300 : Int) = -((300 : Nat) : Int) from rfl, zpow_neg]
  exact inv_strictAnti₀ (ten_zpow_pos _) bound

/-- A whole number is rounded to one of about its size, and never to zero. -/
theorem nearest?_whole
    {whole : Nat}
    (positive : 0 < whole)
    (found : nearest? whole 1 = some number) :
    0 < number.significand ∧ 2 * (whole : ℚ) <= 3 * number.value ∧ number.value <= 2 * whole := by
  obtain ⟨regular, reads⟩ := nearest?_spec positive Nat.one_pos found
  rw [Nat.cast_one, div_one] at reads
  have one : (1 : ℚ) <= whole := by exact_mod_cast positive
  have some := reads.significand_pos regular ((two_zpow_lt_one (by decide)).trans_le one)
  exact ⟨some, reads.le_value some, reads.value_le (zero_le_one.trans one)⟩

/-- So is a power of ten. -/
theorem tenTo?_near {power : Nat} (found : tenTo? power = some number) :
    0 < number.significand ∧ 2 * 10 ^ power <= 3 * number.value ∧
      number.value <= 2 * 10 ^ power := by
  rw [← tenTo_cast]
  exact nearest?_whole (tenTo_pos power) found

/-- A whole number of 53 bits is exact. -/
theorem nearest?_whole_exact
    {whole : Nat}
    (positive : 0 < whole)
    (short : whole < twoTo 53) :
    ∃ number, nearest? whole 1 = some number ∧ 0 < number.significand ∧ number.value = whole := by
  obtain ⟨number, found, value⟩ := nearest?_exact positive short (by decide : 0 <= 900)
  rw [show whole * twoTo 0 = whole from Nat.mul_one whole] at found
  refine ⟨number, found, (nearest?_whole positive found).1, ?_⟩
  rw [value, Nat.cast_zero, zpow_zero, mul_one]

/-- A small power of ten is exact: it is a power of five, followed by zeros. -/
theorem tenTo?_exact {power : Nat} (few : power <= 22) :
    ∃ ten, tenTo? power = some ten ∧ 0 < ten.significand ∧ ten.value = 10 ^ power := by
  have short : 5 ^ power < twoTo 53 :=
    (Nat.pow_le_pow_right (by decide) few).trans_lt (by decide)
  have split : 5 ^ power * twoTo power = tenTo power := (Nat.mul_pow 5 2 power).symm
  obtain ⟨ten, found, value⟩ :=
    nearest?_exact (Nat.pow_pos (by decide)) short (by omega : power <= 900)
  rw [split] at found
  refine ⟨ten, found, (tenTo?_near found).1, ?_⟩
  rw [value, zpow_natCast, Nat.cast_pow, ← mul_pow]
  norm_num

end Binary64

namespace Json.Number

open Binary64 (tenTo? nearest? minExponent)

variable {start number : Binary64} {steps power : Nat}

/-- One division, or several by the largest power. -/
theorem divideByTens_cases (found : divideByTens (steps + 1) start power = some number) :
    (power <= maxPower ∧ ∃ ten, tenTo? power = some ten ∧ start.div? ten = some number) ∨
      (maxPower < power ∧ start.significand = 0 ∧ number = start) ∨
      (maxPower < power ∧ 0 < start.significand ∧ ∃ ten smaller,
        tenTo? maxPower = some ten ∧ start.div? ten = some smaller ∧
          divideByTens steps smaller (power - maxPower) = some number) := by
  rw [divideByTens] at found
  by_cases single : power <= maxPower
  · rw [if_pos single] at found
    exact .inl ⟨single, Option.bind_eq_some_iff.mp found⟩
  · rw [if_neg single] at found
    by_cases zero : start.significand = 0
    · rw [if_pos zero] at found
      cases found
      exact .inr (.inl ⟨not_le.mp single, zero, rfl⟩)
    · rw [if_neg zero] at found
      obtain ⟨smaller, divided, found⟩ := Option.bind_eq_some_iff.mp found
      obtain ⟨ten, isTen, divided⟩ := Option.bind_eq_some_iff.mp divided
      exact .inr (.inr ⟨not_le.mp single, Nat.pos_iff_ne_zero.mpr zero, ten, smaller, isTen,
        divided, found⟩)

/-- A number divided by a power of ten has a regular form. -/
theorem divideByTens_regular
    (regular : start.Regular)
    (found : divideByTens steps start power = some number) :
    number.Regular := by
  have quotient {left ten : Binary64} {exponent : Nat} {result : Binary64}
      (isTen : tenTo? exponent = some ten)
      (divided : left.div? ten = some result) : result.Regular :=
    Binary64.nearest?_regular
      (Nat.mul_pos left.denominator_pos
        (Binary64.numerator_pos (Binary64.tenTo?_near isTen).1)) divided
  induction steps generalizing start power with
  | zero =>
      cases found
      exact ⟨by decide, by decide, by decide, .inr rfl⟩
  | succ steps ih =>
      rcases divideByTens_cases found with
        ⟨-, ten, isTen, divided⟩ | ⟨-, -, same⟩ | ⟨-, -, ten, smaller, isTen, divided, found⟩
      · exact quotient isTen divided
      · exact same ▸ regular
      · exact ih (quotient isTen divided) found

/-- A quotient by a rounded power of ten is at most three times the exact one. -/
theorem div?_tenTo_le
    {ten : Binary64}
    (isTen : tenTo? power = some ten)
    (divided : start.div? ten = some number) :
    number.value * 10 ^ power <= 3 * start.value := by
  obtain ⟨some, least, -⟩ := Binary64.tenTo?_near isTen
  have tenPositive := Binary64.value_pos some
  have bound := Binary64.div?_value_le some divided
  rw [← mul_div_assoc, le_div_iff₀ tenPositive] at bound
  have nonnegative := number.value_nonneg
  nlinarith

/-- A quotient by a rounded power of ten is a third of the exact one at least, if not zero. -/
theorem le_div?_tenTo
    {ten : Binary64}
    (isTen : tenTo? power = some ten)
    (divided : start.div? ten = some number)
    (startPositive : 0 < start.significand)
    (positive : 0 < number.significand) :
    start.value <= 3 * number.value * 10 ^ power := by
  obtain ⟨tenSome, -, most⟩ := Binary64.tenTo?_near isTen
  have bound := (Binary64.div?_reads startPositive tenSome divided).2.le_value positive
  rw [← mul_div_assoc, div_le_iff₀ (Binary64.value_pos tenSome)] at bound
  have nonnegative := number.value_nonneg
  nlinarith

/-- What vanishes by a division is next to nothing. -/
theorem div?_tenTo_vanishes
    {ten : Binary64}
    (isTen : tenTo? power = some ten)
    (divided : start.div? ten = some number)
    (startPositive : 0 < start.significand)
    (zero : number.significand = 0) :
    start.value <= 2 ^ minExponent * 10 ^ power := by
  obtain ⟨tenSome, -, most⟩ := Binary64.tenTo?_near isTen
  obtain ⟨regular, reads⟩ := Binary64.div?_reads startPositive tenSome divided
  have bound := (div_le_iff₀ (Binary64.value_pos tenSome)).mp (reads.le_of_zero regular zero)
  have half : (2 : ℚ) ^ minExponent = 2 * 2 ^ (minExponent - 1) := by
    rw [zpow_sub₀ (by norm_num)]
    ring
  have := two_zpow_pos (minExponent - 1)
  rw [half]
  nlinarith

/-- A number divided by a power of ten is not much larger than the quotient by a smaller power. -/
theorem divideByTens_le
    {least : Nat}
    (nonzero : 0 < least)
    (single : least <= maxPower)
    (more : least <= power)
    (found : divideByTens steps start power = some number) :
    number.value * 10 ^ least <= 3 * start.value := by
  induction steps generalizing start power least with
  | zero =>
      cases found
      rw [Binary64.value_of_zero rfl, zero_mul]
      exact mul_nonneg (by norm_num) start.value_nonneg
  | succ steps ih =>
      have monotone {many : Nat} (more : least <= many) : (10 : ℚ) ^ least <= 10 ^ many :=
        pow_le_pow_right₀ (by norm_num) more
      have nonnegative := number.value_nonneg
      rcases divideByTens_cases found with
        ⟨-, ten, isTen, divided⟩ | ⟨-, zero, same⟩ | ⟨large, -, ten, smaller, isTen, divided, found⟩
      · have bound := div?_tenTo_le isTen divided
        have := monotone more
        nlinarith
      · rw [same, Binary64.value_of_zero zero]
        norm_num
      · -- The divisions after the first make the number no larger.
        have bound := div?_tenTo_le isTen divided
        have shrinks := ih Nat.one_pos (by decide) (by omega : 1 <= power - maxPower) found
        have nonnegative := smaller.value_nonneg
        have power_le := monotone single
        generalize maxPower = largest at *
        calc
          number.value * 10 ^ least <= number.value * 10 ^ largest := by gcongr
          _ <= smaller.value * 10 ^ largest := by
            gcongr
            linarith
          _ <= 3 * start.value := bound

/-- Only what is next to nothing becomes zero by division. -/
theorem divideByTens_vanishes
    (positive : 0 < start.significand)
    (nonzero : 0 < power)
    (reached : power <= maxPower * steps)
    (found : divideByTens steps start power = some number)
    (zero : number.significand = 0) :
    start.value <= 3 ^ steps * 2 ^ minExponent * 10 ^ power := by
  have least := two_zpow_pos minExponent
  induction steps generalizing start power with
  | zero => omega
  | succ steps ih =>
      have tens : (0 : ℚ) < 10 ^ power := by positivity
      have more : (1 : ℚ) <= 3 ^ (steps + 1) := one_le_pow₀ (by norm_num)
      have atOnce {exponent : Nat} (fewer : exponent <= power)
          (bound : start.value <= 2 ^ minExponent * 10 ^ exponent) :
          start.value <= 3 ^ (steps + 1) * 2 ^ minExponent * 10 ^ power := by
        have monotone : (10 : ℚ) ^ exponent <= 10 ^ power :=
          pow_le_pow_right₀ (by norm_num) fewer
        calc
          start.value <= 2 ^ minExponent * 10 ^ power := bound.trans (by gcongr)
          _ <= 3 ^ (steps + 1) * 2 ^ minExponent * 10 ^ power := by
            have := mul_pos least tens
            nlinarith
      rcases divideByTens_cases found with
        ⟨-, ten, isTen, divided⟩ | ⟨-, startZero, -⟩ |
          ⟨large, -, ten, smaller, isTen, divided, found⟩
      · exact atOnce (Nat.le_refl _) (div?_tenTo_vanishes isTen divided positive zero)
      · omega
      · rcases Nat.eq_zero_or_pos smaller.significand with smallerZero | smallerPositive
        · exact atOnce large.le (div?_tenTo_vanishes isTen divided positive smallerZero)
        · have bound := le_div?_tenTo isTen divided positive smallerPositive
          rw [Nat.mul_succ] at reached
          have rest := ih smallerPositive (by omega) (by omega) found
          generalize maxPower = largest at *
          have split : (10 : ℚ) ^ power = 10 ^ (power - largest) * 10 ^ largest := by
            rw [← pow_add]
            congr 1
            omega
          calc
            start.value <= 3 * smaller.value * 10 ^ largest := bound
            _ <= 3 * (3 ^ steps * 2 ^ minExponent * 10 ^ (power - largest)) * 10 ^ largest := by
              gcongr
            _ = 3 ^ (steps + 1) * 2 ^ minExponent * 10 ^ power := by
              rw [split, pow_succ]
              ring

section Scale

variable {digits : Nat} {exponent : Int}

/-- The digits, and then a product or a quotient. -/
theorem scale?_cases (found : scale? digits exponent = some number) :
    ∃ whole, nearest? digits 1 = some whole ∧
      ((exponent < 0 ∧ divideByTens 4 whole exponent.natAbs = some number) ∨
        (0 <= exponent ∧ ∃ ten, tenTo? exponent.toNat = some ten ∧ whole.mul? ten = some number) ∨
        (maxPower < exponent ∧ whole.significand = 0 ∧ number = whole)) := by
  obtain ⟨whole, isWhole, found⟩ := Option.bind_eq_some_iff.mp found
  refine ⟨whole, isWhole, ?_⟩
  by_cases negative : exponent < 0
  · rw [if_pos negative] at found
    exact .inl ⟨negative, found⟩
  · rw [if_neg negative] at found
    by_cases single : exponent <= maxPower
    · rw [if_pos single] at found
      exact .inr (.inl ⟨not_lt.mp negative, Option.bind_eq_some_iff.mp found⟩)
    · rw [if_neg single] at found
      split at found
      · cases found
        exact .inr (.inr ⟨not_le.mp single, ‹_›, rfl⟩)
      · cases found

/-- Digits and a power of ten are a number of a regular form. -/
theorem scale?_regular (found : scale? digits exponent = some number) : number.Regular := by
  obtain ⟨whole, isWhole, cases⟩ := scale?_cases found
  have regular := Binary64.nearest?_regular Nat.one_pos isWhole
  rcases cases with ⟨-, divided⟩ | ⟨-, ten, -, product⟩ | ⟨-, -, same⟩
  · exact divideByTens_regular regular divided
  · exact Binary64.nearest?_regular (Nat.mul_pos whole.denominator_pos ten.denominator_pos) product
  · exact same ▸ regular

/-- Zeros only, whatever the power, are zero. -/
theorem scale?_zero (found : scale? 0 exponent = some number) : number.significand = 0 := by
  obtain ⟨whole, isWhole, cases⟩ := scale?_cases found
  have wholeZero : whole.significand = 0 := by
    cases isWhole
    rfl
  have ofValue (small : number.value <= 0) : number.significand = 0 :=
    Nat.eq_zero_of_not_pos fun positive =>
      absurd (Binary64.value_pos positive) (not_lt.mpr small)
  rcases cases with ⟨negative, divided⟩ | ⟨-, ten, -, product⟩ | ⟨-, -, same⟩
  · have bound := divideByTens_le Nat.one_pos (by decide) (by omega : 1 <= exponent.natAbs) divided
    rw [Binary64.value_of_zero wholeZero] at bound
    exact ofValue (by linarith)
  · have bound := Binary64.mul?_value_le product
    rw [Binary64.value_of_zero wholeZero, zero_mul, mul_zero] at bound
    exact ofValue bound
  · exact same ▸ wholeZero

/-- Digits and a power of ten that is not negative are a number of that size at least. -/
theorem le_scale?
    (nonzero : 0 < digits)
    (natural : 0 <= exponent)
    (found : scale? digits exponent = some number) :
    0 < number.significand ∧ 8 * (digits * 10 ^ exponent) <= 27 * number.value := by
  obtain ⟨whole, isWhole, cases⟩ := scale?_cases found
  obtain ⟨wholeSome, wholeLeast, -⟩ := Binary64.nearest?_whole nonzero isWhole
  rcases cases with ⟨negative, -⟩ | ⟨-, ten, isTen, product⟩ | ⟨-, wholeZero, -⟩
  · omega
  · obtain ⟨tenSome, tenLeast, -⟩ := Binary64.tenTo?_near isTen
    obtain ⟨regular, reads⟩ := Binary64.mul?_reads wholeSome tenSome product
    have power : (10 : ℚ) ^ exponent = 10 ^ exponent.toNat := by
      rw [← zpow_natCast, Int.toNat_of_nonneg natural]
    have least : 4 * (digits * 10 ^ exponent) <= 9 * (whole.value * ten.value) := by
      rw [power]
      have one : (1 : ℚ) <= 10 ^ exponent.toNat := one_le_pow₀ (by norm_num)
      have bound := mul_le_mul wholeLeast tenLeast (by positivity)
        (mul_nonneg (by norm_num) whole.value_nonneg)
      linarith
    have one : (1 : ℚ) <= digits * 10 ^ exponent := by
      rw [power]
      exact_mod_cast Nat.mul_pos nonzero (Nat.pow_pos (by decide))
    have tiny : (2 : ℚ) ^ (minExponent - 1) <= 2 ^ (-2 : Int) :=
      zpow_le_zpow_right₀ (by norm_num) (by decide)
    have large : (2 : ℚ) ^ (minExponent - 1) < whole.value * ten.value := by
      norm_num at tiny
      linarith
    have positive := reads.significand_pos regular large
    refine ⟨positive, ?_⟩
    have := reads.le_value positive
    linarith
  · omega

/-- Digits and a negative power of ten are a number of that size at most. -/
theorem scale?_le
    {least : Nat}
    (nonzero : 0 < least)
    (single : least <= maxPower)
    (small : exponent <= -least)
    (found : scale? digits exponent = some number) :
    number.value * 10 ^ least <= 6 * digits := by
  obtain ⟨whole, isWhole, cases⟩ := scale?_cases found
  have most := Binary64.value_of_nearest?_le Nat.one_pos isWhole
  rw [Nat.cast_one, div_one] at most
  rcases cases with ⟨-, divided⟩ | ⟨natural, -⟩ | ⟨large, -⟩
  · have bound := divideByTens_le nonzero single (by omega) divided
    linarith
  · omega
  · omega

/-- Digits and a power of ten as binary numbers, both of them exact and not too large. -/
structure Operands (digits power : Nat) (whole ten : Binary64) : Prop where
  isWhole : nearest? digits 1 = some whole
  isTen : tenTo? power = some ten
  wholeSome : 0 < whole.significand
  tenSome : 0 < ten.significand
  wholeValue : whole.value = digits
  tenValue : ten.value = 10 ^ power
  product : whole.value * ten.value < 2 ^ (200 : Int)
  quotient : whole.value / ten.value < 2 ^ (200 : Int)

theorem operands_of_few
    (nonzero : 0 < digits)
    (few : digits < tenTo 15)
    {power : Nat}
    (near : power <= 22) :
    ∃ whole ten, Operands digits power whole ten := by
  obtain ⟨whole, isWhole, wholeSome, wholeValue⟩ :=
    Binary64.nearest?_whole_exact nonzero (few.trans (by decide))
  obtain ⟨ten, isTen, tenSome, tenValue⟩ := Binary64.tenTo?_exact near
  have one : (1 : ℚ) <= 10 ^ power := one_le_pow₀ (by norm_num)
  have most : (10 : ℚ) ^ power <= 10 ^ 22 := pow_le_pow_right₀ (by norm_num) near
  have short : (digits : ℚ) < 10 ^ (15 : Int) := cast_lt_ten_zpow few
  have product : (digits * 10 ^ power : ℚ) < 2 ^ (200 : Int) := by
    refine (mul_le_mul short.le most (by positivity) (by positivity)).trans_lt ?_
    norm_num
  refine ⟨whole, ten, isWhole, isTen, wholeSome, tenSome, wholeValue, tenValue, ?product,
    ?quotient⟩
  case product => rwa [wholeValue, tenValue]
  case quotient =>
    rw [wholeValue, tenValue]
    exact ((div_le_self (Nat.cast_nonneg _) one).trans
      (le_mul_of_one_le_right (Nat.cast_nonneg _) one)).trans_lt product

/-- Few digits and a small power of ten are a number that is rounded once. -/
theorem scale?_of_few
    (nonzero : 0 < digits)
    (few : digits < tenTo 15)
    (near : -22 <= exponent ∧ exponent <= 22) :
    ∃ number, scale? digits exponent = some number ∧ number.Reads (digits * 10 ^ exponent) := by
  obtain ⟨whole, ten, operands⟩ := operands_of_few nonzero few (by omega : exponent.natAbs <= 22)
  have single : 22 <= maxPower := by decide
  have scaled : scale? digits exponent =
      if exponent < 0 then divideByTens 4 whole exponent.natAbs
      else if exponent <= maxPower then (tenTo? exponent.toNat).bind whole.mul?
      else if whole.significand = 0 then some whole
      else none := by
    rw [scale?, operands.isWhole]
    rfl
  rcases lt_or_ge exponent 0 with negative | natural
  · have ratio : (digits : ℚ) * 10 ^ exponent = whole.value / ten.value := by
      rw [operands.wholeValue, operands.tenValue, div_eq_mul_inv, ← zpow_natCast, ← zpow_neg]
      congr 2
      omega
    obtain ⟨number, divided⟩ :=
      Binary64.div?_of_small operands.wholeSome operands.tenSome (by decide) operands.quotient
    rw [scaled, if_pos negative, divideByTens, if_pos (by omega), operands.isTen, ratio]
    exact ⟨number, divided,
      (Binary64.div?_reads operands.wholeSome operands.tenSome divided).2⟩
  · have same : exponent.natAbs = exponent.toNat := by omega
    have ratio : (digits : ℚ) * 10 ^ exponent = whole.value * ten.value := by
      rw [operands.wholeValue, operands.tenValue, ← zpow_natCast]
      congr 2
      omega
    obtain ⟨number, multiplied⟩ :=
      Binary64.mul?_of_small operands.wholeSome operands.tenSome (by decide) operands.product
    rw [scaled, if_neg (not_lt.mpr natural), if_pos (by omega), ← same, operands.isTen, ratio]
    exact ⟨number, multiplied,
      (Binary64.mul?_reads operands.wholeSome operands.tenSome multiplied).2⟩

/-- Few digits become zero only together with a power of ten that leaves next to nothing. -/
theorem scale?_vanishes
    (nonzero : 0 < digits)
    (few : digits < tenTo 15)
    (found : scale? digits exponent = some number)
    (zero : number.significand = 0) :
    (digits * 10 ^ exponent : ℚ) < 10 ^ (-300 : Int) := by
  rcases le_or_gt 0 exponent with natural | negative
  · exact absurd (le_scale? nonzero natural found).1 (by omega)
  have digitsShort : (digits : ℚ) < 10 ^ (15 : Int) := cast_lt_ten_zpow few
  rcases lt_or_ge exponent (-1232) with beyond | reached
  · -- So small a power leaves next to nothing of any few digits.
    calc
      (digits * 10 ^ exponent : ℚ) < 10 ^ (15 : Int) * 10 ^ exponent := by
        have := ten_zpow_pos exponent
        gcongr
      _ = 10 ^ (15 + exponent) := (zpow_add₀ (by norm_num) _ _).symm
      _ <= 10 ^ (-300 : Int) := zpow_le_zpow_right₀ (by norm_num) (by omega)
  · obtain ⟨whole, isWhole, cases⟩ := scale?_cases found
    obtain ⟨wholeSome, wholeLeast, -⟩ := Binary64.nearest?_whole nonzero isWhole
    rcases cases with ⟨-, divided⟩ | ⟨natural, -⟩ | ⟨large, -⟩
    · have bound := divideByTens_vanishes wholeSome (by omega)
        (le_trans (by omega) (by decide : 1232 <= maxPower * 4)) divided zero
      have inverse : (10 : ℚ) ^ exponent.natAbs * 10 ^ exponent = 1 := by
        have cancels : (exponent.natAbs : Int) + exponent = 0 := by omega
        rw [← zpow_natCast, ← zpow_add₀ (by norm_num), cancels, zpow_zero]
      have step := ten_zpow_pos exponent
      have least := two_zpow_pos minExponent
      calc
        (digits * 10 ^ exponent : ℚ) <= 3 / 2 * whole.value * 10 ^ exponent := by
          gcongr
          linarith
        _ <= 3 / 2 * (3 ^ 4 * 2 ^ minExponent * 10 ^ exponent.natAbs) * 10 ^ exponent := by gcongr
        _ = 243 / 2 * 2 ^ minExponent * (10 ^ exponent.natAbs * 10 ^ exponent) := by ring
        _ <= 128 * 2 ^ minExponent := by
          rw [inverse]
          linarith
        _ < 10 ^ (-300 : Int) := Binary64.least_lt_ten_zpow
    · omega
    · omega

end Scale

end Json.Number
end Giro
