import Giro.Proofs.Json.Literal
import Giro.Proofs.Json.Scaling
import Giro.Proofs.Json.Spelling

/-!
# Amounts that are written as numbers

An amount that is written as a number, without quotes, is read as a number first, and
what is checked is the text that this number is written back to. A whole number is
taken for what it is, or refused. So is a number with a fraction or an exponent as long
as its digits, the point left out, are a number of at most fifteen digits, unless it is
next to nothing. With more digits it is taken for the shortest decimal of the binary
number that it is held as, which may have fewer digits than what was written.
-/

namespace Giro

open Text (valueOfDigits digitValue)

namespace Json

namespace Number

/-- Digits that fit are all taken. -/
theorem takeFitting_of_fits
    (value : Nat)
    (digits : List Char)
    (fits : value * tenTo digits.length + valueOfDigits digits <= maxNatural) :
    takeFitting value digits =
      (value * tenTo digits.length + valueOfDigits digits, digits.length) := by
  induction digits generalizing value with
  | nil => simp [takeFitting, tenTo]
  | cons digit rest ih =>
      have split : value * tenTo (digit :: rest).length + valueOfDigits (digit :: rest) =
          (10 * value + digitValue digit) * tenTo rest.length + valueOfDigits rest := by
        rw [Text.valueOfDigits_cons, List.length_cons, tenTo_succ]
        ring
      rw [split] at fits ⊢
      have next : 10 * value + digitValue digit <= maxNatural :=
        ((Nat.le_mul_of_pos_right _ (tenTo_pos _)).trans (Nat.le_add_right _ _)).trans fits
      rw [takeFitting]
      simp [not_lt.mpr next, ih _ fits]

/-- What is taken of digits: it fits, and if any are left, the next one would not fit. -/
structure Fitting (value : Nat) (digits : List Char) (total taken : Nat) : Prop where
  fits : total <= maxNatural
  few : taken <= digits.length
  all : taken = digits.length -> total = value * tenTo digits.length + valueOfDigits digits
  left : taken < digits.length -> maxNatural < 10 * total + 10

theorem fitting_takeFitting
    {value : Nat}
    (fits : value <= maxNatural)
    {digits : List Char}
    (areDigits : digits.all Char.isDigit = true) :
    Fitting value digits (takeFitting value digits).1 (takeFitting value digits).2 := by
  induction digits generalizing value with
  | nil => exact ⟨fits, Nat.le_refl _, fun _ => (Nat.mul_one value).symm, nofun⟩
  | cons digit rest ih =>
      simp only [List.all_cons, Bool.and_eq_true] at areDigits
      have small := Text.digitValue_lt areDigits.1
      rw [takeFitting]
      by_cases large : maxNatural < 10 * value + digitValue digit
      · simp only [large, if_true]
        exact ⟨fits, Nat.zero_le _, nofun, fun _ => by omega⟩
      · have taken := ih (not_lt.mp large) areDigits.2
        have split : (10 * value + digitValue digit) * tenTo rest.length + valueOfDigits rest =
            value * tenTo (digit :: rest).length + valueOfDigits (digit :: rest) := by
          rw [Text.valueOfDigits_cons, List.length_cons, tenTo_succ]
          ring
        simp only [large, if_false]
        exact ⟨taken.fits, Nat.succ_le_succ taken.few,
          fun every => (taken.all (Nat.succ.inj every)).trans split,
          fun some => taken.left (Nat.lt_of_succ_lt_succ some)⟩

end Number

namespace Literal

/-- Whether a literal is written without a fraction and without an exponent. -/
def IsWhole (literal : Literal) : Prop :=
  literal.fraction = [] ∧ literal.exponent? = none

variable {literal : Literal}

theorem IsWhole.power_eq (isWhole : literal.IsWhole) : literal.power = 0 := by
  rw [power, isWhole.1, isWhole.2]
  rfl

theorem value_of_unsigned (unsigned : literal.isNegative = false) :
    literal.value = literal.digits * 10 ^ literal.power := by
  rw [value, unsigned, if_neg Bool.false_ne_true, one_mul]

theorem IsWhole.value_eq
    (isWhole : literal.IsWhole)
    (unsigned : literal.isNegative = false) :
    literal.value = literal.digits := by
  rw [value_of_unsigned unsigned, isWhole.power_eq, zpow_zero, mul_one]

/-- The digits before the point are no more than all digits. -/
theorem valueOfDigits_whole_le (literal : Literal) :
    valueOfDigits literal.whole <= literal.digits := by
  rw [digits, Text.valueOfDigits_append]
  exact (Nat.le_mul_of_pos_right _ (tenTo_pos _)).trans (Nat.le_add_right _ _)

/-- The digits and the power of ten that are scaled for a literal. -/
structure Held (literal : Literal) (digits : Nat) (power : Int) : Prop where
  exact : literal.digits <= Number.maxNatural -> digits = literal.digits ∧ power = literal.power
  large : literal.IsWhole -> Number.maxNatural < 10 * digits + 10 ∧ 0 < power

/-- The value of the parts of a literal, with what is taken of its digits spelled out. -/
theorem parts_value?_eq (literal : Literal) :
    literal.parts.value? =
      let whole := Number.takeFitting 0 literal.whole
      let all := Number.takeFitting whole.1 literal.fraction
      let cut : Int := literal.whole.length - whole.2
      let exponent := literal.exponent?.map LiteralExponent.value
      if literal.fraction.isEmpty && exponent.isNone && cut = 0 then
        if !literal.isNegative then some (.natural whole.1)
        else if whole.1 = 0 || 0x8000000000000000 < whole.1 then
          (Number.scale? whole.1 0).map (.real true)
        else some (.negative whole.1)
      else (Number.scale? all.1 (cut - all.2 + exponent.getD 0)).map (.real literal.isNegative) :=
  rfl

/-- If all digits fit together, they are all taken. -/
theorem takeFitting_of_fits (fits : literal.digits <= Number.maxNatural) :
    Number.takeFitting 0 literal.whole = (valueOfDigits literal.whole, literal.whole.length) ∧
      Number.takeFitting (valueOfDigits literal.whole) literal.fraction =
        (literal.digits, literal.fraction.length) := by
  have whole := Number.takeFitting_of_fits 0 literal.whole
    (by rw [Nat.zero_mul, Nat.zero_add]; exact literal.valueOfDigits_whole_le.trans fits)
  rw [Nat.zero_mul, Nat.zero_add] at whole
  rw [digits, Text.valueOfDigits_append] at fits ⊢
  exact ⟨whole, Number.takeFitting_of_fits _ _ fits⟩

/-- What is scaled for a literal if it is not held as a whole number. -/
theorem held_of_not_whole
    (literal : Literal)
    (notWhole : literal.IsWhole ->
      (Number.takeFitting 0 literal.whole).2 ≠ literal.whole.length) :
    literal.Held
      (Number.takeFitting (Number.takeFitting 0 literal.whole).1 literal.fraction).1
      ((literal.whole.length : Int) - (Number.takeFitting 0 literal.whole).2 -
          (Number.takeFitting (Number.takeFitting 0 literal.whole).1 literal.fraction).2 +
        (literal.exponent?.map LiteralExponent.value).getD 0) := by
  have exponent_eq : (literal.exponent?.map LiteralExponent.value).getD 0 =
      literal.exponent?.elim 0 LiteralExponent.value := by cases literal.exponent? <;> rfl
  rw [exponent_eq]
  constructor
  case exact =>
    intro fits
    obtain ⟨whole, all⟩ := takeFitting_of_fits fits
    rw [whole, all, power]
    exact ⟨rfl, by ring⟩
  case large =>
    intro isWhole
    have taken := Number.fitting_takeFitting (Nat.zero_le _) literal.wholeDigits
    have some := lt_of_le_of_ne taken.few (notWhole isWhole)
    rw [isWhole.1, isWhole.2]
    refine ⟨taken.left some, ?_⟩
    simp only [Number.takeFitting, Option.elim_none]
    omega

/-- What a literal without a sign is worth if all its digits fit. -/
theorem value?_of_fits
    (unsigned : literal.isNegative = false)
    (fits : literal.digits <= Number.maxNatural) :
    (literal.IsWhole -> literal.parts.value? = some (.natural literal.digits)) ∧
      (¬ literal.IsWhole ->
        literal.parts.value? =
          (Number.scale? literal.digits literal.power).map (.real false)) := by
  obtain ⟨whole, all⟩ := takeFitting_of_fits fits
  have valued := literal.parts_value?_eq
  rw [unsigned, whole] at valued
  dsimp only at valued
  rw [all] at valued
  constructor
  · intro isWhole
    have digits_eq : valueOfDigits literal.whole = literal.digits := by
      rw [digits, isWhole.1, List.append_nil]
    rw [valued, if_pos (by simp [isWhole.1, isWhole.2]), digits_eq]
    rfl
  · intro notWhole
    obtain ⟨digits_eq, power_eq⟩ :=
      (literal.held_of_not_whole fun isWhole => absurd isWhole notWhole).exact fits
    rw [whole, all] at power_eq
    have parted : ¬ (literal.fraction.isEmpty &&
        (literal.exponent?.map LiteralExponent.value).isNone &&
          decide ((literal.whole.length : Int) - literal.whole.length = 0)) = true := by
      simpa [IsWhole] using notWhole
    rw [valued, if_neg parted, power_eq]

/-- What a literal is worth has its sign, and is either a whole number or scaled. -/
theorem value?_cases {number : Number} (valued : literal.parts.value? = some number) :
    number.isSigned = literal.isNegative ∧
      (number.isSigned = false ->
        (literal.IsWhole ∧ literal.digits <= Number.maxNatural ∧
            number = .natural literal.digits) ∨
          ∃ digits power size, literal.Held digits power ∧
            Number.scale? digits power = some size ∧ number = .real false size) := by
  have held := literal.held_of_not_whole
  have taken := Number.fitting_takeFitting (Nat.zero_le _) literal.wholeDigits
  rw [parts_value?_eq] at valued
  dsimp only at valued
  split at valued
  case isTrue every =>
    simp only [Bool.and_eq_true, List.isEmpty_iff, Option.isNone_iff_eq_none,
      Option.map_eq_none_iff, decide_eq_true_eq] at every
    obtain ⟨⟨noFraction, noExponent⟩, noCut⟩ := every
    have isWhole : literal.IsWhole := ⟨noFraction, noExponent⟩
    have few := taken.few
    have digits_eq : (Number.takeFitting 0 literal.whole).1 = literal.digits := by
      rw [taken.all (by omega), digits, noFraction, List.append_nil, Nat.zero_mul, Nat.zero_add]
    cases sign : literal.isNegative with
    | false =>
        rw [sign] at valued
        cases valued
        exact ⟨rfl, fun _ => .inl ⟨isWhole, digits_eq ▸ taken.fits, by rw [digits_eq]⟩⟩
    | true =>
        rw [sign] at valued
        simp only [Bool.not_true, Bool.false_eq_true, if_false] at valued
        split at valued
        · obtain ⟨size, -, rfl⟩ := Option.map_eq_some_iff.mp valued
          exact ⟨rfl, nofun⟩
        · cases valued
          exact ⟨rfl, nofun⟩
  case isFalse some =>
    obtain ⟨size, scaled, rfl⟩ := Option.map_eq_some_iff.mp valued
    refine ⟨rfl, fun unsigned => .inr ⟨_, _, size, held fun isWhole every => some ?_, scaled, ?_⟩⟩
    · simp [isWhole.1, isWhole.2, every]
    · have unsigned : literal.isNegative = false := unsigned
      rw [unsigned]

end Literal

end Json

open Json (Literal)

namespace Json.Number

variable {size : Binary64} {amount : Decimal}

/-- A number that is taken for an amount and is not zero has a moderate size. -/
theorem shortest_bounds_of_parse
    (regular : size.Regular)
    (positive : 0 < size.significand)
    (parsed : Money.parse size.toNumberText = .ok amount) :
    10 ^ (-5 : Int) <= size.shortest.value ∧ size.shortest.value < 10 ^ (16 : Int) := by
  obtain ⟨some, -⟩ := regular.reads_shortest positive
  obtain ⟨small, large⟩ := Binary64.near_of_parse_toNumberText some parsed
  obtain ⟨least, most⟩ := Binary64.Scaled.value_bounds some
  exact ⟨(zpow_le_zpow_right₀ (by norm_num) small).trans least,
    most.trans_le (zpow_le_zpow_right₀ (by norm_num) (by omega))⟩

variable {digits : Nat} {power : Int}

/-- A number that is written with a large power of ten is no amount. -/
theorem not_parse_of_large
    (natural : 0 <= power)
    (large : (10 : ℚ) ^ (18 : Int) <= digits * 10 ^ power)
    (scaled : scale? digits power = some size) :
    Money.parse size.toNumberText ≠ .ok amount := by
  intro parsed
  have nonzero : 0 < digits := by
    refine Nat.pos_iff_ne_zero.mpr fun zero => ?_
    rw [zero, Nat.cast_zero, zero_mul] at large
    norm_num at large
  obtain ⟨positive, least⟩ := le_scale? nonzero natural scaled
  have regular := scale?_regular scaled
  obtain ⟨some, reads⟩ := regular.reads_shortest positive
  have most := (shortest_bounds_of_parse regular positive parsed).2
  have nonnegative := (ten_zpow_pos _).le.trans (Binary64.Scaled.value_bounds some).1
  have near := reads.value_le nonnegative
  norm_num at large most
  linarith

/-- Few digits with a small power of ten are read by what they are held as, on a grid in reach. -/
theorem reads_of_few
    (nonzero : 0 < digits)
    (few : digits < tenTo 15)
    (near : -22 <= power ∧ power <= 22)
    (scaled : scale? digits power = some size) :
    twoTo 52 <= size.significand ∧ size.Reads (digits * 10 ^ power) ∧
      size.wholeDigits < power + 400 := by
  have regular := scale?_regular scaled
  obtain ⟨held, same, reads⟩ := scale?_of_few nonzero few near
  cases scaled.symm.trans same
  have one : (1 : ℚ) <= digits := by exact_mod_cast nonzero
  have short : (digits : ℚ) < 1000000000000000 := by exact_mod_cast few
  have low : (10 : ℚ) ^ (-22 : Int) <= 10 ^ power := zpow_le_zpow_right₀ (by norm_num) near.1
  have high : (10 : ℚ) ^ power <= 10 ^ (22 : Int) := zpow_le_zpow_right₀ (by norm_num) near.2
  have step := ten_zpow_pos power
  have least : (10 : ℚ) ^ (-22 : Int) <= digits * 10 ^ power := by nlinarith
  have most : (digits * 10 ^ power : ℚ) <= 1000000000000000 * 10 ^ (22 : Int) := by gcongr
  refine ⟨reads.full_of_le regular ?full, reads, ?reached⟩
  case full =>
    have bound : (2 : ℚ) ^ (Binary64.minExponent + 53) <= 2 ^ (-80 : Int) :=
      zpow_le_zpow_right₀ (by norm_num) (by decide)
    norm_num at bound least
    linarith
  case reached =>
    have whole : size.wholeDigits <= 38 := by
      refine Binary64.wholeDigits_le (by decide) ?_
      have bound := reads.value_le (by positivity)
      norm_num at bound most ⊢
      linarith
    omega

/-- Few digits with a small power of ten are the shortest decimal of what they are held as. -/
theorem shortest_of_few
    (nonzero : 0 < digits)
    (few : digits < tenTo 15)
    (near : -22 <= power ∧ power <= 22)
    (scaled : scale? digits power = some size) :
    size.shortest.value = digits * 10 ^ power := by
  obtain ⟨full, reads, reached⟩ := reads_of_few nonzero few near scaled
  exact Binary64.shortest_eq_of_few full nonzero few reads reached

/--
Few digits that are taken for an amount are taken for what is written, unless that is
next to nothing. With a large power of ten they are refused, and with a small one they
are refused too or held as zero.
-/
theorem value_of_parse_of_few
    (few : digits < tenTo 15)
    (scaled : scale? digits power = some size)
    (parsed : Money.parse size.toNumberText = .ok amount) :
    amount.value = digits * 10 ^ power ∨
      amount.value = 0 ∧ (digits * 10 ^ power : ℚ) < 10 ^ (-300 : Int) := by
  rw [Binary64.value_of_parse_toNumberText parsed]
  rcases Nat.eq_zero_or_pos digits with rfl | nonzero
  · rw [Binary64.shortest_value_of_zero (scale?_zero scaled), Nat.cast_zero, zero_mul]
    exact .inl rfl
  have one : (1 : ℚ) <= digits := by exact_mod_cast nonzero
  rcases lt_trichotomy power (-22) with small | edge | above
  · rcases Nat.eq_zero_or_pos size.significand with zero | positive
    · exact .inr ⟨Binary64.shortest_value_of_zero zero, scale?_vanishes nonzero few scaled zero⟩
    · -- The number is too small to be written without an exponent.
      have regular := scale?_regular scaled
      have bound := scale?_le (by decide : 0 < 23) (by decide) (by omega) scaled
      have near := (regular.reads_shortest positive).2.le_value positive
      have least := (shortest_bounds_of_parse regular positive parsed).1
      have short : (digits : ℚ) < 1000000000000000 := by exact_mod_cast few
      norm_num at bound least
      linarith
  · exact .inl (shortest_of_few nonzero few (by omega) scaled)
  · rcases le_or_gt power 22 with near | large
    · exact .inl (shortest_of_few nonzero few ⟨above.le, near⟩ scaled)
    · have most : (10 : ℚ) ^ (18 : Int) <= 10 ^ power :=
        zpow_le_zpow_right₀ (by norm_num) (by omega)
      have step := ten_zpow_pos power
      exact absurd parsed (not_parse_of_large (by omega) (by nlinarith) scaled)

/-- Few digits, no more than four of them behind the point, are an amount. -/
theorem parse_of_few
    (few : digits < tenTo 15)
    (near : -4 <= power ∧ power <= 0) :
    ∃ size amount, scale? digits power = some size ∧
      Money.parse size.toNumberText = .ok amount ∧ amount.value = digits * 10 ^ power := by
  rcases Nat.eq_zero_or_pos digits with rfl | nonzero
  · have scaled : scale? 0 power = some .zero := by
      obtain ⟨low, high⟩ := near
      interval_cases power <;> decide +kernel
    have parsed : Money.parse Binary64.zero.toNumberText = .ok ⟨0, 1, by decide, by decide⟩ := by
      decide +kernel
    refine ⟨_, _, scaled, parsed, ?_⟩
    rw [Binary64.value_of_parse_toNumberText parsed, Binary64.shortest_value_of_zero rfl,
      Nat.cast_zero, zero_mul]
  · have inner : -22 <= power ∧ power <= 22 := by omega
    obtain ⟨size, scaled, -⟩ := scale?_of_few nonzero few inner
    obtain ⟨full, reads, reached⟩ := reads_of_few nonzero few inner scaled
    have positive : 0 < size.significand := (twoTo_pos 52).trans_le full
    obtain ⟨coarse, some, -⟩ := Binary64.shortest_spec positive nonzero reads reached
    have value_eq := shortest_of_few nonzero few inner scaled
    -- The first digit counts no less than the last one, and no more than the fifteenth.
    obtain ⟨least, most⟩ := Binary64.Scaled.value_bounds some
    have step := ten_zpow_pos power
    have one : (1 : ℚ) <= digits := by exact_mod_cast nonzero
    have short : (digits : ℚ) < 10 ^ (15 : Int) := cast_lt_ten_zpow few
    have power_le : (10 : ℚ) ^ power <= 1 := zpow_le_one_of_nonpos₀ (by norm_num) near.2
    rw [value_eq] at least most
    have low : (10 : ℚ) ^ power < 10 ^ (size.shortest.leading + 1) :=
      (le_mul_of_one_le_left step.le one).trans_lt most
    have high : (10 : ℚ) ^ size.shortest.leading < 10 ^ (15 : Int) :=
      (least.trans (mul_le_of_le_one_right (Nat.cast_nonneg _) power_le)).trans_lt short
    have low := (zpow_lt_zpow_iff_right₀ (by norm_num)).mp low
    have high := (zpow_lt_zpow_iff_right₀ (by norm_num)).mp high
    obtain ⟨amount, value, parsed⟩ :=
      Binary64.parse_toNumberText_of_near some (by omega) (by omega)
    exact ⟨size, amount, scaled, parsed, value.trans value_eq⟩

end Json.Number

namespace AmountInput

open Json.Number (maxNatural)

variable {literal : Json.Literal} {input : AmountInput} {amount : Decimal}

/-- An accepted amount is parsed from the text that it is written back to. -/
theorem parse_of_amount (taken : input.amount = .ok amount) :
    Money.parse input.toText = .ok amount := by
  unfold AmountInput.amount at taken
  split at taken
  · rename_i parsed
    cases taken
    exact parsed
  · cases taken

/-- A literal that is read has a value, and is read as that. -/
theorem number_of_read (read : AmountInput.read literal.text = .ok input) :
    ∃ number, literal.parts.value? = some number ∧ input = .number number := by
  obtain ⟨valued, unvalued⟩ := read_literal literal
  cases value : literal.parts.value? with
  | none =>
      obtain ⟨fault, refused⟩ := unvalued value
      cases read.symm.trans refused
  | some number =>
      cases read.symm.trans (valued number value)
      exact ⟨number, rfl, rfl⟩

/-- Few digits, no more than four of them behind the point, are accepted as they are written. -/
theorem amount_of_short
    (unsigned : literal.isNegative = false)
    (noExponent : literal.exponent? = none)
    (few : literal.digits < tenTo 15)
    (short : literal.fraction.length <= Money.storedDigits) :
    ∃ input amount, AmountInput.read literal.text = .ok input ∧ input.amount = .ok amount ∧
      amount.value = literal.value := by
  obtain ⟨whole, parted⟩ := Json.Literal.value?_of_fits unsigned (few.le.trans (by decide))
  have accepted {number : Json.Number} {amount : Decimal}
      (valued : literal.parts.value? = some number)
      (parsed : Money.parse number.toText = .ok amount) :
      AmountInput.read literal.text = .ok (.number number) ∧
        (AmountInput.number number).amount = .ok amount := by
    refine ⟨(read_literal literal).1 number valued, ?_⟩
    rw [AmountInput.amount, toText, parsed]
  by_cases isWhole : literal.IsWhole
  · obtain ⟨amount, exact, parsed⟩ := Json.Number.parse_showNat (few.le.trans (by decide))
    obtain ⟨read, taken⟩ := accepted (whole isWhole) parsed
    exact ⟨_, amount, read, taken, exact.trans (isWhole.value_eq unsigned).symm⟩
  · have near : -4 <= literal.power ∧ literal.power <= 0 := by
      rw [Money.storedDigits] at short
      rw [Json.Literal.power, noExponent, Option.elim_none]
      omega
    obtain ⟨size, amount, scaled, parsed, exact⟩ := Json.Number.parse_of_few few near
    rw [← Json.Number.toText_real] at parsed
    obtain ⟨read, taken⟩ := accepted (by rw [parted isWhole, scaled, Option.map_some]) parsed
    exact ⟨_, amount, read, taken,
      exact.trans (Json.Literal.value_of_unsigned unsigned).symm⟩

/-- What is accepted of a literal, and how the literal is held. -/
structure Accepted
    (literal : Json.Literal)
    (input : AmountInput)
    (amount : Decimal)
    (number : Json.Number) : Prop where
  valued : literal.parts.value? = some number
  input_eq : input = .number number
  unsigned : literal.isNegative = false
  face : amount.value = number.face
  held :
    (literal.IsWhole ∧ number = .natural literal.digits) ∨
      ∃ digits power size, literal.Held digits power ∧
        Json.Number.scale? digits power = some size ∧ number = .real false size ∧
          Money.parse size.toNumberText = .ok amount

/-- An accepted literal has no sign, and what is taken is what its number is written back to. -/
theorem accepted_of_amount
    (read : AmountInput.read literal.text = .ok input)
    (taken : input.amount = .ok amount) :
    ∃ number, Accepted literal input amount number := by
  obtain ⟨number, valued, rfl⟩ := number_of_read read
  have parsed := parse_of_amount taken
  rw [show (AmountInput.number number).toText = number.toText from rfl] at parsed
  have unsigned := Json.Number.isSigned_of_parse parsed
  obtain ⟨sign, held⟩ := Json.Literal.value?_cases valued
  rw [unsigned] at sign
  rcases held unsigned with ⟨isWhole, small, rfl⟩ | ⟨digits, power, size, kept, scaled, rfl⟩
  · have fits (value : Nat) (same : .natural literal.digits = Json.Number.natural value) :
        value <= maxNatural := by
      cases same
      exact small
    exact ⟨_, valued, rfl, sign.symm, Json.Number.value_of_parse fits parsed, .inl ⟨isWhole, rfl⟩⟩
  · have face := Json.Number.value_of_parse (fun _ same => by cases same) parsed
    rw [Json.Number.toText_real] at parsed
    exact ⟨_, valued, rfl, sign.symm, face, .inr ⟨digits, power, size, kept, scaled, rfl, parsed⟩⟩

/-- A whole number that is accepted is taken as it is written. -/
theorem Accepted.value_of_whole
    {number : Json.Number}
    (accepted : Accepted literal input amount number)
    (isWhole : literal.IsWhole) :
    amount.value = literal.value := by
  rcases accepted.held with ⟨-, natural⟩ | ⟨digits, power, size, kept, scaled, -, parsed⟩
  · rw [accepted.face, natural, isWhole.value_eq accepted.unsigned]
    rfl
  · -- A whole number that is not held as one is so large that it is refused.
    obtain ⟨large, positive⟩ := kept.large isWhole
    have many : (10 : ℚ) ^ (18 : Int) <= digits := by
      have many : 10 ^ 18 <= digits := by
        rw [maxNatural] at large
        omega
      exact_mod_cast many
    have one : (1 : ℚ) <= 10 ^ power := one_le_zpow₀ (by norm_num) positive.le
    exact absurd parsed (Json.Number.not_parse_of_large positive.le
      (many.trans (le_mul_of_one_le_right (Nat.cast_nonneg digits) one)) scaled)

/-- Few digits that are accepted are taken as they are written, or for nothing. -/
theorem Accepted.value_of_few
    {number : Json.Number}
    (accepted : Accepted literal input amount number)
    (few : literal.digits < tenTo 15) :
    amount.value = literal.value ∨
      amount.value = 0 ∧ literal.value < 10 ^ (-300 : Int) := by
  rcases accepted.held with ⟨isWhole, -⟩ | ⟨digits, power, size, kept, scaled, -, parsed⟩
  · exact .inl (accepted.value_of_whole isWhole)
  · obtain ⟨rfl, rfl⟩ := kept.exact (few.le.trans (by decide))
    rw [Json.Literal.value_of_unsigned accepted.unsigned]
    exact Json.Number.value_of_parse_of_few few scaled parsed

/--
A number that is written in a text is one token there, whatever ends it. If it is taken
for an amount, the amount is what the number it is held as is written back to, and it
had no minus sign. That is the number that was written if it is a whole number, and if
its digits are a number of at most fifteen digits, unless that is next to nothing and
held as zero. Numbers of at most fifteen digits are accepted if they have no exponent
and no more than four digits behind the point.
-/
theorem literal_at_face_value (literal : Json.Literal) :
    (∀ rest, Json.Literal.EndsWith rest ->
      Json.Token.take (literal.text.toList.map some ++ rest) =
        some (.number literal.parts.value?, rest)) ∧
    (∀ input amount, AmountInput.read literal.text = .ok input -> input.amount = .ok amount ->
      literal.isNegative = false ∧
        (∃ number, literal.parts.value? = some number ∧ input = .number number ∧
          amount.value = number.face) ∧
        (literal.IsWhole -> amount.value = literal.value) ∧
        (literal.digits < tenTo 15 ->
          amount.value = literal.value ∨
            amount.value = 0 ∧ literal.value < 10 ^ (-300 : Int))) ∧
    (literal.isNegative = false -> literal.exponent? = none -> literal.digits < tenTo 15 ->
      literal.fraction.length <= Money.storedDigits ->
        ∃ input amount, AmountInput.read literal.text = .ok input ∧
          input.amount = .ok amount ∧ amount.value = literal.value) := by
  refine ⟨fun rest ends => Json.Token.take_literal literal ends,
    fun input amount read taken => ?_, amount_of_short⟩
  obtain ⟨number, accepted⟩ := accepted_of_amount read taken
  exact ⟨accepted.unsigned, ⟨number, accepted.valued, accepted.input_eq, accepted.face⟩,
    accepted.value_of_whole, accepted.value_of_few⟩

namespace Sample

/-- An amount with two digits behind the point. -/
def twoPlaces : Json.Literal where
  isNegative := false
  whole := ['1', '2']
  fraction := ['3', '4']
  exponent? := none
  wholeSome := by decide
  wholeDigits := by decide
  wholeShort := by decide
  fractionDigits := by decide

/-- An amount with so many digits behind the point that a binary number does not hold them. -/
def manyPlaces : Json.Literal where
  isNegative := false
  whole := ['1']
  fraction := List.replicate 15 '0' ++ ['1']
  exponent? := none
  wholeSome := by decide
  wholeDigits := by decide
  wholeShort := by decide
  fractionDigits := by decide

end Sample

/-- The amount with two places is held as a binary number, and accepted as it is written. -/
theorem literal_at_face_value_sample :
    ∃ size amount, Sample.twoPlaces.text = "12.34" ∧
      AmountInput.read Sample.twoPlaces.text = .ok (.number (.real false size)) ∧
      (AmountInput.number (.real false size)).amount = .ok amount ∧
      amount.value = Sample.twoPlaces.value := by
  have valued : Sample.twoPlaces.parts.value? =
      some (.real false ⟨6946802425218990, -49⟩) := by decide +kernel
  have read := (read_literal Sample.twoPlaces).1 _ valued
  have taken : (AmountInput.number (.real false ⟨6946802425218990, -49⟩)).amount =
      .ok ⟨1234, 2, by decide, by decide⟩ := by decide +kernel
  obtain ⟨-, -, -, exact⟩ := (literal_at_face_value Sample.twoPlaces).2.1 _ _ read taken
  refine ⟨_, _, by decide +kernel, read, taken, (exact (by decide +kernel)).resolve_right ?_⟩
  rintro ⟨zero, -⟩
  norm_num [Decimal.value] at zero

/--
The amount with many places is accepted as one, although the same digits are refused as a
text for being too many.
-/
theorem literal_changed_sample :
    Sample.manyPlaces.text = "1.0000000000000001" ∧
      (AmountInput.text "1.0000000000000001").amount = .error (.ofAmount (.precision 16)) ∧
      ∃ input amount, AmountInput.read Sample.manyPlaces.text = .ok input ∧
        input.amount = .ok amount ∧ amount.value = 1 ∧ amount.value ≠ Sample.manyPlaces.value := by
  have valued : Sample.manyPlaces.parts.value? =
      some (.real false ⟨4503599627370496, -52⟩) := by decide +kernel
  have read := (read_literal Sample.manyPlaces).1 _ valued
  have taken : (AmountInput.number (.real false ⟨4503599627370496, -52⟩)).amount =
      .ok ⟨10, 1, by decide, by decide⟩ := by decide +kernel
  have one : Decimal.value ⟨10, 1, by decide, by decide⟩ = 1 := by norm_num [Decimal.value]
  have digits : Sample.manyPlaces.digits = 10000000000000001 := by decide +kernel
  have power : Sample.manyPlaces.power = -16 := by decide +kernel
  have written : Sample.manyPlaces.value = 10000000000000001 / 10000000000000000 := by
    rw [Json.Literal.value, digits, power]
    norm_num [Sample.manyPlaces]
  refine ⟨by decide +kernel, by decide +kernel, _, _, read, taken, one, ?_⟩
  rw [one, written]
  norm_num

end AmountInput
end Giro
