import Giro.Json.Number
import Giro.Proofs.Binary64.Shortest
import Giro.Proofs.Money.Grammar

/-!
# Numbers as they are written, taken for amounts

A binary number is written with the digits of its shortest decimal, and with an
exponent if it is very small or very large. Only a number without an exponent is taken
for an amount, and then for exactly what is written.
-/

namespace Giro

open Text (valueOfDigits digitsOf)

namespace Binary64

/-- The power of ten that the first digit counts. -/
def Scaled.leading (number : Scaled) : Int :=
  number.exponent + ((digitsOf number.digits).length - 1 : Nat)

/-- A decimal is between the power of its first digit and the next one. -/
theorem Scaled.value_bounds {number : Scaled} (positive : 0 < number.digits) :
    (10 : ℚ) ^ number.leading <= number.value ∧
      number.value < 10 ^ (number.leading + 1) := by
  have step := ten_zpow_pos number.exponent
  have long := Text.length_digitsOf_pos number.digits
  have least := Text.tenTo_length_digitsOf_le positive
  have most := Text.lt_tenTo_length_digitsOf number.digits
  rw [← Nat.cast_le (α := ℚ), tenTo_cast] at least
  rw [← Nat.cast_lt (α := ℚ), tenTo_cast] at most
  have next : number.leading + 1 = (digitsOf number.digits).length + number.exponent := by
    rw [leading]
    omega
  rw [next, leading, value, add_comm number.exponent, zpow_add₀ (by norm_num),
    zpow_add₀ (by norm_num), zpow_natCast, zpow_natCast]
  exact ⟨by gcongr, by gcongr⟩

/-- The digits before the point of a decimal, and those behind it. -/
def Scaled.whole (number : Scaled) : List Char :=
  if 0 <= number.exponent then
    digitsOf number.digits ++ List.replicate number.exponent.toNat '0'
  else
    let padded := (digitsOf number.digits).leftpad ((-number.exponent).toNat + 1) '0'
    padded.take (padded.length - (-number.exponent).toNat)

/-- The digits behind the point of a decimal, one at least. -/
def Scaled.fraction (number : Scaled) : List Char :=
  if 0 <= number.exponent then ['0']
  else
    let padded := (digitsOf number.digits).leftpad ((-number.exponent).toNat + 1) '0'
    padded.drop (padded.length - (-number.exponent).toNat)

/-- All digits of a decimal that is written with a point. -/
structure Scaled.Spelled (number : Scaled) : Prop where
  wholeSome : number.whole ≠ []
  fractionSome : number.fraction ≠ []
  areDigits : (number.whole ++ number.fraction).all Char.isDigit = true
  places : number.fraction.length = max 1 (-number.exponent).toNat
  length : (number.whole ++ number.fraction).length <=
    (digitsOf number.digits).length + number.exponent.natAbs + 1
  value_eq : (valueOfDigits (number.whole ++ number.fraction) : ℚ) /
    10 ^ number.fraction.length = number.value

theorem all_isDigit_replicate_zero (count : Nat) :
    (List.replicate count '0').all Char.isDigit = true := by
  rw [List.all_eq_true]
  intro character member
  rw [List.eq_of_mem_replicate member]
  rfl

theorem Scaled.spelled_of_natural {number : Scaled} (natural : 0 <= number.exponent) :
    number.Spelled := by
  have isDigit := Text.all_isDigit_digitsOf number.digits
  have long := Text.length_digitsOf_pos number.digits
  have whole : number.whole =
      digitsOf number.digits ++ List.replicate number.exponent.toNat '0' := if_pos natural
  have fraction : number.fraction = ['0'] := if_pos natural
  refine ⟨?wholeSome, ?fractionSome, ?areDigits, ?places, ?length, ?value⟩
  case wholeSome =>
    rw [whole]
    exact List.append_ne_nil_of_left_ne_nil (List.ne_nil_of_length_pos long) _
  case fractionSome =>
    rw [fraction]
    exact List.cons_ne_nil _ _
  case areDigits =>
    rw [whole, fraction, List.all_append, List.all_append, isDigit, all_isDigit_replicate_zero]
    rfl
  case places =>
    rw [fraction, List.length_singleton]
    omega
  case length =>
    rw [whole, fraction]
    simp only [List.length_append, List.length_replicate, List.length_singleton]
    omega
  case value =>
    have digit : Text.digitValue '0' = 0 := rfl
    rw [whole, fraction, Text.valueOfDigits_append, Text.valueOfDigits_append,
      Text.valueOfDigits_replicate_zero, Text.valueOfDigits_digitsOf, Text.valueOfDigits_singleton,
      digit, List.length_replicate, List.length_singleton]
    push_cast [tenTo_cast]
    have power : (10 : ℚ) ^ number.exponent = 10 ^ number.exponent.toNat := by
      rw [← zpow_natCast]
      congr 1
      omega
    rw [Scaled.value, power]
    ring

theorem Scaled.spelled_of_fractional {number : Scaled} (fractional : ¬ 0 <= number.exponent) :
    number.Spelled := by
  have isDigit := Text.all_isDigit_digitsOf number.digits
  have long := Text.length_digitsOf_pos number.digits
  have places : 0 < (-number.exponent).toNat := by omega
  generalize padded_eq :
    (digitsOf number.digits).leftpad ((-number.exponent).toNat + 1) '0' = padded
  have whole : number.whole = padded.take (padded.length - (-number.exponent).toNat) := by
    rw [← padded_eq]
    exact if_neg fractional
  have fraction : number.fraction = padded.drop (padded.length - (-number.exponent).toNat) := by
    rw [← padded_eq]
    exact if_neg fractional
  have together : number.whole ++ number.fraction = padded := by
    rw [whole, fraction, List.take_append_drop]
  have paddedLength : padded.length =
      max ((-number.exponent).toNat + 1) (digitsOf number.digits).length := by
    rw [← padded_eq, List.length_leftpad]
  have fractionLength : number.fraction.length = (-number.exponent).toNat := by
    rw [fraction, List.length_drop]
    omega
  refine ⟨?wholeSome, ?fractionSome, ?areDigits, ?places, ?length, ?value⟩
  case wholeSome =>
    refine List.ne_nil_of_length_pos ?_
    rw [whole, List.length_take]
    omega
  case fractionSome => exact List.ne_nil_of_length_pos (by omega)
  case areDigits =>
    rw [together, ← padded_eq, List.leftpad, List.all_append, isDigit, all_isDigit_replicate_zero]
    rfl
  case places => omega
  case length =>
    rw [together]
    omega
  case value =>
    have power : (10 : ℚ) ^ number.exponent = (10 ^ (-number.exponent).toNat)⁻¹ := by
      rw [← zpow_natCast, ← zpow_neg]
      congr 1
      omega
    rw [together, fractionLength, ← padded_eq, Text.valueOfDigits_leftpad,
      Text.valueOfDigits_digitsOf, Scaled.value, power, div_eq_mul_inv]

theorem Scaled.spelled (number : Scaled) : number.Spelled := by
  by_cases natural : 0 <= number.exponent
  · exact spelled_of_natural natural
  · exact spelled_of_fractional natural

/-- A decimal that is written with a point. -/
def Scaled.numeral (number : Scaled) : Decimal.Numeral where
  whole := number.whole
  fraction := number.fraction
  wholeSome := number.spelled.wholeSome
  wholeDigits := (Bool.and_eq_true_iff.mp (List.all_append ▸ number.spelled.areDigits)).1
  fractionDigits := (Bool.and_eq_true_iff.mp (List.all_append ▸ number.spelled.areDigits)).2

theorem Scaled.value_numeral (number : Scaled) : number.numeral.value = number.value :=
  number.spelled.value_eq

/-- The written form of a number that is neither very small nor very large. -/
theorem toNumberText_of_near
    {number : Binary64}
    (positive : 0 < number.shortest.digits)
    (near : -5 <= number.shortest.leading ∧ number.shortest.leading <= 15) :
    number.toNumberText = String.ofList number.shortest.numeral.chars := by
  obtain ⟨small, large⟩ := near
  have leading_eq : number.shortest.exponent +
      ((digitsOf number.shortest.digits).length - 1 : Nat) = number.shortest.leading := rfl
  have chars : number.shortest.numeral.chars =
      number.shortest.whole ++ '.' :: number.shortest.fraction :=
    congrArg (number.shortest.whole ++ ·) (if_neg number.shortest.spelled.fractionSome)
  rw [toNumberText, leading_eq, if_neg (Nat.pos_iff_ne_zero.mp positive), if_neg (by simp; omega),
    chars]
  by_cases natural : 0 <= number.shortest.exponent
  · rw [if_pos natural, Scaled.positional, if_pos natural, Scaled.whole, if_pos natural,
      Scaled.fraction, if_pos natural]
    exact String.ofList_append.symm
  · rw [if_neg natural, Scaled.positional, if_neg natural, Scaled.whole, if_neg natural,
      Scaled.fraction, if_neg natural]

/-- A very small or very large number is written with a mark. -/
theorem mark_mem_toNumberText
    {number : Binary64}
    (positive : 0 < number.shortest.digits)
    (far : number.shortest.leading < -5 ∨ 15 < number.shortest.leading) :
    'e' ∈ number.toNumberText.toList := by
  have leading_eq : number.shortest.exponent +
      ((digitsOf number.shortest.digits).length - 1 : Nat) = number.shortest.leading := rfl
  rw [toNumberText, leading_eq, if_neg (Nat.pos_iff_ne_zero.mp positive),
    if_pos (by simpa using far), Scaled.scientific]
  have marked (front back : String) (negative : Prop) [Decidable negative] :
      'e' ∈ (front ++ (if negative then "e-" else "e+") ++ back).toList := by
    rw [String.toList_append, String.toList_append]
    refine List.mem_append_left _ (List.mem_append_right _ ?_)
    split <;> decide
  exact marked _ _ _

/-- A number written without an exponent is an amount if it has few digits behind the point. -/
theorem parse_toNumberText_of_near
    {number : Binary64}
    (positive : 0 < number.shortest.digits)
    (near : -5 <= number.shortest.leading ∧ number.shortest.leading <= 15)
    (short : -4 <= number.shortest.exponent) :
    ∃ amount : Decimal, amount.value = number.shortest.value ∧
      Money.parse number.toNumberText = .ok amount := by
  have spelled := number.shortest.spelled
  have long := Text.length_digitsOf_pos number.shortest.digits
  have places := spelled.places
  have length := spelled.length
  have small := near.2
  rw [Scaled.leading] at small
  have few : (number.shortest.whole ++ number.shortest.fraction).length <= Decimal.maxScale := by
    rw [Decimal.maxScale]
    omega
  have shortFraction : number.shortest.numeral.fraction.length <= Money.storedDigits := by
    change number.shortest.fraction.length <= 4
    omega
  obtain ⟨amount, parsed, value⟩ := (Money.spells_chars number.shortest.numeral).value_of_fits
    shortFraction (Decimal.Numeral.digits_lt_capacity few)
  exact ⟨amount, value.trans (Scaled.value_numeral _),
    by rw [toNumberText_of_near positive near, parsed]⟩

/-- A number that is taken for an amount is neither very small nor very large. -/
theorem near_of_parse_toNumberText
    {number : Binary64}
    (positive : 0 < number.shortest.digits)
    {amount : Decimal}
    (parsed : Money.parse number.toNumberText = .ok amount) :
    -5 <= number.shortest.leading ∧ number.shortest.leading <= 15 := by
  by_contra far
  have mark := mark_mem_toNumberText positive (by omega)
  cases Money.isDigit_of_parse parsed mark rfl (by decide)

/-- A number that is taken for an amount is taken for its shortest decimal, digit by digit. -/
theorem value_of_parse_toNumberText
    {number : Binary64}
    {amount : Decimal}
    (parsed : Money.parse number.toNumberText = .ok amount) :
    amount.value = number.shortest.value := by
  rcases Nat.eq_zero_or_pos number.shortest.digits with zero | positive
  · have text : number.toNumberText = "0.0" := if_pos zero
    have zeroParsed : Money.parse "0.0" = .ok ⟨0, 1, by decide, by decide⟩ := by decide +kernel
    rw [text, zeroParsed] at parsed
    cases parsed
    simp [Decimal.value, Scaled.value, zero]
  · have near := near_of_parse_toNumberText positive parsed
    have spells := Money.spells_chars number.shortest.numeral
    have places : number.shortest.numeral.fraction.length =
        max 1 (-number.shortest.exponent).toNat := number.shortest.spelled.places
    by_cases long : Money.storedDigits < number.shortest.numeral.fraction.length
    · have counted : number.shortest.numeral.fraction.length < Money.countLimit := by
        have least := number.exponent_shortest_ge
        rw [places, Money.countLimit]
        omega
      rw [toNumberText_of_near positive near, spells.refused_of_long long counted] at parsed
      cases parsed
    · rw [places, Money.storedDigits] at long
      obtain ⟨taken, value, same⟩ := parse_toNumberText_of_near positive near (by omega)
      rw [same] at parsed
      cases parsed
      exact value

end Binary64

namespace Json.Number

/-- The number that is written. -/
def face : Number -> ℚ
  | natural value => value
  | negative size => -size
  | real isNegative size => if isNegative then -size.shortest.value else size.shortest.value

/-- A natural number as it is written. -/
def numeralOf (value : Nat) : Decimal.Numeral where
  whole := digitsOf value
  fraction := []
  wholeSome := List.ne_nil_of_length_pos (Text.length_digitsOf_pos value)
  wholeDigits := Text.all_isDigit_digitsOf value
  fractionDigits := rfl

/-- A natural number of 64 bits is an amount. -/
theorem parse_showNat {value : Nat} (small : value <= maxNatural) :
    ∃ amount : Decimal, amount.value = value ∧ Money.parse (Text.showNat value) = .ok amount := by
  have text : Text.showNat value = String.ofList (numeralOf value).chars := by
    simp [Text.showNat, Decimal.Numeral.chars, numeralOf]
  have digits : (numeralOf value).digits = value := by simp [Decimal.Numeral.digits, numeralOf]
  have fits : (numeralOf value).digits < Decimal.capacity := by
    rw [digits]
    exact lt_of_le_of_lt small (by decide)
  obtain ⟨amount, parsed, read⟩ :=
    (Money.spells_chars (numeralOf value)).value_of_fits (Nat.zero_le _) fits
  refine ⟨amount, ?_, text ▸ parsed⟩
  rw [read, Decimal.Numeral.value, digits]
  exact div_one _

/-- Whether a number is written with a sign. -/
def isSigned : Number -> Bool
  | natural _ => false
  | negative _ => true
  | real isNegative _ => isNegative

@[simp] theorem toText_real (size : Binary64) : (real false size).toText = size.toNumberText :=
  String.empty_append

/-- Nothing with a sign is an amount. -/
theorem isSigned_of_parse
    {number : Number}
    {amount : Decimal}
    (parsed : Money.parse number.toText = .ok amount) :
    number.isSigned = false := by
  have unsigned {text : String} (taken : Money.parse ("-" ++ text) = .ok amount) : False := by
    have member : '-' ∈ ("-" ++ text).toList := by
      rw [String.toList_append]
      exact List.mem_append_left _ (by decide)
    cases Money.isDigit_of_parse taken member rfl (by decide)
  cases number with
  | natural value => rfl
  | negative size => exact (unsigned parsed).elim
  | real isNegative size =>
      cases isNegative with
      | true => exact (unsigned parsed).elim
      | false => rfl

/-- A number that is taken for an amount is taken for what is written. -/
theorem value_of_parse
    {number : Number}
    (fits : ∀ value, number = natural value -> value <= maxNatural)
    {amount : Decimal}
    (parsed : Money.parse number.toText = .ok amount) :
    amount.value = number.face := by
  have unsigned := isSigned_of_parse parsed
  cases number with
  | negative size => cases unsigned
  | natural value =>
      obtain ⟨taken, value, same⟩ := parse_showNat (fits value rfl)
      cases same.symm.trans parsed
      exact value
  | real isNegative size =>
      obtain rfl : isNegative = false := unsigned
      rw [toText_real] at parsed
      exact size.value_of_parse_toNumberText parsed

end Json.Number
end Giro
