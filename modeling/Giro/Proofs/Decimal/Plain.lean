import Giro.Decimal.Text
import Giro.Proofs.Text.Digits

/-!
# Numbers in plain digits

A numeral is digits with or without a point among them. As long as all its digits fit, a
decimal is read from it digit by digit: the digits with the point left out are the
coefficient, and those behind the point are the scale.
-/

namespace Giro

open Text (valueOfDigits)

theorem cast_tenTo (exponent : Nat) : (tenTo exponent : ℚ) = 10 ^ exponent :=
  Nat.cast_pow 10 exponent

namespace Decimal

/-- The number as a ratio. -/
def value (number : Decimal) : ℚ :=
  number.coefficient / 10 ^ number.scale

theorem cast_units (number : Decimal) : (number.units : ℚ) = number.value * 10 ^ 28 := by
  rw [units, Int.cast_mul, Int.cast_natCast, cast_tenTo, value, div_mul_eq_mul_div,
    eq_div_iff (by positivity), mul_assoc, ← pow_add, Nat.sub_add_cancel number.scaleFits]

/-- Units are the same where numbers are. -/
theorem units_eq_iff_value_eq {left right : Decimal} :
    left.units = right.units ↔ left.value = right.value := by
  rw [← Int.cast_inj (α := ℚ), cast_units, cast_units]
  exact mul_left_inj' (by positivity)

namespace Reading

/-- The reading after some more digits. -/
def pushAll (reading : Reading) (digits : List Char) : Reading :=
  digits.foldl push reading

@[simp] theorem pushAll_nil (reading : Reading) : reading.pushAll [] = reading := rfl

theorem pushAll_cons (reading : Reading) (digit : Char) (rest : List Char) :
    reading.pushAll (digit :: rest) = (reading.push digit).pushAll rest :=
  List.foldl_cons ..

@[simp] theorem pastPoint_pushAll (reading : Reading) (digits : List Char) :
    (reading.pushAll digits).pastPoint = reading.pastPoint := by
  induction digits generalizing reading with
  | nil => rfl
  | cons digit rest ih => rw [pushAll_cons, ih]; rfl

@[simp] theorem negative_pushAll (reading : Reading) (digits : List Char) :
    (reading.pushAll digits).negative = reading.negative := by
  induction digits generalizing reading with
  | nil => rfl
  | cons digit rest ih => rw [pushAll_cons, ih]; rfl

@[simp] theorem coefficient_pushAll (reading : Reading) (digits : List Char) :
    (reading.pushAll digits).coefficient =
      reading.coefficient * tenTo digits.length + valueOfDigits digits := by
  induction digits generalizing reading with
  | nil => simp
  | cons digit rest ih =>
      rw [pushAll_cons, ih, Text.valueOfDigits_cons, List.length_cons, tenTo_succ]
      dsimp only [push]
      ring

theorem digitSeen_pushAll_of_seen
    {reading : Reading}
    (seen : reading.digitSeen = true)
    (digits : List Char) :
    (reading.pushAll digits).digitSeen = true := by
  induction digits generalizing reading with
  | nil => exact seen
  | cons digit rest ih => exact ih (rfl : (reading.push digit).digitSeen = true)

theorem digitSeen_pushAll (reading : Reading) {digits : List Char} (some : digits ≠ []) :
    (reading.pushAll digits).digitSeen = true := by
  cases digits with
  | nil => exact absurd rfl some
  | cons digit rest =>
      have seen : (reading.push digit).digitSeen = true := rfl
      exact digitSeen_pushAll_of_seen seen rest

theorem scale_pushAll_before
    {reading : Reading}
    (before : reading.pastPoint = false)
    (unscaled : reading.scale = 0)
    (digits : List Char) :
    (reading.pushAll digits).scale = 0 := by
  induction digits generalizing reading with
  | nil => exact unscaled
  | cons digit rest ih =>
      have stays : (reading.push digit).pastPoint = false := before
      exact ih stays (by simp [push, before])

theorem scale_pushAll_after
    {reading : Reading}
    (after : reading.pastPoint = true)
    (digits : List Char) :
    (reading.pushAll digits).scale = reading.scale + digits.length := by
  induction digits generalizing reading with
  | nil => rfl
  | cons digit rest ih =>
      have stays : (reading.push digit).pastPoint = true := after
      rw [pushAll_cons, ih stays, List.length_cons]
      simp only [push, after, if_true]
      omega

/-- Digits for which there is room are taken as they are. -/
theorem read_digits
    (reading : Reading)
    {digits : List Char}
    (areDigits : digits.all Char.isDigit = true)
    (rest : List Char)
    (fits : reading.coefficient * tenTo digits.length + valueOfDigits digits < capacity)
    (room : reading.pastPoint = true -> reading.scale + digits.length <= maxScale) :
    reading.read (digits ++ rest) = (reading.pushAll digits).read rest := by
  induction digits generalizing reading with
  | nil => rfl
  | cons digit others ih =>
      simp only [List.all_cons, Bool.and_eq_true] at areDigits
      rw [List.length_cons] at fits room
      have room' : (reading.pastPoint && decide (maxScale <= reading.scale)) = false := by
        cases past : reading.pastPoint with
        | false => rfl
        | true =>
            have := room past
            simp only [Bool.true_and, decide_eq_false_iff_not]
            omega
      have pushed : (reading.push digit).coefficient * tenTo others.length +
          valueOfDigits others < capacity := by
        have total := coefficient_pushAll reading (digit :: others)
        rw [pushAll_cons, coefficient_pushAll, List.length_cons] at total
        omega
      have here : (reading.push digit).coefficient < capacity :=
        lt_of_le_of_lt
          ((Nat.le_mul_of_pos_right _ (tenTo_pos _)).trans (Nat.le_add_right _ _)) pushed
      rw [List.cons_append, read, room', if_neg (by simp), if_pos areDigits.1, if_pos here]
      refine ih (reading.push digit) areDigits.2 pushed fun past => ?_
      have past : reading.pastPoint = true := past
      have := room past
      simp only [push, past, if_true]
      omega

end Reading

/-- What begins with a digit is read without a sign. -/
theorem ofChars_eq_read
    {whole : List Char}
    (some : whole ≠ [])
    (areDigits : whole.all Char.isDigit = true)
    (tail : List Char) :
    ofChars (whole ++ tail) = Reading.start.read (whole ++ tail) := by
  obtain ⟨digit, rest, rfl⟩ := List.exists_cons_of_ne_nil some
  simp only [List.all_cons, Bool.and_eq_true] at areDigits
  rw [List.cons_append]
  unfold ofChars
  split
  · rename_i same
    cases same
    cases areDigits.1
  · rename_i same
    cases same
    cases areDigits.1
  · rfl

/-- Decimals with the same coefficient and scale are the same. -/
theorem eq_of_same
    {left right : Decimal}
    (coefficient : left.coefficient = right.coefficient)
    (scale : left.scale = right.scale) :
    left = right := by
  obtain ⟨_, _, _, _⟩ := left
  obtain ⟨_, _, _, _⟩ := right
  obtain rfl := coefficient
  obtain rfl := scale
  rfl

/-- At the end of its digits, a reading is a number if it is within bounds. -/
theorem Reading.finish_of_fits
    {reading : Reading}
    (seen : reading.digitSeen = true)
    (fits : reading.coefficient < capacity)
    (scaleFits : reading.scale <= maxScale) :
    ∃ number, reading.finish = .ok number ∧
      number.coefficient =
        (if reading.negative then -(reading.coefficient : Int) else reading.coefficient) ∧
      number.scale = reading.scale := by
  rw [finish, seen]
  generalize signed : (if reading.negative then -(reading.coefficient : Int)
    else reading.coefficient) = coefficient
  have size : coefficient.natAbs < capacity := by
    rw [← signed]
    split
    · rwa [Int.natAbs_neg, Int.natAbs_natCast]
    · rwa [Int.natAbs_natCast]
  refine ⟨⟨coefficient, reading.scale, size, scaleFits⟩, ?_, rfl, rfl⟩
  have within : reading.scale <= 28 := scaleFits
  simp [make?, size, within]

theorem tenTo_maxScale_lt_capacity : tenTo maxScale < capacity := by decide

/-- So few digits fit. -/
theorem valueOfDigits_lt_capacity
    {digits : List Char}
    (areDigits : digits.all Char.isDigit = true)
    (few : digits.length <= maxScale) :
    valueOfDigits digits < capacity := by
  refine (Text.valueOfDigits_lt areDigits).trans_le (le_trans ?_ tenTo_maxScale_lt_capacity.le)
  exact Nat.pow_le_pow_right (by decide) few

/-- A number in plain digits: some in front of the point, and perhaps some behind it. -/
structure Numeral where
  whole : List Char
  fraction : List Char
  wholeSome : whole ≠ []
  wholeDigits : whole.all Char.isDigit = true
  fractionDigits : fraction.all Char.isDigit = true

namespace Numeral

/-- The numeral as it is written; without digits behind the point there is no point. -/
def chars (numeral : Numeral) : List Char :=
  numeral.whole ++ if numeral.fraction = [] then [] else '.' :: numeral.fraction

/-- The number that all digits write, with the point left out. -/
def digits (numeral : Numeral) : Nat :=
  valueOfDigits (numeral.whole ++ numeral.fraction)

/-- The number that is written. -/
def value (numeral : Numeral) : ℚ :=
  numeral.digits / 10 ^ numeral.fraction.length

/-- A decimal with the digits of a numeral, as many of them behind the point, is what it writes. -/
theorem value_eq_of_same
    {number : Decimal}
    {numeral : Numeral}
    (coefficient : number.coefficient = numeral.digits)
    (scale : number.scale = numeral.fraction.length) :
    number.value = numeral.value := by
  rw [Decimal.value, value, coefficient, scale, Int.cast_natCast]

theorem digits_eq (numeral : Numeral) :
    numeral.digits =
      valueOfDigits numeral.whole * tenTo numeral.fraction.length +
        valueOfDigits numeral.fraction :=
  Text.valueOfDigits_append ..

theorem valueOfDigits_whole_le (numeral : Numeral) :
    valueOfDigits numeral.whole <= numeral.digits := by
  rw [digits_eq]
  exact (Nat.le_mul_of_pos_right _ (tenTo_pos _)).trans (Nat.le_add_right _ _)

/-- So few digits fit. -/
theorem digits_lt_capacity
    {numeral : Numeral}
    (few : (numeral.whole ++ numeral.fraction).length <= maxScale) :
    numeral.digits < capacity := by
  refine valueOfDigits_lt_capacity ?_ few
  rw [List.all_append, numeral.wholeDigits, numeral.fractionDigits]
  rfl

end Numeral

/-- A reading that is past the point, of a number with or without a minus. -/
structure Reading.Behind (reading : Reading) (negative : Bool) : Prop where
  seen : reading.digitSeen = true
  sign : reading.negative = negative
  past : reading.pastPoint = true

section Behind

variable {reading : Reading} {negative : Bool}

theorem Reading.Behind.push (behind : reading.Behind negative) (digit : Char) :
    (reading.push digit).Behind negative :=
  ⟨rfl, behind.sign, behind.past⟩

theorem Reading.Behind.pushAll (behind : reading.Behind negative) (digits : List Char) :
    (reading.pushAll digits).Behind negative where
  seen := digitSeen_pushAll_of_seen behind.seen digits
  sign := (negative_pushAll ..).trans behind.sign
  past := (pastPoint_pushAll ..).trans behind.past

end Behind

namespace Numeral

/-- A numeral is read without a sign. -/
theorem ofChars_eq_read (numeral : Numeral) :
    ofChars numeral.chars = Reading.start.read numeral.chars :=
  Decimal.ofChars_eq_read numeral.wholeSome numeral.wholeDigits _

/--
If the digits in front of the point fit, they are taken, and the others are left to be read,
whether or not there has been a minus.
-/
theorem exists_behind
    (numeral : Numeral)
    (negative : Bool)
    (fits : valueOfDigits numeral.whole < capacity) :
    ∃ reading : Reading, reading.Behind negative ∧ reading.scale = 0 ∧
      reading.coefficient = valueOfDigits numeral.whole ∧
      { Reading.start with negative := negative }.read numeral.chars =
        reading.read numeral.fraction := by
  let start : Reading := { Reading.start with negative := negative }
  have unscaled : (start.pushAll numeral.whole).scale = 0 :=
    Reading.scale_pushAll_before rfl rfl _
  have coefficient : (start.pushAll numeral.whole).coefficient = valueOfDigits numeral.whole := by
    simp [start, Reading.start]
  have read := Reading.read_digits start numeral.wholeDigits
    (if numeral.fraction = [] then [] else '.' :: numeral.fraction)
    (by simpa [start, Reading.start] using fits) nofun
  refine ⟨{ start.pushAll numeral.whole with pastPoint := true },
    ⟨Reading.digitSeen_pushAll _ numeral.wholeSome, Reading.negative_pushAll .., rfl⟩,
    unscaled, coefficient, ?_⟩
  rw [chars, read]
  split_ifs with integral
  · rw [integral]
    rfl
  · rw [Reading.read]
    simp [start, Reading.start]

/-- A numeral is read digit by digit if all its digits fit. -/
theorem read_of_fits
    {numeral : Numeral}
    (negative : Bool)
    (fits : numeral.digits < capacity)
    (few : numeral.fraction.length <= maxScale) :
    ∃ number, { Reading.start with negative := negative }.read numeral.chars = .ok number ∧
      number.coefficient = (if negative then -(numeral.digits : Int) else numeral.digits) ∧
      number.scale = numeral.fraction.length := by
  obtain ⟨reading, behind, unscaled, whole, read⟩ :=
    numeral.exists_behind negative (numeral.valueOfDigits_whole_le.trans_lt fits)
  rw [digits_eq, ← whole] at fits ⊢
  have taken := Reading.read_digits reading numeral.fractionDigits [] fits
    (fun _ => by rwa [unscaled, Nat.zero_add])
  have scale : (reading.pushAll numeral.fraction).scale = numeral.fraction.length := by
    rw [Reading.scale_pushAll_after behind.past, unscaled, Nat.zero_add]
  have all := behind.pushAll numeral.fraction
  rw [List.append_nil] at taken
  rw [← Reading.coefficient_pushAll] at fits ⊢
  rw [read, taken, ← scale, ← all.sign]
  exact Reading.finish_of_fits all.seen fits (scale.trans_le few)

/-- Without a sign, a numeral is the decimal of its digits and its scale. -/
theorem ofChars_of_fits
    {numeral : Numeral}
    (fits : numeral.digits < capacity)
    (few : numeral.fraction.length <= maxScale) :
    ∃ number, ofChars numeral.chars = .ok number ∧
      number.coefficient = numeral.digits ∧ number.scale = numeral.fraction.length := by
  rw [ofChars_eq_read]
  exact read_of_fits false fits few

end Numeral

end Decimal
end Giro
