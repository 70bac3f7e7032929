import Giro.Text.Digits
import Giro.Proofs.Decimal.Exactness
import Mathlib.Tactic

/-!
# Digits and the numbers they write

A number is read off its digits from the front. Its written form has as many digits as
it takes, and is read back as the number; zeros in front do not count, zeros at the
end multiply by ten.
-/

namespace Giro
namespace Text

theorem foldl_digits (total : Nat) (digits : List Char) :
    digits.foldl (fun total digit => 10 * total + digitValue digit) total =
      total * tenTo digits.length + valueOfDigits digits := by
  induction digits generalizing total with
  | nil => simp [valueOfDigits]
  | cons digit rest ih =>
      have whole : valueOfDigits (digit :: rest) =
          (10 * 0 + digitValue digit) * tenTo rest.length + valueOfDigits rest := ih _
      rw [List.foldl_cons, ih, whole, List.length_cons, tenTo_succ]
      ring

/-- Digits in front count by the place they are at. -/
theorem valueOfDigits_append (front back : List Char) :
    valueOfDigits (front ++ back) =
      valueOfDigits front * tenTo back.length + valueOfDigits back := by
  rw [valueOfDigits, List.foldl_append, foldl_digits]
  rfl

@[simp] theorem valueOfDigits_nil : valueOfDigits [] = 0 := rfl

theorem valueOfDigits_singleton (digit : Char) : valueOfDigits [digit] = digitValue digit :=
  Nat.zero_add _

theorem valueOfDigits_cons (digit : Char) (rest : List Char) :
    valueOfDigits (digit :: rest) = digitValue digit * tenTo rest.length + valueOfDigits rest := by
  rw [← List.singleton_append, valueOfDigits_append, valueOfDigits_singleton]

@[simp] theorem valueOfDigits_replicate_zero (count : Nat) :
    valueOfDigits (List.replicate count '0') = 0 := by
  induction count with
  | zero => rfl
  | succ count ih =>
      rw [List.replicate_succ, valueOfDigits_cons, ih]
      simp [digitValue]

theorem digitValue_lt {digit : Char} (isDigit : digit.isDigit = true) : digitValue digit < 10 := by
  simp only [Char.isDigit, Bool.and_eq_true, decide_eq_true_eq, UInt32.le_iff_toNat_le] at isDigit
  have high : digit.toNat <= 57 := isDigit.2
  have zero : '0'.toNat = 48 := rfl
  rw [digitValue, zero]
  omega

/-- So many digits write a number that has no more of them. -/
theorem valueOfDigits_lt {digits : List Char} (areDigits : digits.all Char.isDigit = true) :
    valueOfDigits digits < tenTo digits.length := by
  induction digits with
  | nil => decide
  | cons digit rest ih =>
      simp only [List.all_cons, Bool.and_eq_true] at areDigits
      have first := digitValue_lt areDigits.1
      have others := ih areDigits.2
      rw [valueOfDigits_cons, List.length_cons, tenTo_succ]
      nlinarith

theorem all_isDigit_digitsOf (number : Nat) : (digitsOf number).all Char.isDigit = true :=
  List.all_eq_true.mpr fun _ member =>
    Nat.isDigit_of_mem_toDigits (by decide) (by decide) member

theorem length_digitsOf_pos (number : Nat) : 0 < (digitsOf number).length :=
  Nat.length_toDigits_pos

theorem lt_tenTo_length_digitsOf (number : Nat) : number < tenTo (digitsOf number).length :=
  (Nat.length_toDigits_le_iff (by decide) (length_digitsOf_pos number)).mp (Nat.le_refl _)

/-- The written form has no zeros in front, unless it is that of zero. -/
theorem tenTo_length_digitsOf_le {number : Nat} (positive : 0 < number) :
    tenTo ((digitsOf number).length - 1) <= number := by
  have long := length_digitsOf_pos number
  by_cases single : (digitsOf number).length = 1
  · rw [single]
    exact positive
  · by_contra less
    have short : (digitsOf number).length <= (digitsOf number).length - 1 :=
      (Nat.length_toDigits_le_iff (by decide) (by omega)).mpr (not_le.mp less)
    omega

/-- The written form is read back as the number. -/
@[simp] theorem valueOfDigits_digitsOf (number : Nat) :
    valueOfDigits (digitsOf number) = number := by
  induction number using Nat.strongRecOn with
  | ind number ih =>
      have digit (small : number % 10 < 10) : digitValue (number % 10).digitChar = number % 10 := by
        have zero : '0'.toNat = 48 := rfl
        rw [digitValue, zero, Nat.toNat_digitChar_of_lt_ten small]
        omega
      rcases Nat.lt_or_ge number 10 with small | large
      · have same := Nat.mod_eq_of_lt small
        have digit := digit (by omega)
        rw [same] at digit
        rw [digitsOf, Nat.toDigits_of_lt_base small, valueOfDigits_singleton, digit]
      · have fewer := ih (number / 10) (by omega)
        rw [digitsOf] at fewer
        rw [digitsOf, Nat.toDigits_of_base_le (by decide) large, valueOfDigits_append, fewer,
          valueOfDigits_singleton, digit (by omega)]
        change number / 10 * 10 + number % 10 = number
        omega

/-- The written form of a number does not begin with a zero, unless it is that of zero. -/
theorem head?_digitsOf {number : Nat} (positive : 0 < number) :
    (digitsOf number).head? ≠ some '0' := by
  intro leading
  obtain ⟨rest, digits⟩ := List.head?_eq_some_iff.mp leading
  have areDigits := all_isDigit_digitsOf number
  have value := valueOfDigits_digitsOf number
  have long := tenTo_length_digitsOf_le positive
  rw [digits, List.all_cons, Bool.and_eq_true] at areDigits
  rw [digits, valueOfDigits_cons, digitValue, Nat.sub_self, zero_mul, zero_add] at value
  rw [digits, List.length_cons, Nat.add_sub_cancel] at long
  exact absurd (valueOfDigits_lt areDigits.2) (by omega)

/-- Zeros in front do not count. -/
@[simp] theorem valueOfDigits_leftpad (width : Nat) (digits : List Char) :
    valueOfDigits (digits.leftpad width '0') = valueOfDigits digits := by
  rw [List.leftpad, valueOfDigits_append, valueOfDigits_replicate_zero, zero_mul, zero_add]

theorem toList_showPadded (width number : Nat) :
    (showPadded width number).toList = (digitsOf number).leftpad width '0' :=
  String.toList_ofList

/-- Numbers that are written the same at one width are the same. -/
theorem showPadded_inj {width left right : Nat} :
    showPadded width left = showPadded width right ↔ left = right := by
  refine ⟨fun same => ?_, congrArg _⟩
  have value := congrArg (fun text => valueOfDigits text.toList) same
  simpa only [toList_showPadded, valueOfDigits_leftpad, valueOfDigits_digitsOf] using value

theorem all_isDigit_showPadded (width number : Nat) :
    (showPadded width number).toList.all Char.isDigit = true := by
  rw [toList_showPadded, List.leftpad, List.all_append, all_isDigit_digitsOf, Bool.and_true]
  simp

/-- A number that is small enough for a width is written in it. -/
theorem length_showPadded
    {width number : Nat}
    (wide : 0 < width)
    (small : number < tenTo width) :
    (showPadded width number).toList.length = width := by
  have short : (digitsOf number).length <= width :=
    (Nat.length_toDigits_le_iff (by decide) wide).mpr small
  rw [toList_showPadded, List.length_leftpad]
  exact max_eq_left short

section Joined

variable {width left right : Nat} {front back otherFront otherBack : String}

/-- Texts in two parts each, the first ones equally long, are the same part by part. -/
theorem append_inj_of_front (long : front.toList.length = otherFront.toList.length) :
    front ++ back = otherFront ++ otherBack ↔ front = otherFront ∧ back = otherBack := by
  refine ⟨fun same => ?_, fun ⟨fronts, backs⟩ => by rw [fronts, backs]⟩
  rw [← String.toList_inj, String.toList_append, String.toList_append] at same
  obtain ⟨fronts, backs⟩ := List.append_inj same long
  exact ⟨String.toList_inj.mp fronts, String.toList_inj.mp backs⟩

/-- Texts in two parts each, the last ones equally long, are the same part by part. -/
theorem append_inj_of_back (long : back.toList.length = otherBack.toList.length) :
    front ++ back = otherFront ++ otherBack ↔ front = otherFront ∧ back = otherBack := by
  refine ⟨fun same => ?_, fun ⟨fronts, backs⟩ => by rw [fronts, backs]⟩
  rw [← String.toList_inj, String.toList_append, String.toList_append] at same
  obtain ⟨fronts, backs⟩ := List.append_inj' same long
  exact ⟨String.toList_inj.mp fronts, String.toList_inj.mp backs⟩

theorem showPadded_append_inj
    (wide : 0 < width)
    (leftSmall : left < tenTo width)
    (rightSmall : right < tenTo width) :
    showPadded width left ++ back = showPadded width right ++ otherBack ↔
      left = right ∧ back = otherBack := by
  rw [append_inj_of_front (by rw [length_showPadded wide, length_showPadded wide] <;> assumption),
    showPadded_inj]

theorem append_showPadded_inj
    (wide : 0 < width)
    (leftSmall : left < tenTo width)
    (rightSmall : right < tenTo width) :
    front ++ showPadded width left = otherFront ++ showPadded width right ↔
      front = otherFront ∧ left = right := by
  rw [append_inj_of_back (by rw [length_showPadded wide, length_showPadded wide] <;> assumption),
    showPadded_inj]

end Joined

end Text
end Giro
