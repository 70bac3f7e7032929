import Giro.Proofs.Decimal.Nearest
import Giro.Proofs.Money.Grammar

/-!
# Amounts as they are written

Few digits may stand behind the point of an amount, but those in front of it may be as many
as a decimal can have. Then some of those behind it may not fit, and an amount with such
digits is accepted all the same, as the nearest number that the others can write.
-/

namespace Giro
namespace Money

open Decimal (IsDecimal Settles)

variable {text : String} {numeral : Decimal.Numeral}

/-- What becomes of an amount is settled by the number that is written. -/
theorem Spells.settles_of_parse
    {amount : Decimal}
    (spells : Spells text numeral)
    (parsed : parse text = .ok amount) :
    Settles numeral.value (.ok amount) := by
  rw [← spells.ofChars_of_parse parsed]
  exact numeral.settles

/-- A numeral with few digits behind the point is refused exactly if it is too large. -/
theorem Spells.refused_iff
    (spells : Spells text numeral)
    (short : numeral.fraction.length <= storedDigits) :
    (∃ fault, parse text = .error fault) ↔
      2 * (Decimal.capacity : ℚ) <= 2 * numeral.value + 1 := by
  have settles := numeral.settles
  rw [spells.parse_of_short short]
  generalize Decimal.ofChars numeral.chars = read at settles
  cases settles with
  | read small => exact iff_of_false (by simp [Except.mapError]) (not_le.mpr small)
  | refused large => exact iff_of_true ⟨_, rfl⟩ large

/--
An amount is the number that is written exactly if some decimal is that number, as it is
whenever all its digits fit, and otherwise it is off by half a step of its last digit at
most. With few digits behind the point a numeral is refused exactly if it is too large.
-/
theorem exact_iff_isDecimal (text : String) :
    (∀ amount, parse text = .ok amount ->
      (∃ numeral, Spells text numeral) ∧
      ∀ numeral, Spells text numeral ->
        (amount.value = numeral.value ↔ IsDecimal numeral.value) ∧
        (numeral.digits <= 2 ^ 96 - 1 -> numeral.fraction.length <= 28 ->
          amount.value = numeral.value) ∧
        2 * |amount.value - numeral.value| <= 1 / 10 ^ amount.scale) ∧
    ∀ numeral, Spells text numeral -> numeral.fraction.length <= 4 ->
      ((∃ fault, parse text = .error fault) ↔ 2 ^ 97 <= 2 * numeral.value + 1) := by
  have capacity : Decimal.capacity = 2 ^ 96 := by norm_num [Decimal.capacity]
  refine ⟨fun amount parsed => ⟨?_, fun numeral spells => ?_⟩, fun numeral spells short => ?_⟩
  · exact exists_spells_of_parse parsed
  · cases spells.settles_of_parse parsed with
    | read _ nears =>
        refine ⟨⟨fun same => ⟨amount, same⟩, nears.exact⟩, fun fits few => ?_, nears.near⟩
        exact nears.exact (Decimal.Numeral.isDecimal_of_fits (by omega) few)
  · rw [spells.refused_iff short, capacity]
    norm_num

/-- Digits that do not fit do no harm as long as they are zeros. -/
theorem exact_iff_isDecimal_sample :
    ∃ amount, parse "79228162514264337593543950335.00" = .ok amount ∧
      amount.value = 79228162514264337593543950335 := by
  let numeral : Decimal.Numeral :=
    ⟨"79228162514264337593543950335".toList, ['0', '0'], by decide, by decide, by decide⟩
  have digits : numeral.digits = 7922816251426433759354395033500 := by decide
  have value : numeral.value = 79228162514264337593543950335 := by
    rw [Decimal.Numeral.value, digits]
    norm_num [numeral]
  have isDecimal : IsDecimal numeral.value :=
    ⟨.whole 79228162514264337593543950335 (by decide), by
      rw [value]
      norm_num [Decimal.value, Decimal.whole]⟩
  have parsed : parse "79228162514264337593543950335.00" =
      .ok (.whole 79228162514264337593543950335 (by decide)) := by
    decide
  obtain ⟨-, exact⟩ := (exact_iff_isDecimal _).1 _ parsed
  exact ⟨_, parsed, ((exact numeral (by decide)).1.mpr isDecimal).trans value⟩

/-- Four tenths are left out of the largest amount there is. -/
theorem fraction_left_out :
    ∃ amount numeral, parse "79228162514264337593543950335.4" = .ok amount ∧
      Spells "79228162514264337593543950335.4" numeral ∧
      amount.value = 79228162514264337593543950335 ∧
      numeral.value = 79228162514264337593543950335 + 4 / 10 := by
  refine ⟨.whole 79228162514264337593543950335 (by decide),
    ⟨"79228162514264337593543950335".toList, ['4'], by decide, by decide, by decide⟩,
    by decide, by decide, by norm_num [Decimal.value, Decimal.whole], ?_⟩
  have digits : Text.valueOfDigits ("79228162514264337593543950335".toList ++ ['4']) =
      792281625142643375935439503354 := by
    decide
  rw [Decimal.Numeral.value, Decimal.Numeral.digits, digits]
  norm_num

end Money
end Giro
