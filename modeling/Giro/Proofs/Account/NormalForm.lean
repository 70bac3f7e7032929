import Mathlib
import Giro.Account.Iban

/-!
# Normal forms of account numbers

The normal form of a spelling has no blanks and no small letters, so it is its own normal
form. An account that is looked for under the number that a spelling stands for is found
under just that number.
-/

namespace Giro

/-- Capitals are no blanks. -/
theorem Text.isBlank_toUpper {character : Char} (visible : isBlank character = false) :
    isBlank character.toUpper = false := by
  by_cases small : character.isLower
  · obtain ⟨low, high⟩ : 97 <= character.toNat ∧ character.toNat <= 122 := by
      simpa [Char.isLower, UInt32.le_iff_toNat_le] using small
    have code : character.toUpper.toNat = character.toNat - 32 := by
      rw [Char.toUpper_eq_of_isLower small, Char.toNat_ofNat, if_pos (.inl (by omega))]
    simp only [isBlank, code, Bool.or_eq_false_iff, Bool.and_eq_false_iff, decide_eq_false_iff_not,
      beq_eq_false_iff_ne]
    omega
  · rwa [Char.toUpper_eq_of_not_isLower small]

/-- The normal form of a normal form is itself. -/
theorem Iban.normalize_normalize (spelling : String) :
    normalize (normalize spelling) = normalize spelling := by
  have visible : ∀ character ∈ (Text.squeeze spelling).toList,
      ((fun next => !Text.isBlank next) ∘ Char.toUpper) character = true := by
    intro character member
    rw [Text.toList_squeeze, List.mem_filter] at member
    rw [Function.comp_apply, Text.isBlank_toUpper (by simpa using member.2)]
    rfl
  rw [← String.toList_inj]
  simp only [normalize, Text.toList_upper, Text.toList_squeeze (Text.upper _)]
  rw [List.filter_map, List.filter_eq_self.mpr visible, List.map_map]
  exact List.map_congr_left fun character _ => Char.toUpper_toUpper_eq_toUpper character

/-- An account number is its own normal form. -/
theorem Iban.normalize_of_parse
    {spelling : String}
    {iban : Iban}
    (parsed : parse spelling = .ok iban) :
    normalize iban.text = iban.text := by
  unfold parse at parsed
  dsimp only at parsed
  split_ifs at parsed
  cases parsed
  exact normalize_normalize spelling

end Giro
