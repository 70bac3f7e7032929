import Giro.Proofs.Text.Bytes
import Giro.Text.Utf8

/-!
# Characters read back from their bytes

The bytes of a character are read as that character, whatever stands behind them: the first
one tells how many are owed, and each that is owed is within the bounds for it. So the bytes
of a text have the characters of the text as their places, and no place is without one.
-/

namespace Giro
namespace Text
namespace Utf8

/-- A first byte leads to a character of several bytes. -/
theorem places_of_lead {byte : Nat} {begun : Begun} (leads : lead byte = .begun begun)
    (rest : List Nat) :
    places none (byte :: rest) = places (some begun) rest := by
  rw [places, settle, settleFresh, leads, List.nil_append]

/-- A byte that is owed brings six bits, and is not the last one. -/
theorem places_of_owed
    {value owed least most byte : Nat}
    (low : least <= byte)
    (high : byte <= most)
    (rest : List Nat) :
    places (some ⟨value, owed + 2, least, most⟩) (byte :: rest) =
      places (some ⟨64 * value + byte % 64, owed + 1, 0x80, 0xBF⟩) rest := by
  simp [places, settle, low, high]

/-- The last byte that is owed completes the character. -/
theorem places_of_last
    {value least most byte : Nat}
    (low : least <= byte)
    (high : byte <= most)
    (rest : List Nat) :
    places (some ⟨value, 1, least, most⟩) (byte :: rest) =
      some (Char.ofNat (64 * value + byte % 64)) :: places none rest := by
  simp [places, settle, low, high]

theorem lead_of_two {value : Nat} (large : 0x80 <= value) (small : value <= 0x7FF) :
    lead (value / 64 % 32 + 0xC0) = .begun ⟨value / 64, 1, 0x80, 0xBF⟩ := by
  have first : value / 64 % 32 = value / 64 := by omega
  have bounds :
      (decide (0xC2 <= value / 64 + 0xC0) && decide (value / 64 + 0xC0 <= 0xDF)) = true := by
    simp only [Bool.and_eq_true, decide_eq_true_eq]
    omega
  rw [first, lead, if_neg (by omega), if_pos bounds, Nat.add_sub_cancel]

/-- The second of three bytes has bounds of its own behind some first ones. -/
theorem lead_of_three
    {value : Nat}
    (large : 0x800 <= value)
    (small : value <= 0xFFFF)
    (valid : value < 0xD800 ∨ 0xDFFF < value) :
    ∃ least most, lead (value / 4096 % 16 + 0xE0) = .begun ⟨value / 4096, 2, least, most⟩ ∧
      least <= value / 64 % 64 + 0x80 ∧ value / 64 % 64 + 0x80 <= most := by
  have few : value / 4096 < 16 := by omega
  generalize first : value / 4096 = leading at few ⊢
  interval_cases leading <;> exact ⟨_, _, rfl, by omega, by omega⟩

theorem lead_of_four {value : Nat} (large : 0x10000 <= value) (small : value < 0x110000) :
    ∃ least most, lead (value / 262144 % 8 + 0xF0) = .begun ⟨value / 262144, 3, least, most⟩ ∧
      least <= value / 4096 % 64 + 0x80 ∧ value / 4096 % 64 + 0x80 <= most := by
  have few : value / 262144 < 5 := by omega
  generalize first : value / 262144 = leading at few ⊢
  interval_cases leading <;> exact ⟨_, _, rfl, by omega, by omega⟩

/-- The bytes of a character are read as the character. -/
theorem places_utf8EncodeChar (character : Char) (rest : List Nat) :
    places none ((String.utf8EncodeChar character).map UInt8.toNat ++ rest) =
      some character :: places none rest := by
  have valid : character.val.toNat < 0xD800 ∨
      0xDFFF < character.val.toNat ∧ character.val.toNat < 0x110000 := character.valid
  have same : Char.ofNat character.val.toNat = character := character.ofNat_toNat
  have byte {number : Nat} (small : number < 256) : (UInt8.ofNat number).toNat = number := by
    rw [UInt8.toNat_ofNat']
    omega
  unfold String.utf8EncodeChar
  generalize character.val.toNat = value at valid same ⊢
  dsimp only
  split_ifs with one two three
  · rw [List.map_singleton, byte (by omega), List.singleton_append, places, settle, settleFresh,
      lead, if_pos (by omega), same]
    rfl
  · simp only [List.map_cons, List.map_nil, List.cons_append, List.nil_append]
    have whole : 64 * (value / 64) + (value % 64 + 128) % 64 = value := by omega
    rw [byte (by omega), byte (by omega), places_of_lead (lead_of_two (by omega) two),
      places_of_last (by omega) (by omega), whole, same]
  · simp only [List.map_cons, List.map_nil, List.cons_append, List.nil_append]
    obtain ⟨least, most, leads, low, high⟩ := lead_of_three (by omega) three (by omega)
    have whole : 64 * (64 * (value / 4096) + (value / 64 % 64 + 128) % 64) +
        (value % 64 + 128) % 64 = value := by omega
    rw [byte (by omega), byte (by omega), byte (by omega), places_of_lead leads,
      places_of_owed low high, places_of_last (by omega) (by omega), whole, same]
  · simp only [List.map_cons, List.map_nil, List.cons_append, List.nil_append]
    have large : 0x10000 <= value := by omega
    obtain ⟨least, most, leads, low, high⟩ := lead_of_four large (by omega)
    have whole : 64 * (64 * (64 * (value / 262144) + (value / 4096 % 64 + 128) % 64) +
        (value / 64 % 64 + 128) % 64) + (value % 64 + 128) % 64 = value := by omega
    rw [byte (by omega), byte (by omega), byte (by omega), byte (by omega), places_of_lead leads,
      places_of_owed low high, places_of_owed (by omega) (by omega),
      places_of_last (by omega) (by omega), whole, same]

/-- The places of the bytes of characters are the characters. -/
theorem places_bytesOf (characters : List Char) :
    places none ((bytesOf characters).map UInt8.toNat) = characters.map some := by
  induction characters with
  | nil => rfl
  | cons character others ih =>
      rw [bytesOf, List.flatMap_cons, List.map_append, places_utf8EncodeChar, ← bytesOf, ih,
        List.map_cons]

end Utf8
end Text
end Giro
