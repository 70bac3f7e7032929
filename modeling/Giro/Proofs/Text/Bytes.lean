import Mathlib.Tactic

/-!
# Texts in bytes

Every character takes up at least one byte, and those of ASCII take up just one, which tells
what they are. A text of such characters may be split at any of its bytes.
-/

namespace Giro

/-- Tests that agree on each entry agree on all of them together. -/
theorem all_eq_all {α : Type} {entries : List α} {left right : α -> Bool}
    (same : ∀ entry ∈ entries, left entry = right entry) :
    entries.all left = entries.all right := by
  rw [Bool.eq_iff_iff, List.all_eq_true, List.all_eq_true]
  exact forall₂_congr fun entry member => by rw [same entry member]

namespace Text

theorem utf8ByteSize_ofList_cons (character : Char) (rest : List Char) :
    (String.ofList (character :: rest)).utf8ByteSize =
      character.utf8Size + (String.ofList rest).utf8ByteSize := by
  have parts : String.ofList (character :: rest) =
      String.ofList [character] ++ String.ofList rest := by
    rw [← String.ofList_append]
    rfl
  rw [parts, String.utf8ByteSize_append, ← String.singleton_eq_ofList,
    String.utf8ByteSize_singleton]

/-- A text has no more characters than bytes. -/
theorem length_le_utf8ByteSize (text : String) : text.toList.length <= text.utf8ByteSize := by
  obtain ⟨characters, rfl⟩ := text.exists_eq_ofList
  rw [String.toList_ofList]
  induction characters with
  | nil => exact Nat.zero_le _
  | cons character rest ih =>
      have some := character.utf8Size_pos
      rw [utf8ByteSize_ofList_cons, List.length_cons]
      omega

/-- A text of characters of one byte has as many of them as bytes. -/
theorem utf8ByteSize_eq_length
    {text : String}
    (single : ∀ character ∈ text.toList, character.utf8Size = 1) :
    text.utf8ByteSize = text.toList.length := by
  obtain ⟨characters, rfl⟩ := text.exists_eq_ofList
  rw [String.toList_ofList] at *
  induction characters with
  | nil => rfl
  | cons character rest ih =>
      rw [List.forall_mem_cons] at single
      rw [utf8ByteSize_ofList_cons, ih single.2, single.1, List.length_cons, Nat.add_comm]

/-- The bytes of characters. -/
def bytesOf (characters : List Char) : List UInt8 :=
  characters.flatMap String.utf8EncodeChar

/-- Characters of one byte are their own bytes. -/
theorem bytesOf_of_single
    {characters : List Char}
    (single : ∀ character ∈ characters, character.utf8Size = 1) :
    bytesOf characters = characters.map fun character => character.val.toUInt8 := by
  induction characters with
  | nil => rfl
  | cons character rest ih =>
      rw [List.forall_mem_cons] at single
      rw [bytesOf, List.flatMap_cons, String.utf8EncodeChar_eq_singleton single.1]
      exact congrArg _ (ih single.2)

/-- A character of more than one byte has bytes that no character of one byte has. -/
theorem exists_high_byte
    {characters : List Char}
    {character : Char}
    (member : character ∈ characters)
    (long : character.utf8Size ≠ 1) :
    ∃ byte ∈ bytesOf characters, 128 <= byte.toNat := by
  have high : ¬ character.val.toNat <= 127 := fun low =>
    long (Char.utf8Size_eq_one_iff.mpr (UInt32.le_iff_toNat_le.mpr low))
  have last : UInt8.ofNat (character.val.toNat % 64 + 128) ∈ String.utf8EncodeChar character := by
    unfold String.utf8EncodeChar
    dsimp only
    rw [if_neg high]
    split_ifs <;> simp
  refine ⟨_, List.mem_flatMap.mpr ⟨character, member, last⟩, ?_⟩
  rw [UInt8.toNat_ofNat']
  omega

/-- The characters in front of a byte and those from it on, unless it is inside a character. -/
def splitAtByte? : Nat -> List Char -> Option (List Char × List Char)
  | 0, characters => some ([], characters)
  | _ + 1, [] => none
  | offset + 1, next :: rest =>
      if next.utf8Size <= offset + 1 then
        (splitAtByte? (offset + 1 - next.utf8Size) rest).map fun parts =>
          (next :: parts.1, parts.2)
      else none

/-- Characters of one byte are split at any of them. -/
theorem splitAtByte?_of_single
    {offset : Nat}
    {characters : List Char}
    (single : ∀ character ∈ characters, character.utf8Size = 1)
    (within : offset <= characters.length) :
    splitAtByte? offset characters = some (characters.take offset, characters.drop offset) := by
  induction characters generalizing offset with
  | nil =>
      obtain rfl : offset = 0 := Nat.le_zero.mp within
      rfl
  | cons next rest ih =>
      cases offset with
      | zero => rfl
      | succ offset =>
          rw [List.forall_mem_cons] at single
          rw [splitAtByte?, single.1, if_pos (Nat.le_add_left 1 _), Nat.add_sub_cancel,
            ih single.2 (Nat.le_of_succ_le_succ within)]
          rfl

end Text
end Giro
