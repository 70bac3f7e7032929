import Giro.Text.Blank
import Giro.Text.Digits
import Mathlib.Data.List.TakeWhile
import Mathlib.Tactic

/-!
# Words in texts

Trimming a text leaves the word that has the blanks of the text around it. An integer is
read from a word of digits with at most one sign in front of them.
-/

namespace Giro
namespace Text

/-- A text is a word with blanks around it; the word neither starts nor ends with a blank. -/
structure Wraps (characters word : List Char) : Prop where
  around : ∃ before after,
    characters = before ++ word ++ after ∧
      (∀ character ∈ before, isBlank character = true) ∧
      ∀ character ∈ after, isBlank character = true
  first : ∀ character ∈ word.head?, isBlank character = false
  last : ∀ character ∈ word.getLast?, isBlank character = false

/-- A word is an integer: digits behind at most one sign. -/
def WritesInt (word : List Char) (number : Int) : Prop :=
  ∃ digits, digits ≠ [] ∧ digits.all Char.isDigit = true ∧
    ((word = digits ∨ word = '+' :: digits) ∧ number = valueOfDigits digits ∨
      word = '-' :: digits ∧ number = -valueOfDigits digits)

theorem dropWhile_isBlank_eq_self
    {word : List Char}
    (first : ∀ character ∈ word.head?, isBlank character = false) :
    word.dropWhile isBlank = word := by
  cases word with
  | nil => rfl
  | cons character rest => simp [first character rfl]

theorem head?_dropWhile_isBlank (characters : List Char) :
    ∀ character ∈ (characters.dropWhile isBlank).head?, isBlank character = false := by
  intro character head
  have visible := List.head?_dropWhile_not isBlank characters
  rw [Option.mem_def.mp head] at visible
  exact visible

/-- Trimming leaves the word that has the blanks around it. -/
theorem trimChars_of_wraps
    {characters word : List Char}
    (wraps : Wraps characters word) :
    trimChars characters = word := by
  obtain ⟨before, after, rfl, blankBefore, blankAfter⟩ := wraps.around
  rw [trimChars, trimStartChars, List.append_assoc, List.dropWhile_append_of_pos blankBefore]
  cases word with
  | nil => rw [List.nil_append, List.dropWhile_eq_nil_iff.mpr blankAfter, trimEndChars]; rfl
  | cons character rest =>
      have start : (character :: rest ++ after).dropWhile isBlank = character :: rest ++ after :=
        dropWhile_isBlank_eq_self wraps.first
      have backwards :
          (character :: rest).reverse.dropWhile isBlank = (character :: rest).reverse := by
        apply dropWhile_isBlank_eq_self
        rw [List.head?_reverse]
        exact wraps.last
      have blankBehind : ∀ character ∈ after.reverse, isBlank character = true :=
        fun character member => blankAfter character (List.mem_reverse.mp member)
      rw [start, trimEndChars, List.reverse_append, List.dropWhile_append_of_pos blankBehind,
        backwards, List.reverse_reverse]

/-- What trimming leaves has the blanks around it. -/
theorem wraps_trimChars (characters : List Char) : Wraps characters (trimChars characters) where
  around := by
    refine ⟨characters.takeWhile isBlank,
      ((characters.dropWhile isBlank).reverse.takeWhile isBlank).reverse, ?_, ?_, ?_⟩
    · rw [trimChars, trimEndChars, trimStartChars, List.append_assoc, ← List.reverse_append,
        List.takeWhile_append_dropWhile, List.reverse_reverse, List.takeWhile_append_dropWhile]
    · exact fun character member => List.mem_takeWhile_imp member
    · exact fun character member => List.mem_takeWhile_imp (List.mem_reverse.mp member)
  first := by
    -- What is trimmed at its end starts as before, unless nothing is left of it.
    intro character head
    apply head?_dropWhile_isBlank characters
    have whole : characters.dropWhile isBlank = trimChars characters ++
        ((characters.dropWhile isBlank).reverse.takeWhile isBlank).reverse := by
      rw [trimChars, trimEndChars, trimStartChars, ← List.reverse_append,
        List.takeWhile_append_dropWhile, List.reverse_reverse]
    rw [whole, List.head?_append, Option.mem_def.mp head]
    rfl
  last := by
    rw [trimChars, trimEndChars, List.getLast?_reverse]
    exact head?_dropWhile_isBlank _

theorem trimChars_eq_iff {characters word : List Char} :
    trimChars characters = word ↔ Wraps characters word := by
  constructor
  · rintro rfl
    exact wraps_trimChars characters
  · exact trimChars_of_wraps

/-- Trimming once is enough. -/
theorem trimChars_of_wrapped
    {characters word : List Char}
    (wraps : Wraps characters word) :
    trimChars word = word :=
  trimChars_of_wraps ⟨⟨[], [], by simp⟩, wraps.first, wraps.last⟩

/-- Trimming drops nothing if there is no blank. -/
theorem trimChars_eq_self
    {characters : List Char}
    (visible : ∀ character ∈ characters, isBlank character = false) :
    trimChars characters = characters :=
  trimChars_of_wraps
    { around := ⟨[], [], by simp⟩
      first := fun character head => visible character (List.mem_of_mem_head? head)
      last := fun character last => visible character (List.mem_of_mem_getLast? last) }

/-- Trimming drops nothing but blanks. -/
theorem mem_trimChars
    {character : Char}
    {characters : List Char}
    (member : character ∈ characters)
    (visible : isBlank character = false) :
    character ∈ trimChars characters := by
  obtain ⟨before, after, whole, blankBefore, blankAfter⟩ := (wraps_trimChars characters).around
  have notBlank : isBlank character ≠ true := by simp [visible]
  rw [whole, List.mem_append, List.mem_append] at member
  rcases member with (before | inside) | after
  · exact absurd (blankBefore character before) notBlank
  · exact inside
  · exact absurd (blankAfter character after) notBlank

/-- Trimming leaves no more characters than there are. -/
theorem length_trimChars_le (characters : List Char) :
    (trimChars characters).length <= characters.length := by
  obtain ⟨before, after, whole, -⟩ := (wraps_trimChars characters).around
  have lengths := congrArg List.length whole
  rw [List.length_append, List.length_append] at lengths
  omega

theorem isBlank_of_isDigit {character : Char} (isDigit : character.isDigit = true) :
    isBlank character = false := by
  simp only [Char.isDigit, Bool.and_eq_true, decide_eq_true_eq, UInt32.le_iff_toNat_le] at isDigit
  have low : 48 <= character.toNat := isDigit.1
  have high : character.toNat <= 57 := isDigit.2
  simp [isBlank]
  omega

/-- A text is blank exactly if trimming leaves nothing. -/
theorem trimChars_eq_nil_iff {characters : List Char} :
    trimChars characters = [] ↔ ∀ character ∈ characters, isBlank character = true := by
  rw [trimChars_eq_iff]
  constructor
  · intro wraps
    obtain ⟨before, after, rfl, blankBefore, blankAfter⟩ := wraps.around
    simp only [List.append_nil, List.mem_append]
    exact fun character member => member.elim (blankBefore character) (blankAfter character)
  · intro blank
    exact ⟨⟨characters, [], by simp, blank, by simp⟩, by simp, by simp⟩

theorem readNat?_eq_some_iff {digits : List Char} {number : Nat} :
    readNat? digits = some number ↔
      digits ≠ [] ∧ digits.all Char.isDigit = true ∧ number = valueOfDigits digits := by
  rw [readNat?]
  split_ifs with unreadable
  · simp only [Bool.or_eq_true, List.isEmpty_iff, Bool.not_eq_true'] at unreadable
    rcases unreadable with empty | other
    · simp [empty]
    · simp [other]
  · simp only [Bool.or_eq_true, List.isEmpty_iff, Bool.not_eq_true', not_or,
      Bool.not_eq_false] at unreadable
    simp [unreadable, eq_comm]

theorem writesInt_minus {digits : List Char} {number : Int} :
    WritesInt ('-' :: digits) number ↔
      digits ≠ [] ∧ digits.all Char.isDigit = true ∧ number = -valueOfDigits digits := by
  constructor
  · rintro ⟨_, some, areDigits, ⟨rfl | same, -⟩ | ⟨same, value⟩⟩
    · cases areDigits
    · cases same
    · cases same
      exact ⟨some, areDigits, value⟩
  · rintro ⟨some, areDigits, value⟩
    exact ⟨digits, some, areDigits, .inr ⟨rfl, value⟩⟩

theorem writesInt_plus {digits : List Char} {number : Int} :
    WritesInt ('+' :: digits) number ↔
      digits ≠ [] ∧ digits.all Char.isDigit = true ∧ number = valueOfDigits digits := by
  constructor
  · rintro ⟨_, some, areDigits, ⟨rfl | same, value⟩ | ⟨same, -⟩⟩
    · cases areDigits
    · cases same
      exact ⟨some, areDigits, value⟩
    · cases same
  · rintro ⟨some, areDigits, value⟩
    exact ⟨digits, some, areDigits, .inl ⟨.inr rfl, value⟩⟩

theorem writesInt_unsigned
    {word : List Char}
    {number : Int}
    (noPlus : ∀ digits, word ≠ '+' :: digits)
    (noMinus : ∀ digits, word ≠ '-' :: digits) :
    WritesInt word number ↔
      word ≠ [] ∧ word.all Char.isDigit = true ∧ number = valueOfDigits word := by
  constructor
  · rintro ⟨digits, some, areDigits, ⟨rfl | same, value⟩ | ⟨same, -⟩⟩
    · exact ⟨some, areDigits, value⟩
    · exact absurd same (noPlus digits)
    · exact absurd same (noMinus digits)
  · rintro ⟨some, areDigits, value⟩
    exact ⟨word, some, areDigits, .inl ⟨.inl rfl, value⟩⟩

/-- An integer is read from a word exactly if the word is that integer, within the bounds. -/
theorem readInt?_eq_some_iff {lowest highest number : Int} {word : List Char} :
    readInt? lowest highest word = some number ↔
      WritesInt word number ∧ lowest <= number ∧ number <= highest := by
  have signed (sign : Nat -> Int) (digits : List Char) :
      (readNat? digits).bind (fun value =>
          if lowest <= sign value && sign value <= highest then some (sign value) else none) =
        some number ↔
      (digits ≠ [] ∧ digits.all Char.isDigit = true ∧ number = sign (valueOfDigits digits)) ∧
        lowest <= number ∧ number <= highest := by
    simp only [Option.bind_eq_some_iff, readNat?_eq_some_iff, Option.ite_none_right_eq_some,
      Bool.and_eq_true, decide_eq_true_eq, Option.some.injEq]
    constructor
    · rintro ⟨value, ⟨some, areDigits, rfl⟩, inside, rfl⟩
      exact ⟨⟨some, areDigits, rfl⟩, inside⟩
    · rintro ⟨⟨some, areDigits, rfl⟩, inside⟩
      exact ⟨_, ⟨some, areDigits, rfl⟩, inside, rfl⟩
  rw [readInt?.eq_def]
  split
  · rename_i digits
    rw [signed (fun value => -(value : Int)), writesInt_minus]
  · rename_i digits
    rw [signed (fun value => value), writesInt_plus]
  · rename_i unsignedByMinus unsignedByPlus
    rw [signed (fun value => value), writesInt_unsigned]
    · rintro digits rfl
      exact unsignedByPlus digits rfl
    · rintro digits rfl
      exact unsignedByMinus digits rfl

end Text
end Giro
