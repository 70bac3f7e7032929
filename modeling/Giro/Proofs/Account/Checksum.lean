import Giro.Proofs.Account.NormalForm
import Giro.Proofs.Text.Bytes
import Giro.Proofs.Text.Digits

/-!
# Valid account numbers

An account number is valid if a number of up to 68 digits leaves the remainder 1 modulo 97.
That remainder is found one character at a time, so that nothing ever grows beyond 32 bits:
a digit puts one digit behind the number read so far, and a letter puts two. By then every
byte is known to be a digit or a capital, so there is a place behind the fourth of them
where the text can be parted.
-/

namespace Giro

/-- A number from 10 to 99 has two digits. -/
theorem Text.length_digitsOf_eq_two {number : Nat} (low : 10 <= number) (high : number < 100) :
    (digitsOf number).length = 2 := by
  have most : (digitsOf number).length <= 2 :=
    (Nat.length_toDigits_le_iff (by decide) (by decide)).mpr high
  have fewest : ¬ (digitsOf number).length <= 1 := fun single =>
    not_lt.mpr low ((Nat.length_toDigits_le_iff (by decide) (by decide)).mp single)
  omega

namespace Iban

open Text (valueOfDigits)

/-- The digits that a digit or a capital stands for: itself, or a number from 10 to 35. -/
def expand (character : Char) : List Char :=
  if character.isDigit then [character]
  else Text.digitsOf (character.toNat - 'A'.toNat + 10)

/-- The number that characters stand for when the first four of them are moved to the end. -/
def number (characters : List Char) : Nat :=
  valueOfDigits ((characters.drop 4 ++ characters.take 4).flatMap expand)

/-- A text in normal form that is an account number. -/
structure Valid (text : String) : Prop where
  long : 15 <= text.utf8ByteSize
  short : text.utf8ByteSize <= 34
  plain : text.toList.all Char.isAlphanum = true
  country : (text.toList.take 2).all Char.isAlpha = true
  check : ((text.toList.drop 2).take 2).all Char.isDigit = true
  remainder : number text.toList % 97 = 1

/-! ## The remainder -/

/-- Whether a character is a digit or a capital. -/
def isSymbol (character : Char) : Bool :=
  character.isDigit || character.isUpper

theorem toNat_of_isUpper {character : Char} (upper : character.isUpper = true) :
    65 <= character.toNat ∧ character.toNat <= 90 := by
  simpa [Char.isUpper, UInt32.le_iff_toNat_le] using upper

theorem isAlphanum_of_isSymbol {character : Char} (symbol : isSymbol character = true) :
    character.isAlphanum = true := by
  rw [isSymbol, Bool.or_eq_true] at symbol
  rcases symbol with digit | upper
  · rw [Char.isAlphanum, digit, Bool.or_true]
  · rw [Char.isAlphanum, Char.isAlpha, upper, Bool.true_or, Bool.true_or]

/-- A symbol changes the remainder as the digits do that it stands for. -/
theorem foldRemainder_eq
    {character : Char}
    (symbol : isSymbol character = true)
    (remainder : Nat) :
    foldRemainder remainder character =
      (remainder * tenTo (expand character).length + valueOfDigits (expand character)) % 97 := by
  rw [foldRemainder, charValue, expand]
  by_cases digit : character.isDigit = true
  · rw [if_pos digit, if_pos digit, if_pos digit, Text.valueOfDigits_singleton]
    rfl
  · rw [isSymbol, Bool.eq_false_of_not_eq_true digit, Bool.false_or] at symbol
    obtain ⟨low, high⟩ := toNat_of_isUpper symbol
    have first : 'A'.toNat = 65 := rfl
    have two : (Text.digitsOf (character.toNat - 'A'.toNat + 10)).length = 2 :=
      Text.length_digitsOf_eq_two (by omega) (by omega)
    rw [if_neg digit, if_neg digit, if_neg digit, Text.valueOfDigits_digitsOf, two]
    rfl

theorem foldRemainder_lt (remainder : Nat) (character : Char) :
    foldRemainder remainder character < 97 := by
  rw [foldRemainder]
  split
  · exact Nat.mod_lt _ (by decide)
  · exact Nat.mod_lt _ (by decide)

/-- One character after the other, the remainder is that of the number that they stand for. -/
theorem foldl_foldRemainder
    {characters : List Char}
    (symbols : characters.all isSymbol = true)
    {remainder : Nat}
    (small : remainder < 97) :
    characters.foldl foldRemainder remainder =
      (remainder * tenTo (characters.flatMap expand).length +
        valueOfDigits (characters.flatMap expand)) % 97 := by
  induction characters generalizing remainder with
  | nil => simp [Nat.mod_eq_of_lt small]
  | cons character rest ih =>
      simp only [List.all_cons, Bool.and_eq_true] at symbols
      rw [List.foldl_cons, ih symbols.2 (foldRemainder_lt ..), foldRemainder_eq symbols.1,
        List.flatMap_cons, Text.valueOfDigits_append, List.length_append, tenTo_add]
      generalize valueOfDigits (expand character) = here
      generalize tenTo (expand character).length = weight
      generalize tenTo (rest.flatMap expand).length = others
      rw [← Nat.mod_add_mod, Nat.mod_mul_mod, Nat.mod_add_mod]
      ring_nf

theorem all_isSymbol_rotate {characters : List Char} (symbols : characters.all isSymbol = true) :
    (rotate characters).all isSymbol = true := by
  rw [rotate, List.all_append, Bool.and_comm, ← List.all_append, List.take_append_drop]
  exact symbols

/-- The checksum is the remainder of the number. -/
theorem checksum_eq {characters : List Char} (symbols : characters.all isSymbol = true) :
    checksum characters = number characters % 97 := by
  rw [checksum, foldl_foldRemainder (all_isSymbol_rotate symbols) (by decide), Nat.zero_mul,
    Nat.zero_add]
  rfl

/-! ## Validity -/

/-- In a normal form, letters are capitals. -/
theorem isLower_of_mem_normalize
    {spelling : String}
    {character : Char}
    (member : character ∈ (normalize spelling).toList) :
    character.isLower = false := by
  rw [normalize, Text.toList_upper] at member
  obtain ⟨written, -, rfl⟩ := List.mem_map.mp member
  exact Char.isLower_toUpper_eq_false written

theorem isUpper_eq_isAlpha
    {spelling : String}
    {character : Char}
    (member : character ∈ (normalize spelling).toList) :
    character.isUpper = character.isAlpha := by
  rw [Char.isAlpha, isLower_of_mem_normalize member, Bool.or_false]

/-- A normal form of the right shape has symbols only. -/
theorem all_isSymbol_of_wellFormed
    {spelling : String}
    (formed : wellFormed (normalize spelling).toList = true) :
    (normalize spelling).toList.all isSymbol = true := by
  simp only [wellFormed, Bool.and_eq_true] at formed
  refine List.all_eq_true.mpr fun character member => ?_
  rw [isSymbol, isUpper_eq_isAlpha member]
  exact List.all_eq_true.mp formed.1.1 character member

/-- The shape of a normal form, with letters of either case. -/
theorem wellFormed_iff {spelling : String} :
    wellFormed (normalize spelling).toList = true ↔
      (normalize spelling).toList.all Char.isAlphanum = true ∧
        ((normalize spelling).toList.take 2).all Char.isAlpha = true ∧
        (((normalize spelling).toList.drop 2).take 2).all Char.isDigit = true := by
  have plain : (normalize spelling).toList.all
        (fun character => character.isDigit || character.isAlpha) =
      (normalize spelling).toList.all Char.isAlphanum :=
    congrArg _ (funext fun character => Bool.or_comm ..)
  have country : ((normalize spelling).toList.take 2).all Char.isUpper =
      ((normalize spelling).toList.take 2).all Char.isAlpha :=
    all_eq_all fun character member => isUpper_eq_isAlpha (List.mem_of_mem_take member)
  rw [wellFormed, plain, country, Bool.and_eq_true, Bool.and_eq_true, and_assoc]

/-- What is accepted is the normal form, and it is accepted exactly if it is valid. -/
theorem parse_eq_ok_iff {spelling : String} {iban : Iban} :
    parse spelling = .ok iban ↔
      iban.text = normalize spelling ∧ Valid (normalize spelling) := by
  have least : minLength = 15 := rfl
  have most : maxLength = 34 := rfl
  rw [parse]
  split_ifs with length form remainder
  · refine iff_of_false nofun fun ⟨_, valid⟩ => ?_
    have := valid.long
    have := valid.short
    simp only [Bool.or_eq_true, decide_eq_true_eq] at length
    omega
  · refine iff_of_false nofun fun ⟨_, valid⟩ => ?_
    rw [wellFormed_iff.mpr ⟨valid.plain, valid.country, valid.check⟩] at form
    cases form
  all_goals
    rw [Bool.not_eq_true', Bool.not_eq_false] at form
    rw [checksum_eq (all_isSymbol_of_wellFormed form)] at remainder
  · exact iff_of_false nofun fun ⟨_, valid⟩ => bne_iff_ne.mp remainder valid.remainder
  · simp only [Bool.or_eq_true, decide_eq_true_eq, not_or, not_lt] at length
    obtain ⟨plain, country, check⟩ := wellFormed_iff.mp form
    have valid : Valid (normalize spelling) :=
      ⟨by omega, by omega, plain, country, check, by simpa using remainder⟩
    constructor
    · rintro ⟨⟩
      exact ⟨rfl, valid⟩
    · rintro ⟨same, -⟩
      rw [← same]

/-! ## Bytes and words -/

/-- Whether a byte is that of a digit. -/
def isDigitByte (byte : UInt8) : Bool :=
  48 <= byte.toNat && byte.toNat <= 57

/-- Whether a byte is that of a capital. -/
def isUpperByte (byte : UInt8) : Bool :=
  65 <= byte.toNat && byte.toNat <= 90

/-- Whether a byte is that of a small letter. -/
def isLowerByte (byte : UInt8) : Bool :=
  97 <= byte.toNat && byte.toNat <= 122

/-- Whether bytes have the shape of an account number. -/
def wellFormedBytes (bytes : List UInt8) : Bool :=
  bytes.all (fun byte => isDigitByte byte || isUpperByte byte || isLowerByte byte) &&
    (bytes.take 2).all isUpperByte &&
    ((bytes.drop 2).take 2).all isDigitByte

/-- The value of a digit to the base 36, whose letters may be of either case. -/
def digit36? (character : Char) : Option Nat :=
  if character.isDigit then some (Text.digitValue character)
  else if character.isUpper then some (character.toNat - 'A'.toNat + 10)
  else if character.isLower then some (character.toNat - 'a'.toNat + 10)
  else none

/-- The remainder after one more character, if 32 bits are enough to compute it. A character
without a value is passed over. -/
def foldWord? (remainder : Nat) (character : Char) : Option Nat :=
  match digit36? character with
  | none => some remainder
  | some value =>
      let next := remainder * (if value < 10 then 10 else 100) + value
      if next < 0x100000000 then some (next % 97) else none

/-- The remainder of a text that is parted behind its fourth byte, if it can be parted there and
32 bits are enough. -/
def remainder? (text : String) : Option Nat := do
  let (front, back) <- Text.splitAtByte? 4 text.toList
  (back ++ front).foldlM foldWord? 0

/-- The account number that a spelling stands for, if nothing is out of range on the way. -/
def parseInBytes? (spelling : String) : Option (Except Fault Iban) :=
  let normalForm := normalize spelling
  let size := normalForm.utf8ByteSize
  if size < minLength || maxLength < size then some (.error (.length size))
  else if !wellFormedBytes (Text.bytesOf normalForm.toList) then
    some (.error (.format normalForm))
  else
    (remainder? normalForm).map fun remainder =>
      if remainder != 1 then .error (.checksum normalForm) else .ok ⟨normalForm⟩

/-- A character of one byte is told by that byte. -/
theorem byte_eq {character : Char} (single : character.utf8Size = 1) :
    isDigitByte character.val.toUInt8 = character.isDigit ∧
      isUpperByte character.val.toUInt8 = character.isUpper ∧
      isLowerByte character.val.toUInt8 = character.isLower := by
  have low : character.toNat <= 127 :=
    UInt32.le_iff_toNat_le.mp (Char.utf8Size_eq_one_iff.mp single)
  have byte : character.val.toUInt8.toNat = character.toNat := by
    rw [UInt32.toNat_toUInt8]
    exact Nat.mod_eq_of_lt (by rw [Char.toNat_val]; omega)
  simp only [isDigitByte, isUpperByte, isLowerByte, byte, Char.isDigit, Char.isUpper, Char.isLower,
    UInt32.le_iff_toNat_le, ge_iff_le, Bool.decide_and]
  exact ⟨rfl, rfl, rfl⟩

theorem utf8Size_of_isAlphanum {character : Char} (plain : character.isAlphanum = true) :
    character.utf8Size = 1 := by
  have low : character.toNat <= 127 := by
    simp only [Char.isAlphanum, Char.isAlpha, Char.isUpper, Char.isLower, Char.isDigit,
      Bool.or_eq_true, Bool.and_eq_true, decide_eq_true_eq, UInt32.le_iff_toNat_le,
      ge_iff_le] at plain
    change ((65 <= character.toNat ∧ character.toNat <= 90) ∨
      (97 <= character.toNat ∧ character.toNat <= 122)) ∨
      (48 <= character.toNat ∧ character.toNat <= 57) at plain
    omega
  exact Char.utf8Size_eq_one_iff.mpr (UInt32.le_iff_toNat_le.mpr low)

/-- Bytes have the shape of an account number exactly if the characters have it. -/
theorem wellFormedBytes_bytesOf (characters : List Char) :
    wellFormedBytes (Text.bytesOf characters) = wellFormed characters := by
  by_cases single : ∀ character ∈ characters, character.utf8Size = 1
  · have byte {character : Char} (member : character ∈ characters) :=
      byte_eq (single character member)
    rw [Text.bytesOf_of_single single, wellFormedBytes, wellFormed, ← List.map_take,
      ← List.map_drop, ← List.map_take, List.all_map, List.all_map, List.all_map]
    congr 1
    congr 1
    · refine all_eq_all fun character member => ?_
      obtain ⟨digit, upper, lower⟩ := byte member
      rw [Function.comp_apply, digit, upper, lower, Char.isAlpha, Bool.or_assoc]
    · exact all_eq_all fun character member => (byte (List.mem_of_mem_take member)).2.1
    · exact all_eq_all fun character member =>
        (byte (List.mem_of_mem_drop (List.mem_of_mem_take member))).1
  · -- One character is of more bytes, and neither it nor they pass for a digit or a letter.
    simp only [not_forall] at single
    obtain ⟨character, member, long⟩ := single
    obtain ⟨byte, inside, high⟩ := Text.exists_high_byte member long
    have bytewise : wellFormedBytes (Text.bytesOf characters) ≠ true := fun formed => by
      simp only [wellFormedBytes, Bool.and_eq_true, List.all_eq_true] at formed
      have := formed.1.1 byte inside
      simp only [isDigitByte, isUpperByte, isLowerByte, Bool.or_eq_true, Bool.and_eq_true,
        decide_eq_true_eq] at this
      omega
    have characterwise : wellFormed characters ≠ true := fun formed => by
      simp only [wellFormed, Bool.and_eq_true, List.all_eq_true] at formed
      refine long (utf8Size_of_isAlphanum ?_)
      rw [Char.isAlphanum, Bool.or_comm]
      exact formed.1.1 character member
    rw [Bool.eq_false_of_not_eq_true bytewise,
      Bool.eq_false_of_not_eq_true characterwise]

/-- For a symbol, 32 bits are enough. -/
theorem foldWord?_eq
    {character : Char}
    (symbol : isSymbol character = true)
    {remainder : Nat}
    (small : remainder < 97) :
    foldWord? remainder character = some (foldRemainder remainder character) := by
  have first : 'A'.toNat = 65 := rfl
  rw [foldWord?, foldRemainder, digit36?, charValue]
  by_cases digit : character.isDigit = true
  · have value := Text.digitValue_lt digit
    simp only [digit, if_true, value]
    rw [if_pos (by omega)]
  · rw [isSymbol, Bool.eq_false_of_not_eq_true digit, Bool.false_or] at symbol
    obtain ⟨low, high⟩ := toNat_of_isUpper symbol
    have value : ¬ character.toNat - 'A'.toNat + 10 < 10 := by omega
    simp only [digit, symbol, value, Bool.false_eq_true, if_true, if_false]
    rw [if_pos (by omega)]

theorem foldlM_foldWord?
    {characters : List Char}
    (symbols : characters.all isSymbol = true)
    {remainder : Nat}
    (small : remainder < 97) :
    characters.foldlM foldWord? remainder = some (characters.foldl foldRemainder remainder) := by
  induction characters generalizing remainder with
  | nil => rfl
  | cons character rest ih =>
      simp only [List.all_cons, Bool.and_eq_true] at symbols
      rw [List.foldlM_cons, foldWord?_eq symbols.1 small]
      exact ih symbols.2 (foldRemainder_lt ..)

/-- A text of symbols can be parted behind its fourth byte, and 32 bits are enough. -/
theorem remainder?_eq
    {text : String}
    (symbols : text.toList.all isSymbol = true)
    (long : minLength <= text.utf8ByteSize) :
    remainder? text = some (checksum text.toList) := by
  have single : ∀ character ∈ text.toList, character.utf8Size = 1 := fun character member =>
    utf8Size_of_isAlphanum (isAlphanum_of_isSymbol (List.all_eq_true.mp symbols character member))
  have within : 4 <= text.toList.length := by
    rw [← Text.utf8ByteSize_eq_length single]
    exact le_trans (by decide) long
  rw [remainder?, Text.splitAtByte?_of_single single within]
  exact foldlM_foldWord? (all_isSymbol_rotate symbols) (by decide)

/-- Nothing is ever out of range. -/
theorem parseInBytes?_eq (spelling : String) : parseInBytes? spelling = some (parse spelling) := by
  rw [parseInBytes?, wellFormedBytes_bytesOf, parse]
  split_ifs with length form remainder
  · rfl
  · rfl
  all_goals
    rw [Bool.not_eq_true', Bool.not_eq_false] at form
    simp only [Bool.or_eq_true, decide_eq_true_eq, not_or, not_lt] at length
    rw [remainder?_eq (all_isSymbol_of_wellFormed form) length.1, Option.map_some]
  · rw [if_pos remainder]
  · rw [if_neg remainder]

/--
A spelling is accepted exactly if its normal form is valid, and the account number is that
normal form, which is accepted as itself. Looked at byte by byte, whatever the spelling is,
the text can be parted where it has to be, no remainder leaves 32 bits, and the outcome is
the same.
-/
theorem accepts_exactly_valid (spelling : String) :
    (∀ iban, parse spelling = .ok iban ↔
      iban.text = normalize spelling ∧ Valid (normalize spelling)) ∧
    (∀ iban, parse spelling = .ok iban -> parse iban.text = .ok iban) ∧
    parseInBytes? spelling = some (parse spelling) := by
  refine ⟨fun iban => parse_eq_ok_iff, fun iban parsed => ?_, parseInBytes?_eq spelling⟩
  obtain ⟨same, valid⟩ := parse_eq_ok_iff.mp parsed
  have normal := normalize_of_parse parsed
  rw [parse_eq_ok_iff, normal]
  exact ⟨rfl, same ▸ valid⟩

/-- A number in groups of four, with small letters. -/
theorem accepts_exactly_valid_sample :
    parse "gb82 west 1234 5698 7654 32" = .ok ⟨"GB82WEST12345698765432"⟩ ∧
      Valid "GB82WEST12345698765432" ∧
      parse "GB82WEST12345698765432" = .ok ⟨"GB82WEST12345698765432"⟩ := by
  have parsed : parse "gb82 west 1234 5698 7654 32" = .ok ⟨"GB82WEST12345698765432"⟩ := by decide
  have normal : normalize "gb82 west 1234 5698 7654 32" = "GB82WEST12345698765432" := by decide
  obtain ⟨exactly, again, -⟩ := accepts_exactly_valid "gb82 west 1234 5698 7654 32"
  exact ⟨parsed, normal ▸ ((exactly _).mp parsed).2, again _ parsed⟩

end Iban
end Giro
