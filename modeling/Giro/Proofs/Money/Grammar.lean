import Giro.Money
import Giro.Proofs.Decimal.Plain
import Giro.Proofs.Text.Bytes
import Giro.Proofs.Text.Words

/-!
# Texts that are amounts

An amount is a numeral with at most four digits behind the point, and blanks around it. A
text that is none is turned down for one of three reasons, and its form decides for which:
it begins with a sign, it is a numeral with more digits behind the point, or it is no
numeral. A numeral that is an amount is read digit by digit if its digits fit.
-/

namespace Giro

open Decimal (Numeral)

namespace Money

theorem splitPoint_of_digits
    {whole : List Char}
    (areDigits : whole.all Char.isDigit = true) :
    splitPoint whole = (whole, none) ∧
      ∀ fraction, splitPoint (whole ++ '.' :: fraction) = (whole, some fraction) := by
  induction whole with
  | nil => exact ⟨rfl, fun fraction => rfl⟩
  | cons digit rest ih =>
      simp only [List.all_cons, Bool.and_eq_true] at areDigits
      obtain ⟨plain, pointed⟩ := ih areDigits.2
      have noPoint : digit ≠ '.' := by
        rintro rfl
        cases areDigits.1
      refine ⟨by simp [splitPoint, noPoint, plain], fun fraction => ?_⟩
      simp [splitPoint, noPoint, pointed]

/-- The parts before and after the point, with the point between them, are all there is. -/
theorem splitPoint_append (characters : List Char) :
    (splitPoint characters).1 ++ (splitPoint characters).2.elim [] ('.' :: ·) = characters := by
  induction characters with
  | nil => rfl
  | cons next rest ih =>
      rw [splitPoint]
      split
      · rename_i isPoint
        simp [isPoint]
      · simp [ih]

theorem beginsWithSign_iff {characters : List Char} :
    beginsWithSign characters = true ↔
      characters.head? = some '-' ∨ characters.head? = some '+' := by
  cases characters with
  | nil => simp [beginsWithSign]
  | cons next rest => simp [beginsWithSign]

/-- A numeral has no sign. -/
theorem beginsWithSign_chars (numeral : Numeral) : beginsWithSign numeral.chars = false := by
  have wholeDigits := numeral.wholeDigits
  obtain ⟨digit, rest, whole⟩ := List.exists_cons_of_ne_nil numeral.wholeSome
  rw [whole, List.all_cons, Bool.and_eq_true] at wholeDigits
  have noMinus : digit ≠ '-' := by
    rintro rfl
    cases wholeDigits.1
  have noPlus : digit ≠ '+' := by
    rintro rfl
    cases wholeDigits.1
  simp [Numeral.chars, whole, beginsWithSign, noMinus, noPlus]

/-- A numeral is digits and perhaps a point. -/
theorem isDigit_of_mem_chars
    {numeral : Numeral}
    {character : Char}
    (member : character ∈ numeral.chars)
    (noPoint : character ≠ '.') :
    character.isDigit = true := by
  rw [Numeral.chars, List.mem_append] at member
  rcases member with inside | inside
  · exact List.all_eq_true.mp numeral.wholeDigits character inside
  · split_ifs at inside with integral
    · cases inside
    · exact List.all_eq_true.mp numeral.fractionDigits character
        ((List.mem_cons.mp inside).resolve_left noPoint)

/-- A numeral has no blanks. -/
theorem trimChars_chars (numeral : Numeral) : Text.trimChars numeral.chars = numeral.chars := by
  refine Text.trimChars_eq_self fun character member => ?_
  by_cases point : character = '.'
  · rw [point]
    rfl
  · exact Text.isBlank_of_isDigit (isDigit_of_mem_chars member point)

/-- What begins with a sign is turned down for it, whatever follows. -/
theorem ofTrimmed_of_sign
    {characters : List Char}
    (signed : beginsWithSign characters = true) :
    ofTrimmed characters = .error .signed := by
  cases characters with
  | nil => cases signed
  | cons next rest => simp [ofTrimmed, signed]

/-- A numeral is judged by the count of its digits behind the point, and then read. -/
theorem ofTrimmed_chars (numeral : Numeral) :
    ofTrimmed numeral.chars =
      if storedDigits < numeral.fraction.length % countLimit then
        .error (.precision (numeral.fraction.length % countLimit))
      else (Decimal.ofChars numeral.chars).mapError fun fault => .format fault.message := by
  have unsigned := beginsWithSign_chars numeral
  have written : numeral.chars ≠ [] := by simp [Numeral.chars, numeral.wholeSome]
  obtain ⟨plain, pointed⟩ := splitPoint_of_digits numeral.wholeDigits
  rw [ofTrimmed]
  generalize Decimal.ofChars numeral.chars = read
  by_cases integral : numeral.fraction = []
  · have parts : splitPoint numeral.chars = (numeral.whole, none) := by
      rw [Numeral.chars, if_pos integral, List.append_nil, plain]
    simp only [parts, unsigned, integral]
    cases read <;> simp [written, numeral.wholeDigits, storedDigits, Except.mapError]
  · have parts : splitPoint numeral.chars = (numeral.whole, some numeral.fraction) := by
      rw [Numeral.chars, if_neg integral, pointed]
    simp only [parts, unsigned]
    cases read <;>
      simp [written, integral, numeral.wholeSome, numeral.wholeDigits, numeral.fractionDigits,
        Except.mapError]

/-- Digits without a point, or on both sides of one, are a numeral. -/
theorem exists_chars_eq
    {whole : List Char}
    {fraction : Option (List Char)}
    (wholeSome : whole ≠ [])
    (fractionSome : fraction ≠ some [])
    (wholeDigits : whole.all Char.isDigit = true)
    (fractionDigits : (fraction.getD []).all Char.isDigit = true) :
    ∃ numeral : Numeral, numeral.chars = whole ++ fraction.elim [] ('.' :: ·) := by
  refine ⟨⟨whole, fraction.getD [], wholeSome, wholeDigits, fractionDigits⟩, ?_⟩
  cases fraction with
  | none => simp [Numeral.chars]
  | some behind =>
      have behindSome : behind ≠ [] := fun nothing => fractionSome (congrArg some nothing)
      simp [Numeral.chars, behindSome]

/-- What is no numeral and has no sign is turned down for its form. -/
theorem ofTrimmed_of_unspelled
    {characters : List Char}
    (unsigned : beginsWithSign characters = false)
    (unspelled : ∀ numeral : Numeral, numeral.chars ≠ characters) :
    ∃ reason, ofTrimmed characters = .error (.format reason) := by
  have parts := splitPoint_append characters
  rw [ofTrimmed, unsigned]
  generalize splitPoint characters = halves at parts
  obtain ⟨whole, fraction⟩ := halves
  dsimp only at parts ⊢
  by_cases empty : characters = []
  · exact ⟨_, if_pos (List.isEmpty_iff.mpr empty)⟩
  rw [if_neg (by simpa using empty), if_neg Bool.false_ne_true]
  split_ifs with wholeMissing fractionMissing others
  · exact ⟨_, rfl⟩
  · exact ⟨_, rfl⟩
  · exact ⟨_, rfl⟩
  all_goals
    -- Nothing is left to be found fault with, so this is a numeral.
    have wholeSome : whole ≠ [] := by
      rintro rfl
      cases fraction with
      | none => exact empty parts.symm
      | some behind => simp at wholeMissing
    have fractionSome : fraction ≠ some [] := by
      rintro rfl
      simp at fractionMissing
    simp only [Bool.not_eq_true', Bool.not_eq_false, Bool.and_eq_true] at others
    obtain ⟨numeral, same⟩ := exists_chars_eq wholeSome fractionSome others.1 others.2
    exact absurd (same.trans parts) (unspelled numeral)

/-- A text is a numeral with nothing but blanks around it. -/
def Spells (text : String) (numeral : Numeral) : Prop :=
  Text.trimChars text.toList = numeral.chars

instance (text : String) (numeral : Numeral) : Decidable (Spells text numeral) :=
  inferInstanceAs (Decidable (_ = _))

variable {text : String} {numeral : Numeral}

theorem spells_chars (numeral : Numeral) : Spells (String.ofList numeral.chars) numeral := by
  rw [Spells, String.toList_ofList, trimChars_chars]

namespace Spells

theorem parse_eq (spells : Spells text numeral) : parse text = ofTrimmed numeral.chars := by
  rw [parse, spells]

/-- The digits behind the point are no more than the text has bytes. -/
theorem length_fraction_le (spells : Spells text numeral) :
    numeral.fraction.length <= text.utf8ByteSize := by
  have inside : numeral.fraction.length <= numeral.chars.length := by
    rw [Numeral.chars, List.length_append]
    split_ifs with integral
    · simp [integral]
    · rw [List.length_cons]
      omega
  calc
    numeral.fraction.length <= (Text.trimChars text.toList).length := by
      rwa [spells]
    _ <= text.toList.length := Text.length_trimChars_le _
    _ <= text.utf8ByteSize := Text.length_le_utf8ByteSize text

/-- A numeral with too many digits behind the point is refused, whatever they are. -/
theorem refused_of_long
    (spells : Spells text numeral)
    (long : storedDigits < numeral.fraction.length)
    (counted : numeral.fraction.length < countLimit) :
    parse text = .error (.precision numeral.fraction.length) := by
  rw [spells.parse_eq, ofTrimmed_chars, Nat.mod_eq_of_lt counted, if_pos long]

/-- A numeral with few digits behind the point is an amount if it is read as a decimal. -/
theorem parse_of_short
    (spells : Spells text numeral)
    (short : numeral.fraction.length <= storedDigits) :
    parse text =
      (Decimal.ofChars numeral.chars).mapError fun fault => .format fault.message := by
  have few := (Nat.mod_le numeral.fraction.length countLimit).trans short
  rw [spells.parse_eq, ofTrimmed_chars, if_neg (not_lt.mpr few)]

/-- A numeral with few digits behind the point is read digit by digit if all its digits fit. -/
theorem accepted_of_fits
    (spells : Spells text numeral)
    (short : numeral.fraction.length <= storedDigits)
    (fits : numeral.digits < Decimal.capacity) :
    ∃ amount, parse text = .ok amount ∧
      amount.coefficient = numeral.digits ∧ amount.scale = numeral.fraction.length := by
  obtain ⟨amount, read, exact⟩ := Decimal.Numeral.ofChars_of_fits fits (short.trans (by decide))
  exact ⟨amount, by rw [spells.parse_of_short short, read]; rfl, exact⟩

/-- Digits that fit are accepted as the number that they write. -/
theorem value_of_fits
    (spells : Spells text numeral)
    (short : numeral.fraction.length <= storedDigits)
    (fits : numeral.digits < Decimal.capacity) :
    ∃ amount, parse text = .ok amount ∧ amount.value = numeral.value := by
  obtain ⟨amount, parsed, coefficient, scale⟩ := spells.accepted_of_fits short fits
  exact ⟨amount, parsed, Decimal.Numeral.value_eq_of_same coefficient scale⟩

end Spells

/-- Whatever becomes of a text, its form decides. -/
theorem parse_cases (text : String) :
    (parse text = .error .signed ∧ beginsWithSign (Text.trimChars text.toList) = true) ∨
      (∃ numeral, Spells text numeral) ∨
      ((∃ reason, parse text = .error (.format reason)) ∧
        beginsWithSign (Text.trimChars text.toList) = false ∧
        ∀ numeral, ¬ Spells text numeral) := by
  cases signed : beginsWithSign (Text.trimChars text.toList) with
  | true => exact .inl ⟨ofTrimmed_of_sign signed, rfl⟩
  | false =>
      by_cases spelled : ∃ numeral, Spells text numeral
      · exact .inr (.inl spelled)
      · rw [not_exists] at spelled
        exact .inr (.inr
          ⟨ofTrimmed_of_unspelled signed fun numeral same => spelled numeral same.symm,
            rfl, spelled⟩)

/-- What is accepted is a numeral. -/
theorem exists_spells_of_parse
    {amount : Decimal}
    (parsed : parse text = .ok amount) :
    ∃ numeral, Spells text numeral := by
  rcases parse_cases text with ⟨refused, -⟩ | spelled | ⟨⟨reason, refused⟩, -⟩
  · cases refused.symm.trans parsed
  · exact spelled
  · cases refused.symm.trans parsed

/-- What is accepted is what is read from the numeral. -/
theorem Spells.ofChars_of_parse
    {amount : Decimal}
    (spells : Spells text numeral)
    (parsed : parse text = .ok amount) :
    Decimal.ofChars numeral.chars = .ok amount := by
  rw [spells.parse_eq, ofTrimmed_chars] at parsed
  split_ifs at parsed
  cases read : Decimal.ofChars numeral.chars with
  | error fault => rw [read] at parsed; cases parsed
  | ok number => rw [read] at parsed; cases parsed; rfl

/-- Nothing but digits and a point is accepted, blanks around them aside. -/
theorem isDigit_of_parse
    {amount : Decimal}
    (parsed : parse text = .ok amount)
    {character : Char}
    (member : character ∈ text.toList)
    (visible : Text.isBlank character = false)
    (noPoint : character ≠ '.') :
    character.isDigit = true := by
  obtain ⟨numeral, spells⟩ := exists_spells_of_parse parsed
  have inside := Text.mem_trimChars member visible
  rw [spells] at inside
  exact isDigit_of_mem_chars inside noPoint

/-- A numeral has no sign, with or without blanks around it. -/
theorem Spells.unsigned (spells : Spells text numeral) :
    beginsWithSign (Text.trimChars text.toList) = false := by
  rw [spells]
  exact beginsWithSign_chars numeral

/--
A numeral with at most four digits behind the point is accepted if its digits fit, as the
decimal with just these digits. A text that is no such numeral is refused: for its sign if
it begins with one, for the count of digits behind the point if it is a numeral with more of
them, and for its form in every other case.
-/
theorem accepts_exactly_amounts (short : text.utf8ByteSize < 2 ^ 32) :
    (∀ numeral, Spells text numeral -> numeral.fraction.length <= 4 ->
      numeral.digits <= 2 ^ 96 - 1 ->
        ∃ amount, parse text = .ok amount ∧
          amount.coefficient = numeral.digits ∧ amount.scale = numeral.fraction.length) ∧
    ((∀ numeral, Spells text numeral -> 4 < numeral.fraction.length) ->
      ∃ fault, parse text = .error fault ∧
        (fault = .signed ↔
          (Text.trimChars text.toList).head? = some '-' ∨
            (Text.trimChars text.toList).head? = some '+') ∧
        (∀ provided, fault = .precision provided ↔
          ∃ numeral, Spells text numeral ∧ 4 < numeral.fraction.length ∧
            provided = numeral.fraction.length) ∧
        ((∃ reason, fault = .format reason) ↔
          ¬ ((Text.trimChars text.toList).head? = some '-' ∨
            (Text.trimChars text.toList).head? = some '+') ∧
          ∀ numeral, ¬ Spells text numeral)) := by
  have capacity : Decimal.capacity = 2 ^ 96 := by norm_num [Decimal.capacity]
  have limit : countLimit = 2 ^ 32 := by norm_num [countLimit]
  have refusal {numeral} (spells : Spells text numeral) (long : 4 < numeral.fraction.length) :
      parse text = .error (.precision numeral.fraction.length) :=
    spells.refused_of_long long (limit ▸ spells.length_fraction_le.trans_lt short)
  refine ⟨fun numeral spells few fits => spells.accepted_of_fits few ?_, fun long => ?_⟩
  · rw [capacity]
    omega
  rw [← beginsWithSign_iff]
  rcases parse_cases text with ⟨refused, signed⟩ | ⟨numeral, spells⟩ |
    ⟨⟨reason, refused⟩, unsigned, unspelled⟩
  · have unspelled numeral (spells : Spells text numeral) : False := by
      rw [spells.unsigned] at signed
      cases signed
    refine ⟨.signed, refused, iff_of_true rfl signed, fun provided => ?_, ?_⟩
    · exact ⟨nofun, fun ⟨numeral, spells, _⟩ => (unspelled numeral spells).elim⟩
    · exact ⟨fun ⟨_, same⟩ => (nomatch same), fun ⟨unsigned, _⟩ => absurd signed unsigned⟩
  · have refused := refusal spells (long numeral spells)
    refine ⟨_, refused, ?_, fun provided => ?_, ?_⟩
    · simp [spells.unsigned]
    · constructor
      · rintro ⟨⟩
        exact ⟨numeral, spells, long numeral spells, rfl⟩
      · rintro ⟨other, spelled, longer, rfl⟩
        exact Except.error.inj (refused.symm.trans (refusal spelled longer))
    · exact ⟨fun ⟨_, same⟩ => (nomatch same),
        fun ⟨_, unspelled⟩ => (unspelled numeral spells).elim⟩
  · refine ⟨.format reason, refused, ?_, fun provided => ?_, ?_⟩
    · simp [unsigned]
    · exact ⟨nofun, fun ⟨numeral, spells, _⟩ => (unspelled numeral spells).elim⟩
    · exact ⟨fun _ => ⟨by simp [unsigned], unspelled⟩, fun _ => ⟨reason, rfl⟩⟩

/-- Blanks and idle zeros do no harm, and an exponent does. -/
theorem accepts_exactly_amounts_sample :
    (∃ amount, parse " 012.3400 " = .ok amount ∧
      amount.coefficient = 123400 ∧ amount.scale = 4) ∧
    (∃ reason, parse "1e5" = .error (.format reason)) := by
  constructor
  · exact (accepts_exactly_amounts (by decide)).1
      ⟨['0', '1', '2'], ['3', '4', '0', '0'], by decide, by decide, by decide⟩
      (by decide) (by decide) (by decide)
  · have unspelled (numeral : Numeral) : ¬ Spells "1e5" numeral := fun spells => by
      have inside : 'e' ∈ numeral.chars := by
        rw [← spells]
        decide
      cases isDigit_of_mem_chars inside (by decide)
    obtain ⟨fault, refused, -, -, form⟩ := (accepts_exactly_amounts (by decide)).2
      fun numeral spells => (unspelled numeral spells).elim
    obtain ⟨reason, rfl⟩ := form.mpr ⟨by decide, unspelled⟩
    exact ⟨reason, refused⟩

end Money
end Giro
