import Giro.Proofs.Account.Checksum
import Giro.Proofs.Gateway.Calls
import Giro.Proofs.Text.Words

/-!
# Mistyped account numbers

A slip of the hand puts another character of the same kind in the place of one, or exchanges
two neighbours of one kind. It moves the number that an account number stands for by the
difference of two values, times a power of ten for the place where they stand; an exchange
puts in one more factor, a power of ten less one. Since 97 is a prime, it divides none of the
three: values are below 97, and the powers of ten leave the remainder 1 only at exponents
that are multiples of 96, which is more digits than there are. That covers the two neighbours
that moving the first four characters to the end takes farthest apart.
-/

namespace Giro
namespace Iban

open Text (valueOfDigits)

/-- Both are digits, or both are capitals. -/
def SameKind (first second : Char) : Prop :=
  first.isDigit = true ∧ second.isDigit = true ∨ first.isUpper = true ∧ second.isUpper = true

/-- What is typed in place of what is meant, after one slip of the hand. -/
inductive Slip : List Char -> List Char -> Prop
  | replaced
      (front back : List Char)
      {meant typed : Char}
      (kind : SameKind meant typed)
      (other : meant ≠ typed) :
      Slip (front ++ meant :: back) (front ++ typed :: back)
  | exchanged
      (front back : List Char)
      {first second : Char}
      (kind : SameKind first second)
      (other : first ≠ second) :
      Slip (front ++ first :: second :: back) (front ++ second :: first :: back)

/-! ## Kinds -/

theorem isUpper_eq_false_of_isDigit {character : Char} (digit : character.isDigit = true) :
    character.isUpper = false := by
  have high : character.toNat <= 57 := by
    simp only [Char.isDigit, Bool.and_eq_true, decide_eq_true_eq,
      UInt32.le_iff_toNat_le] at digit
    exact digit.2
  by_contra upper
  have low := (toNat_of_isUpper (Bool.eq_true_of_not_eq_false upper)).1
  omega

theorem isDigit_eq_false_of_isUpper {character : Char} (upper : character.isUpper = true) :
    character.isDigit = false := by
  by_contra digit
  rw [isUpper_eq_false_of_isDigit (Bool.eq_true_of_not_eq_false digit)] at upper
  cases upper

theorem SameKind.symm {first second : Char} (kind : SameKind first second) :
    SameKind second first :=
  kind.imp And.symm And.symm

/-- Whether a character is a digit, and whether it is a capital. -/
def kindOf (character : Char) : Bool × Bool :=
  (character.isDigit, character.isUpper)

theorem SameKind.kindOf_eq {first second : Char} (kind : SameKind first second) :
    kindOf first = kindOf second := by
  rcases kind with ⟨firstDigit, secondDigit⟩ | ⟨firstUpper, secondUpper⟩
  · rw [kindOf, kindOf, firstDigit, secondDigit, isUpper_eq_false_of_isDigit firstDigit,
      isUpper_eq_false_of_isDigit secondDigit]
  · rw [kindOf, kindOf, firstUpper, secondUpper, isDigit_eq_false_of_isUpper firstUpper,
      isDigit_eq_false_of_isUpper secondUpper]

/-- A slip leaves the kind of character at every place. -/
theorem Slip.map_kindOf {meant typed : List Char} (slip : Slip meant typed) :
    typed.map kindOf = meant.map kindOf := by
  cases slip with
  | replaced front back kind other => simp [kind.kindOf_eq]
  | exchanged front back kind other => simp [kind.kindOf_eq]

theorem Slip.length_eq {meant typed : List Char} (slip : Slip meant typed) :
    typed.length = meant.length := by
  rw [← List.length_map kindOf, slip.map_kindOf, List.length_map]

section Kinds

variable {meant typed : List Char} (same : typed.map kindOf = meant.map kindOf)
include same

theorem all_isSymbol_of_kinds (symbols : meant.all isSymbol = true) :
    typed.all isSymbol = true := by
  have told : isSymbol = (fun kind : Bool × Bool => kind.1 || kind.2) ∘ kindOf := rfl
  rw [told, ← List.all_map, same, List.all_map]
  exact symbols

/-- The shape of an account number is a matter of kinds. -/
theorem wellFormed_of_kinds
    (symbols : meant.all isSymbol = true)
    (formed : wellFormed meant = true) :
    wellFormed typed = true := by
  have upper : Char.isUpper = Prod.snd ∘ kindOf := rfl
  have digit : Char.isDigit = Prod.fst ∘ kindOf := rfl
  simp only [wellFormed, Bool.and_eq_true] at formed ⊢
  refine ⟨⟨?_, ?_⟩, ?_⟩
  · refine List.all_eq_true.mpr fun character member => ?_
    have plain := isAlphanum_of_isSymbol
      (List.all_eq_true.mp (all_isSymbol_of_kinds same symbols) character member)
    rwa [Char.isAlphanum, Bool.or_comm] at plain
  · rw [upper, ← List.all_map, List.map_take, same, ← List.map_take, List.all_map]
    exact formed.1.2
  · rw [digit, ← List.all_map, List.map_take, List.map_drop, same, ← List.map_drop,
      ← List.map_take, List.all_map]
    exact formed.2

end Kinds

theorem isBlank_of_isSymbol {character : Char} (symbol : isSymbol character = true) :
    Text.isBlank character = false := by
  rw [isSymbol, Bool.or_eq_true] at symbol
  rcases symbol with digit | upper
  · exact Text.isBlank_of_isDigit digit
  · obtain ⟨low, high⟩ := toNat_of_isUpper upper
    simp [Text.isBlank]
    omega

theorem toUpper_of_isSymbol {character : Char} (symbol : isSymbol character = true) :
    character.toUpper = character := by
  refine Char.toUpper_eq_of_not_isLower fun lower => ?_
  have low : 97 <= character.toNat := by
    simp only [Char.isLower, Bool.and_eq_true, decide_eq_true_eq,
      UInt32.le_iff_toNat_le] at lower
    exact lower.1
  rw [isSymbol, Bool.or_eq_true] at symbol
  rcases symbol with digit | upper
  · simp only [Char.isDigit, Bool.and_eq_true, decide_eq_true_eq,
      UInt32.le_iff_toNat_le] at digit
    have high : character.toNat <= 57 := digit.2
    omega
  · have high := (toNat_of_isUpper upper).2
    omega

/-- Symbols are in normal form. -/
theorem normalize_of_isSymbol {text : String} (symbols : text.toList.all isSymbol = true) :
    normalize text = text := by
  rw [List.all_eq_true] at symbols
  have visible : ∀ character ∈ text.toList, (!Text.isBlank character) = true :=
    fun character member => by rw [isBlank_of_isSymbol (symbols character member)]; rfl
  rw [← String.toList_inj, normalize, Text.toList_upper, Text.toList_squeeze,
    List.filter_eq_self.mpr visible]
  exact (List.map_congr_left fun character member =>
    toUpper_of_isSymbol (symbols character member)).trans (List.map_id _)

/-! ## Values and places -/

/-- The number that a symbol stands for. -/
def valueOf (character : Char) : Nat :=
  valueOfDigits (expand character)

theorem expand_of_isDigit {character : Char} (digit : character.isDigit = true) :
    expand character = [character] :=
  if_pos digit

/-- A capital stands for two digits. -/
theorem expand_of_isUpper {character : Char} (upper : character.isUpper = true) :
    (expand character).length = 2 ∧ valueOf character = character.toNat - 55 := by
  obtain ⟨low, high⟩ := toNat_of_isUpper upper
  have first : 'A'.toNat = 65 := rfl
  have letter : expand character = Text.digitsOf (character.toNat - 'A'.toNat + 10) :=
    if_neg (by rw [isDigit_eq_false_of_isUpper upper]; exact Bool.false_ne_true)
  rw [valueOf, letter, Text.valueOfDigits_digitsOf]
  exact ⟨Text.length_digitsOf_eq_two (by omega) (by omega), by omega⟩

theorem valueOf_of_isDigit {character : Char} (digit : character.isDigit = true) :
    48 <= character.toNat ∧ character.toNat <= 57 ∧ valueOf character = character.toNat - 48 := by
  have zero : '0'.toNat = 48 := rfl
  have bounds : 48 <= character.toNat ∧ character.toNat <= 57 := by
    simpa [Char.isDigit, UInt32.le_iff_toNat_le] using digit
  rw [valueOf, expand_of_isDigit digit, Text.valueOfDigits_singleton, Text.digitValue, zero]
  exact ⟨bounds.1, bounds.2, rfl⟩

section Symbols

variable {first second : Char} (kind : SameKind first second)
include kind

theorem SameKind.length_expand : (expand first).length = (expand second).length := by
  rcases kind with ⟨firstDigit, secondDigit⟩ | ⟨firstUpper, secondUpper⟩
  · rw [expand_of_isDigit firstDigit, expand_of_isDigit secondDigit]
    rfl
  · rw [(expand_of_isUpper firstUpper).1, (expand_of_isUpper secondUpper).1]

theorem SameKind.valueOf_lt : valueOf first < 97 ∧ valueOf second < 97 := by
  rcases kind with ⟨firstDigit, secondDigit⟩ | ⟨firstUpper, secondUpper⟩
  · have firstValue := valueOf_of_isDigit firstDigit
    have secondValue := valueOf_of_isDigit secondDigit
    omega
  · have firstBounds := toNat_of_isUpper firstUpper
    have secondBounds := toNat_of_isUpper secondUpper
    rw [(expand_of_isUpper firstUpper).2, (expand_of_isUpper secondUpper).2]
    omega

/-- Of one kind, a symbol is told by its value. -/
theorem SameKind.eq_of_valueOf (same : valueOf first = valueOf second) : first = second := by
  refine Char.toNat_inj.mp ?_
  rcases kind with ⟨firstDigit, secondDigit⟩ | ⟨firstUpper, secondUpper⟩
  · have firstValue := valueOf_of_isDigit firstDigit
    have secondValue := valueOf_of_isDigit secondDigit
    omega
  · have firstBounds := toNat_of_isUpper firstUpper
    have secondBounds := toNat_of_isUpper secondUpper
    rw [(expand_of_isUpper firstUpper).2, (expand_of_isUpper secondUpper).2] at same
    omega

end Symbols

/-- The number that characters in a row stand for. -/
def rowValue (characters : List Char) : Nat :=
  valueOfDigits (characters.flatMap expand)

/-- How many digits characters in a row stand for. -/
def rowLength (characters : List Char) : Nat :=
  (characters.flatMap expand).length

theorem rowValue_append (front back : List Char) :
    rowValue (front ++ back) = rowValue front * tenTo (rowLength back) + rowValue back := by
  rw [rowValue, List.flatMap_append, Text.valueOfDigits_append]
  rfl

theorem rowLength_append (front back : List Char) :
    rowLength (front ++ back) = rowLength front + rowLength back := by
  rw [rowLength, List.flatMap_append, List.length_append]
  rfl

theorem rowValue_cons (character : Char) (rest : List Char) :
    rowValue (character :: rest) = valueOf character * tenTo (rowLength rest) + rowValue rest := by
  rw [rowValue, List.flatMap_cons, Text.valueOfDigits_append]
  rfl

theorem rowLength_cons (character : Char) (rest : List Char) :
    rowLength (character :: rest) = (expand character).length + rowLength rest := by
  rw [rowLength, List.flatMap_cons, List.length_append]
  rfl

theorem rowValue_singleton (character : Char) : rowValue [character] = valueOf character := by
  rw [rowValue, List.flatMap_singleton]
  rfl

theorem rowLength_singleton (character : Char) :
    rowLength [character] = (expand character).length := by
  rw [rowLength, List.flatMap_singleton]

/-- Symbols stand for one or two digits each. -/
theorem rowLength_bounds {characters : List Char} (symbols : characters.all isSymbol = true) :
    characters.length <= rowLength characters ∧ rowLength characters <= 2 * characters.length := by
  induction characters with
  | nil => decide
  | cons character rest ih =>
      simp only [List.all_cons, Bool.and_eq_true] at symbols
      have others := ih symbols.2
      have digits : 1 <= (expand character).length ∧ (expand character).length <= 2 := by
        have symbol := symbols.1
        rw [isSymbol, Bool.or_eq_true] at symbol
        rcases symbol with digit | upper
        · rw [expand_of_isDigit digit, List.length_singleton]
          omega
        · rw [(expand_of_isUpper upper).1]
          omega
      rw [rowLength_cons, List.length_cons]
      omega

theorem number_eq (characters : List Char) : number characters = rowValue (rotate characters) := rfl

/-! ## Divisors -/

theorem prime_ninetySeven : Prime (97 : Int) :=
  Int.prime_iff_natAbs_prime.mpr (by norm_num)

/-- No power of ten is a multiple of 97. -/
theorem not_dvd_tenTo (exponent : Nat) : ¬ (97 : Int) ∣ tenTo exponent := by
  intro divides
  have power : ((tenTo exponent : Nat) : Int) = 10 ^ exponent := Nat.cast_pow 10 exponent
  rw [power] at divides
  have ten := prime_ninetySeven.dvd_of_dvd_pow divides
  omega

/-- Before the 96th, no power of ten is one more than a multiple of 97. -/
theorem not_dvd_tenTo_sub_one {exponent : Nat} (positive : 0 < exponent) (small : exponent < 96) :
    ¬ (97 : Int) ∣ tenTo exponent - 1 := by
  have remainders : ∀ exponent < 96, 0 < exponent → tenTo exponent % 97 ≠ 1 := by decide +kernel
  have remainder := remainders exponent small positive
  omega

/-- Numbers below 97 are the same if the difference at some place is a multiple of it. -/
theorem eq_of_dvd
    {first second : Nat}
    (firstSmall : first < 97)
    (secondSmall : second < 97)
    {weight : Int}
    (other : ¬ (97 : Int) ∣ weight)
    (divides : (97 : Int) ∣ (first - second) * weight) :
    first = second := by
  have difference := (prime_ninetySeven.dvd_or_dvd divides).resolve_right other
  omega

/-! ## Slips -/

/-- A character has its place in the row, wherever it stood before the first four moved. -/
theorem rotate_place (front back : List Char) :
    ∃ before after, ∀ character,
      rotate (front ++ character :: back) = before ++ character :: after := by
  by_cases head : front.length < 4
  · refine ⟨back.drop (3 - front.length) ++ front, back.take (3 - front.length),
      fun character => ?_⟩
    have rest : 4 - front.length = 3 - front.length + 1 := by omega
    rw [rotate, List.drop_append, List.take_append, List.drop_eq_nil_of_le (by omega),
      List.take_of_length_le (by omega), rest, List.drop_succ_cons, List.take_succ_cons,
      List.nil_append, List.append_assoc]
  · refine ⟨front.drop 4, back ++ front.take 4, fun character => ?_⟩
    have none : 4 - front.length = 0 := by omega
    rw [rotate, List.drop_append, List.take_append, none, List.drop_zero, List.take_zero,
      List.append_nil, List.append_assoc, List.cons_append]

/-- Neighbours stay neighbours, or they come to stand at the two ends of the row. -/
theorem rotate_places (front back : List Char) :
    (∃ before after, ∀ first second,
        rotate (front ++ first :: second :: back) = before ++ first :: second :: after) ∨
      ∀ first second,
        rotate (front ++ first :: second :: back) = second :: (back ++ front) ++ [first] := by
  rcases Nat.lt_trichotomy front.length 3 with inside | border | behind
  · refine .inl ⟨back.drop (2 - front.length) ++ front, back.take (2 - front.length),
      fun first second => ?_⟩
    have rest : 4 - front.length = 2 - front.length + 1 + 1 := by omega
    rw [rotate, List.drop_append, List.take_append, List.drop_eq_nil_of_le (by omega),
      List.take_of_length_le (by omega), rest, List.drop_succ_cons, List.take_succ_cons,
      List.drop_succ_cons, List.take_succ_cons, List.nil_append, List.append_assoc]
  · refine .inr fun first second => ?_
    have one : 4 - front.length = 0 + 1 := by omega
    rw [rotate, List.drop_append, List.take_append, List.drop_eq_nil_of_le (by omega),
      List.take_of_length_le (by omega), one, List.drop_succ_cons, List.take_succ_cons,
      List.drop_zero, List.take_zero, List.nil_append, List.cons_append, List.cons_append,
      List.append_assoc]
  · refine .inl ⟨front.drop 4, back ++ front.take 4, fun first second => ?_⟩
    have none : 4 - front.length = 0 := by omega
    rw [rotate, List.drop_append, List.take_append, none, List.drop_zero, List.take_zero,
      List.append_nil, List.append_assoc, List.cons_append, List.cons_append]

/-- Another character of its kind moves the number by no multiple of 97. -/
theorem eq_of_replaced
    (front back : List Char)
    {meant typed : Char}
    (kind : SameKind meant typed)
    (divides : (97 : Int) ∣ number (front ++ meant :: back) - number (front ++ typed :: back)) :
    meant = typed := by
  obtain ⟨before, after, placed⟩ := rotate_place front back
  have moved : (number (front ++ meant :: back) : Int) - number (front ++ typed :: back) =
      (valueOf meant - valueOf typed) * tenTo (rowLength after) := by
    rw [number_eq, number_eq, placed, placed, rowValue_append, rowValue_append, rowValue_cons,
      rowValue_cons, rowLength_cons, rowLength_cons, kind.length_expand]
    push_cast
    ring
  rw [moved] at divides
  exact kind.eq_of_valueOf
    (eq_of_dvd kind.valueOf_lt.1 kind.valueOf_lt.2 (not_dvd_tenTo _) divides)

/-- Exchanging two neighbours of one kind moves the number by no multiple of 97. -/
theorem eq_of_exchanged
    (front back : List Char)
    {first second : Char}
    (kind : SameKind first second)
    (symbols : (front ++ first :: second :: back).all isSymbol = true)
    (short : (front ++ first :: second :: back).length <= maxLength)
    (divides : (97 : Int) ∣
      number (front ++ first :: second :: back) - number (front ++ second :: first :: back)) :
    first = second := by
  have most : maxLength = 34 := rfl
  have digits := (rowLength_bounds symbols).2
  rw [rowLength_append, rowLength_cons, rowLength_cons, ← kind.length_expand] at digits
  have some : 0 < (expand first).length := by
    simp only [List.all_append, List.all_cons, Bool.and_eq_true] at symbols
    have alone : [first].all isSymbol = true := by simpa using symbols.2.1
    have long := (rowLength_bounds alone).1
    rwa [rowLength_singleton] at long
  have unit {exponent : Nat} (positive : 0 < exponent) (small : exponent < 96) (place : Nat) :
      ¬ (97 : Int) ∣ (tenTo exponent - 1) * tenTo place := fun divides =>
    (prime_ninetySeven.dvd_or_dvd divides).elim
      (not_dvd_tenTo_sub_one positive small) (not_dvd_tenTo place)
  refine kind.eq_of_valueOf ?_
  rcases rotate_places front back with ⟨before, after, placed⟩ | placed
  · have moved : (number (front ++ first :: second :: back) : Int) -
          number (front ++ second :: first :: back) =
        (valueOf first - valueOf second) *
          ((tenTo (expand first).length - 1) * tenTo (rowLength after)) := by
      rw [number_eq, number_eq, placed, placed, rowValue_append, rowValue_append]
      simp only [rowValue_cons, rowLength_cons, kind.length_expand, tenTo_add]
      push_cast
      ring
    rw [moved] at divides
    exact eq_of_dvd kind.valueOf_lt.1 kind.valueOf_lt.2 (unit some (by omega) _) divides
  · -- The two ends of the row are as far apart as it has digits.
    have moved : (number (front ++ first :: second :: back) : Int) -
          number (front ++ second :: first :: back) =
        (valueOf second - valueOf first) *
          ((tenTo (rowLength (back ++ front) + (expand first).length) - 1) * tenTo 0) := by
      rw [number_eq, number_eq, placed, placed, rowValue_append, rowValue_append,
        rowValue_singleton, rowValue_singleton, rowLength_singleton, rowLength_singleton,
        rowValue_cons, rowValue_cons, kind.length_expand, tenTo_add, tenTo_zero]
      push_cast
      ring
    rw [moved] at divides
    have apart := rowLength_append back front
    rw [List.length_append, List.length_cons, List.length_cons] at *
    exact (eq_of_dvd kind.valueOf_lt.2 kind.valueOf_lt.1
      (unit (by omega) (by omega) 0) divides).symm

/-- A slip changes the remainder. -/
theorem Slip.number_mod_ne
    {meant typed : List Char}
    (slip : Slip meant typed)
    (symbols : meant.all isSymbol = true)
    (short : meant.length <= maxLength) :
    number typed % 97 ≠ number meant % 97 := by
  intro same
  have divides : (97 : Int) ∣ number meant - number typed := by omega
  cases slip with
  | replaced front back kind other => exact other (eq_of_replaced front back kind divides)
  | exchanged front back kind other =>
      exact other (eq_of_exchanged front back kind symbols short divides)

/-- What has the length and the shape of an account number is refused because of its checksum. -/
theorem parse_of_remainder
    {spelling : String}
    (long : minLength <= (normalize spelling).utf8ByteSize)
    (short : (normalize spelling).utf8ByteSize <= maxLength)
    (formed : wellFormed (normalize spelling).toList = true)
    (remainder : number (normalize spelling).toList % 97 ≠ 1) :
    parse spelling = .error (.checksum (normalize spelling)) := by
  have fits : ¬ (decide ((normalize spelling).utf8ByteSize < minLength) ||
      decide (maxLength < (normalize spelling).utf8ByteSize)) = true := by
    rw [Bool.or_eq_true, decide_eq_true_eq, decide_eq_true_eq, not_or, not_lt, not_lt]
    exact ⟨long, short⟩
  have other : (checksum (normalize spelling).toList != 1) = true := by
    rw [checksum_eq (all_isSymbol_of_wellFormed formed), bne_iff_ne]
    exact remainder
  rw [parse, if_neg fits, if_neg (by rw [formed]; exact Bool.false_ne_true), if_pos other]

theorem utf8ByteSize_of_isSymbol {text : String} (symbols : text.toList.all isSymbol = true) :
    text.utf8ByteSize = text.toList.length :=
  Text.utf8ByteSize_eq_length fun character member =>
    utf8Size_of_isAlphanum (isAlphanum_of_isSymbol (List.all_eq_true.mp symbols character member))

/--
Of an account number in its normal form, one character is replaced by another one of its
kind, or two neighbours of one kind are exchanged. However what is typed is spelled, it is
refused because of its checksum, and no form that names it as sender or receiver comes to
ask for a transfer.
-/
theorem slips_refused
    {spelling : String}
    {iban : Iban}
    (parsed : parse spelling = .ok iban)
    {typed : String}
    (slip : Slip iban.text.toList typed.toList) :
    parse typed = .error (.checksum typed) ∧
      (∀ spelled, normalize spelled = typed -> parse spelled = .error (.checksum typed)) ∧
      ∀ (form : TransferForm) (wanted : TransferRequest),
        normalize form.sender = typed ∨ normalize form.receiver = typed ->
          form.request ≠ .ok wanted := by
  obtain ⟨text, valid⟩ := parse_eq_ok_iff.mp parsed
  have formed := wellFormed_iff.mpr ⟨valid.plain, valid.country, valid.check⟩
  have symbols := all_isSymbol_of_wellFormed formed
  rw [← text] at valid formed symbols
  have typedSymbols := all_isSymbol_of_kinds slip.map_kindOf symbols
  have size : typed.utf8ByteSize = iban.text.utf8ByteSize := by
    rw [utf8ByteSize_of_isSymbol typedSymbols, utf8ByteSize_of_isSymbol symbols, slip.length_eq]
  have remainder : number typed.toList % 97 ≠ 1 := by
    rw [← valid.remainder]
    refine slip.number_mod_ne symbols ?_
    rw [← utf8ByteSize_of_isSymbol symbols]
    exact valid.short
  have refused (spelled : String) (normal : normalize spelled = typed) :
      parse spelled = .error (.checksum typed) := by
    rw [← normal] at size remainder slip ⊢
    refine parse_of_remainder ?_ ?_ (wellFormed_of_kinds slip.map_kindOf symbols formed) remainder
    · rw [size]
      exact valid.long
    · rw [size]
      exact valid.short
  refine ⟨refused typed (normalize_of_isSymbol typedSymbols), refused, ?_⟩
  intro form wanted named accepted
  have states := TransferForm.request_eq_ok_iff.mp accepted
  rcases named with sender | receiver
  · obtain ⟨other, parsed, -⟩ := states.sender
    rw [refused _ sender] at parsed
    cases parsed
  · obtain ⟨other, parsed, -⟩ := states.receiver
    rw [refused _ receiver] at parsed
    cases parsed

/-- The last check digit and the digit behind it, which end up farthest apart. -/
theorem slips_refused_sample :
    parse "DE89 3704 0044 0532 0130 00" = .ok ⟨"DE89370400440532013000"⟩ ∧
      Slip "DE89370400440532013000".toList "DE83970400440532013000".toList ∧
      parse "DE83970400440532013000" = .error (.checksum "DE83970400440532013000") := by
  have parsed : parse "DE89 3704 0044 0532 0130 00" = .ok ⟨"DE89370400440532013000"⟩ := by decide
  have slip : Slip "DE89370400440532013000".toList "DE83970400440532013000".toList :=
    .exchanged ['D', 'E', '8'] "70400440532013000".toList (.inl ⟨rfl, rfl⟩) (by decide)
  exact ⟨parsed, slip, (slips_refused parsed slip).1⟩

end Iban
end Giro
