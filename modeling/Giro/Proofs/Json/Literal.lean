import Giro.Gateway.TransferForm
import Giro.Proofs.Text.Digits

/-!
# Number literals

A number is written with a whole part without zeros in front, perhaps a point and
digits behind it, and perhaps a mark, a sign and the digits of an exponent. Such a
literal is one token, wherever it ends, and its parts are what its value is made of.
-/

namespace Giro
namespace Json

open Text (valueOfDigits)

/-- The exponent of a literal: a mark, perhaps a sign, and digits. -/
structure LiteralExponent where
  mark : Char
  sign : List Char
  digits : List Char
  isMark : mark = 'e' ∨ mark = 'E'
  isSign : sign = [] ∨ sign = ['+'] ∨ sign = ['-']
  digitsSome : digits ≠ []
  areDigits : digits.all Char.isDigit = true

namespace LiteralExponent

/-- The exponent as it is written. -/
def chars (exponent : LiteralExponent) : List Char :=
  exponent.mark :: exponent.sign ++ exponent.digits

/-- The exponent. -/
def value (exponent : LiteralExponent) : Int :=
  if exponent.sign = ['-'] then -(valueOfDigits exponent.digits : Int)
  else valueOfDigits exponent.digits

end LiteralExponent

/-- A number as it is written; there is no point if no digits are behind it. -/
structure Literal where
  isNegative : Bool
  whole : List Char
  fraction : List Char
  exponent? : Option LiteralExponent
  wholeSome : whole ≠ []
  wholeDigits : whole.all Char.isDigit = true
  wholeShort : 1 < whole.length -> whole.head? ≠ some '0'
  fractionDigits : fraction.all Char.isDigit = true

namespace Literal

/-- The point and what is behind it, without the exponent. -/
def pointChars (literal : Literal) : List Char :=
  if literal.fraction.isEmpty then [] else '.' :: literal.fraction

/-- The exponent with its mark, if there is one. -/
def exponentChars (literal : Literal) : List Char :=
  literal.exponent?.elim [] LiteralExponent.chars

/-- Everything but the sign. -/
def unsignedChars (literal : Literal) : List Char :=
  literal.whole ++ (literal.pointChars ++ literal.exponentChars)

/-- The literal as it is written. -/
def text (literal : Literal) : String :=
  String.ofList (if literal.isNegative then '-' :: literal.unsignedChars else literal.unsignedChars)

/-- All digits as one number, the point left out. -/
def digits (literal : Literal) : Nat :=
  valueOfDigits (literal.whole ++ literal.fraction)

/-- The power of ten that the last digit counts. -/
def power (literal : Literal) : Int :=
  literal.exponent?.elim 0 LiteralExponent.value - literal.fraction.length

/-- The number that is written. -/
def value (literal : Literal) : ℚ :=
  (if literal.isNegative then -1 else 1) * (literal.digits * 10 ^ literal.power)

/-- What a value is made of. -/
def parts (literal : Literal) : Number.Parts :=
  ⟨literal.isNegative, literal.whole, literal.fraction, literal.exponent?.map LiteralExponent.value⟩

/-- Whether something that stands behind a literal ends it; a place without a character does. -/
def EndsWith (rest : List (Option Char)) : Prop :=
  ∀ next, rest.head? = some (some next) ->
    next.isDigit = false ∧ next ≠ '.' ∧ next ≠ 'e' ∧ next ≠ 'E'

end Literal

namespace Token

/-- Digits are taken up to what is no digit. -/
theorem takeDigits_append
    {digits : List Char}
    {rest : List (Option Char)}
    (areDigits : digits.all Char.isDigit = true)
    (ends : ∀ next, rest.head? = some (some next) -> next.isDigit = false) :
    takeDigits (digits.map some ++ rest) = (digits, rest) := by
  have stops : rest.takeWhile isDigit = [] ∧ rest.dropWhile isDigit = rest := by
    rcases rest with _ | ⟨_ | next, others⟩
    · exact ⟨rfl, rfl⟩
    · exact ⟨rfl, rfl⟩
    · simp [isDigit, ends next rfl]
  have allDigits : ∀ place ∈ digits.map some, isDigit place = true := by
    simpa [isDigit] using areDigits
  rw [takeDigits, List.takeWhile_append_of_pos allDigits, List.dropWhile_append_of_pos allDigits,
    stops.1, stops.2, List.append_nil, List.filterMap_map]
  simp

/-- What begins with a mark, a sign and digits is an exponent. -/
theorem takeExponent_chars
    (exponent : LiteralExponent)
    {rest : List (Option Char)}
    (ends : Literal.EndsWith rest) :
    takeExponent (exponent.chars.map some ++ rest) = some (some exponent.value, rest) := by
  obtain ⟨mark, sign, digits, isMark, isSign, digitsSome, areDigits⟩ := exponent
  have taken := takeDigits_append areDigits fun next first => (ends next first).1
  have marked : (decide (mark = 'e') || decide (mark = 'E')) = true := by simpa using isMark
  have nonempty : digits.isEmpty = false := by simpa using digitsSome
  rcases isSign with rfl | rfl | rfl
  · obtain ⟨digit, others, rfl⟩ := List.exists_cons_of_ne_nil digitsSome
    simp only [List.all_cons, Bool.and_eq_true] at areDigits
    have noMinus : digit ≠ '-' := by
      rintro rfl
      cases areDigits.1
    have noPlus : digit ≠ '+' := by
      rintro rfl
      cases areDigits.1
    simp only [List.map_cons, List.cons_append] at taken
    simp [LiteralExponent.chars, LiteralExponent.value, takeExponent, marked, taken, noMinus,
      noPlus]
  · simp [LiteralExponent.chars, LiteralExponent.value, takeExponent, marked, taken, nonempty]
  · simp [LiteralExponent.chars, LiteralExponent.value, takeExponent, marked, taken, nonempty]

/-- Without a mark there is no exponent. -/
theorem takeExponent_of_ends {rest : List (Option Char)} (ends : Literal.EndsWith rest) :
    takeExponent rest = some (none, rest) := by
  rcases rest with _ | ⟨_ | next, others⟩
  · rfl
  · rfl
  · obtain ⟨-, -, noLower, noUpper⟩ := ends next rfl
    simp [takeExponent, noLower, noUpper]

theorem takeExponent_exponentChars
    (literal : Literal)
    {rest : List (Option Char)}
    (ends : Literal.EndsWith rest) :
    takeExponent (literal.exponentChars.map some ++ rest) =
      some (literal.exponent?.map LiteralExponent.value, rest) := by
  rw [Literal.exponentChars]
  cases literal.exponent? with
  | none => exact takeExponent_of_ends ends
  | some exponent => exact takeExponent_chars exponent ends

/-- What follows the digits in front of an exponent is no digit and no point. -/
theorem ends_exponentChars
    (literal : Literal)
    {rest : List (Option Char)}
    (ends : Literal.EndsWith rest) :
    ∀ next, (literal.exponentChars.map some ++ rest).head? = some (some next) ->
      next.isDigit = false ∧ next ≠ '.' := by
  rw [Literal.exponentChars]
  cases literal.exponent? with
  | none => exact fun next first => ⟨(ends next first).1, (ends next first).2.1⟩
  | some exponent =>
      rintro next ⟨⟩
      rcases exponent.isMark with mark | mark <;> rw [mark] <;> decide

/-- The parts of a literal are taken, whatever ends it. -/
theorem takeParts_unsignedChars
    (literal : Literal)
    (isNegative : Bool)
    {rest : List (Option Char)}
    (ends : Literal.EndsWith rest) :
    takeParts isNegative (literal.unsignedChars.map some ++ rest) =
      some ({ literal.parts with isNegative := isNegative }, rest) := by
  have exponent := takeExponent_exponentChars literal ends
  have after := ends_exponentChars literal ends
  have notEmpty : literal.whole.isEmpty = false := by simpa using literal.wholeSome
  have short : (literal.whole.isEmpty ||
      (decide (1 < literal.whole.length) && decide (literal.whole.head? = some '0'))) = false := by
    rw [notEmpty, Bool.false_or, Bool.and_eq_false_iff, decide_eq_false_iff_not,
      decide_eq_false_iff_not]
    by_cases long : 1 < literal.whole.length
    · exact .inr (literal.wholeShort long)
    · exact .inl long
  rw [Literal.unsignedChars, List.map_append, List.map_append, List.append_assoc,
    List.append_assoc, takeParts]
  generalize literal.exponentChars.map some ++ rest = tail at exponent after ⊢
  cases fraction : literal.fraction with
  | nil =>
      have noPoint : literal.pointChars = [] := by simp [Literal.pointChars, fraction]
      have whole := takeDigits_append literal.wholeDigits fun next first => (after next first).1
      rw [noPoint, List.map_nil, List.nil_append, whole]
      simp only [short]
      rcases tail with _ | ⟨_ | next, others⟩
      · simp [exponent, Literal.parts, fraction]
      · simp [exponent, Literal.parts, fraction]
      · have noPoint := (after next rfl).2
        simp [exponent, Literal.parts, fraction, noPoint]
  | cons digit others =>
      have point : literal.pointChars = '.' :: literal.fraction := by
        simp [Literal.pointChars, fraction]
      have noDigit : ∀ next, (('.' :: literal.fraction).map some ++ tail).head? = some (some next) ->
          next.isDigit = false := by
        rintro next ⟨⟩
        decide
      have whole := takeDigits_append literal.wholeDigits noDigit
      have behind := takeDigits_append literal.fractionDigits fun next first =>
        (after next first).1
      have some : literal.fraction.isEmpty = false := by simp [fraction]
      rw [point, whole]
      simp only [short, List.map_cons, List.cons_append, behind, some]
      simp [exponent, Literal.parts, fraction]

/-- A token that begins with a digit is a number. -/
theorem take_of_digit
    {digit : Char}
    (isDigit : digit.isDigit = true)
    (rest : List (Option Char)) :
    take (some digit :: rest) =
      (takeParts false (some digit :: rest)).map
        (fun taken => (number taken.1.value?, taken.2)) := by
  unfold take
  split
  case h_13 => rfl
  all_goals
    rename_i same
    cases same
    first | done | cases isDigit

end Token

namespace Literal

/-- What is behind the sign begins with a digit. -/
theorem unsignedChars_eq_cons (literal : Literal) :
    ∃ digit rest, literal.unsignedChars = digit :: rest ∧ digit.isDigit = true := by
  obtain ⟨digit, others, whole⟩ := List.exists_cons_of_ne_nil literal.wholeSome
  refine ⟨digit, others ++ (literal.pointChars ++ literal.exponentChars),
    by rw [unsignedChars, whole, List.cons_append], ?_⟩
  have areDigits := literal.wholeDigits
  rw [whole, List.all_cons, Bool.and_eq_true] at areDigits
  exact areDigits.1

/-- A literal begins with a sign or a digit. -/
theorem text_eq_cons (literal : Literal) :
    ∃ first rest, literal.text.toList = first :: rest ∧ Token.isGap (some first) = false := by
  rw [text, String.toList_ofList]
  cases literal.isNegative with
  | true => exact ⟨'-', literal.unsignedChars, rfl, rfl⟩
  | false =>
      obtain ⟨digit, rest, starts, isDigit⟩ := literal.unsignedChars_eq_cons
      refine ⟨digit, rest, starts, ?_⟩
      have different (gap : Char) (noDigit : gap.isDigit = false) : digit ≠ gap := by
        rintro rfl
        simp [noDigit] at isDigit
      simp [Token.isGap, different ' ' rfl, different '\n' rfl, different '\t' rfl,
        different '\r' rfl]

end Literal

namespace Token

/-- The characters of a literal are one token, whatever ends it. -/
theorem take_literal
    (literal : Literal)
    {rest : List (Option Char)}
    (ends : Literal.EndsWith rest) :
    take (literal.text.toList.map some ++ rest) = some (number literal.parts.value?, rest) := by
  have parts := takeParts_unsignedChars literal literal.isNegative ends
  have same : { literal.parts with isNegative := literal.isNegative } = literal.parts := rfl
  rw [same] at parts
  rw [Literal.text, String.toList_ofList]
  cases negative : literal.isNegative with
  | true =>
      rw [negative] at parts
      rw [if_pos rfl, List.map_cons, List.cons_append]
      change (takeParts true (literal.unsignedChars.map some ++ rest)).map _ = _
      rw [parts]
      rfl
  | false =>
      rw [negative] at parts
      obtain ⟨digit, others, starts, isDigit⟩ := literal.unsignedChars_eq_cons
      rw [starts, List.map_cons, List.cons_append] at parts
      rw [if_neg (by simp), starts, List.map_cons, List.cons_append, take_of_digit isDigit, parts]
      rfl

/-- A text that is a literal is one token. -/
theorem ofText_literal (literal : Literal) :
    ofText literal.text = [number literal.parts.value?] := by
  have ends : Literal.EndsWith [] := nofun
  have taken := take_literal literal ends
  obtain ⟨first, rest, starts, noGap⟩ := literal.text_eq_cons
  rw [List.append_nil, starts, List.map_cons] at taken
  have nothing (count : Nat) : takeMany count [] = [] := by cases count <;> rfl
  rw [ofText, starts, List.map_cons, ofPlaces, List.length_cons, takeMany, List.dropWhile_cons,
    noGap]
  simp [taken, nothing]

end Token

end Json

/-- A literal is taken as the number that its parts are worth, if they are worth any. -/
theorem AmountInput.read_literal (literal : Json.Literal) :
    (∀ number, literal.parts.value? = some number ->
      read literal.text = .ok (.number number)) ∧
    (literal.parts.value? = none -> ∃ fault, read literal.text = .error fault) := by
  rw [read, Json.readSingle, Json.Token.ofText_literal]
  constructor
  · intro number valued
    rw [valued]
    rfl
  · intro unvalued
    rw [unvalued]
    exact ⟨.malformed, rfl⟩

end Giro
