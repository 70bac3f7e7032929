import Giro.Json.Record
import Giro.Json.Value
import Giro.Proofs.Text.Utf8

/-!
# Texts written and read back

Whatever characters a text has, in quotes it is one token, and the content of that token is
the text: every escape that is written is understood, and no other character is changed.
An object of texts is then a row of such tokens and punctuation, each of which ends by
itself, and a record is read from it field by field.
-/

namespace Giro
namespace Json

namespace Token

theorem hexValue?_hexDigit {value : Nat} (small : value < 16) :
    Text.hexValue? (hexDigit value) = some value := by
  interval_cases value <;> rfl

/-- A unit in front of those taken. -/
def withUnit (unit : Nat) (taken : List (Option Nat) × List (Option Char)) :
    List (Option Nat) × List (Option Char) :=
  (some unit :: taken.1, taken.2)

/-- A character that stands for itself is one unit. -/
theorem takeUnits_plain
    {character : Char}
    (noQuote : character ≠ '"')
    (noBackslash : character ≠ '\\')
    (visible : ¬ character.toNat < 0x20)
    (rest : List (Option Char)) :
    takeUnits (some character :: rest) = (takeUnits rest).map (withUnit character.toNat) := by
  rw [takeUnits, if_neg visible]
  · cases takeUnits rest <;> rfl
  · exact noQuote
  · exact fun _ _ _ _ _ _ => noBackslash
  · exact fun _ _ _ => noBackslash

/-- A short escape is one unit. -/
theorem takeUnits_short
    {escaped character : Char}
    (short : shortEscape? escaped = some character)
    (rest : List (Option Char)) :
    takeUnits (some '\\' :: some escaped :: rest) =
      (takeUnits rest).map (withUnit character.toNat) := by
  rw [takeUnits, Option.bind_some, short]
  · cases takeUnits rest <;> rfl
  · intro a b c d rest same
    cases same
    cases short

/-- An escape with four digits is one unit. -/
theorem takeUnits_long
    {a b c d : Char}
    {unit : Nat}
    (digits : fourDigits? a b c d = some unit)
    (rest : List (Option Char)) :
    takeUnits (some '\\' :: some 'u' :: some a :: some b :: some c :: some d :: rest) =
      (takeUnits rest).map (withUnit unit) := by
  rw [takeUnits, digits]
  cases takeUnits rest <;> rfl

/-- A character is read back as its unit, escaped or not. -/
theorem takeUnits_escapeChar (character : Char) (rest : List (Option Char)) :
    takeUnits ((escapeChar character).map some ++ rest) =
      (takeUnits rest).map (withUnit character.toNat) := by
  rw [escapeChar]
  split_ifs with quote backslash _ _ _ _ _ control
  -- The short escapes.
  any_goals
    subst character
    exact takeUnits_short rfl rest
  case pos =>
    have high := hexValue?_hexDigit (show character.toNat / 16 < 16 by omega)
    have low := hexValue?_hexDigit (Nat.mod_lt character.toNat (by decide : 0 < 16))
    have zero : Text.hexValue? '0' = some 0 := rfl
    refine takeUnits_long ?_ rest
    rw [fourDigits?, high, low, zero]
    simp only [Option.bind_eq_bind, Option.bind_some, Option.some.injEq]
    omega
  case neg => exact takeUnits_plain quote backslash control rest

/-- The units of a text in quotes are its characters. -/
theorem takeUnits_flatMap_escapeChar (characters : List Char) (rest : List (Option Char)) :
    takeUnits ((characters.flatMap escapeChar).map some ++ some '"' :: rest) =
      some ((characters.map Char.toNat).map some, rest) := by
  induction characters with
  | nil => rfl
  | cons character others ih =>
      rw [List.flatMap_cons, List.map_append, List.append_assoc, takeUnits_escapeChar, ih]
      rfl

/-- A character is no half of a surrogate pair. -/
theorem noHalf_toNat (character : Char) :
    isHighHalf character.toNat = false ∧ isLowHalf character.toNat = false := by
  have valid : character.toNat < 0xD800 ∨ 0xDFFF < character.toNat ∧ character.toNat < 0x110000 :=
    character.valid
  simp only [isHighHalf, isLowHalf, Bool.and_eq_false_iff, decide_eq_false_iff_not]
  omega

/-- Characters are their own units. -/
theorem joinUnits?_map_toNat (characters : List Char) :
    joinUnits? (characters.map Char.toNat) = some characters := by
  induction characters with
  | nil => rfl
  | cons character others ih =>
      cases others with
      | nil => simp [joinUnits?, noHalf_toNat]
      | cons next rest =>
          rw [List.map_cons] at ih
          simp [joinUnits?, noHalf_toNat, ih]

/-- Units that are all there and are characters make up the text of these. -/
theorem joinText?_map_toNat (characters : List Char) :
    joinText? ((characters.map Char.toNat).map some) = some (String.ofList characters) := by
  have allThere : ((characters.map Char.toNat).map some).mapM (fun unit => unit) =
      some (characters.map Char.toNat) := by
    rw [List.mapM_map]
    exact List.mapM_pure.trans (congrArg some (List.map_id _))
  rw [joinText?, allThere]
  simp [joinUnits?_map_toNat]

/-- A text in quotes is one token with the text as its content. -/
theorem take_quoteChars (characters : List Char) (rest : List (Option Char)) :
    take ((quoteChars characters).map some ++ rest) =
      some (text (some (String.ofList characters)), rest) := by
  have taken := takeUnits_flatMap_escapeChar characters rest
  rw [quoteChars, List.cons_append, List.map_cons, List.cons_append, List.map_append,
    List.append_assoc, List.map_singleton, List.singleton_append, take, taken, Option.map_some,
    joinText?_map_toNat]

/-- A text has the same tokens in bytes. -/
theorem ofBytes_bytesOf (source : String) :
    ofBytes (Text.bytesOf source.toList) = ofText source := by
  rw [ofBytes, Text.Utf8.places_bytesOf, ofText]

end Token

/-- Characters that are one token, whatever stands behind them. -/
structure Piece where
  characters : List Char
  token : Token
  starts : ∃ first rest, characters = first :: rest ∧ Token.isGap (some first) = false
  taken : ∀ rest, Token.take (characters.map some ++ rest) = some (token, rest)

namespace Piece

/-- A text in quotes. -/
def quoted (content : String) : Piece where
  characters := quoteChars content.toList
  token := .text (some content)
  starts := ⟨'"', _, rfl, rfl⟩
  taken rest := by rw [Token.take_quoteChars, String.ofList_toList]

/-- What an object begins with. -/
def openObject : Piece := ⟨['\x7b'], .openObject, ⟨_, _, rfl, rfl⟩, fun _ => rfl⟩

/-- What an object ends with. -/
def closeObject : Piece := ⟨['\x7d'], .closeObject, ⟨_, _, rfl, rfl⟩, fun _ => rfl⟩

/-- What stands between two members. -/
def comma : Piece := ⟨[','], .comma, ⟨_, _, rfl, rfl⟩, fun _ => rfl⟩

/-- What stands between a name and its value. -/
def colon : Piece := ⟨[':'], .colon, ⟨_, _, rfl, rfl⟩, fun _ => rfl⟩

/-- Pieces that are put together are taken one by one. -/
theorem takeMany_flatMap {count : Nat} (pieces : List Piece) (enough : pieces.length <= count) :
    Token.takeMany count ((pieces.flatMap characters).map some) = pieces.map token := by
  induction pieces generalizing count with
  | nil => cases count <;> rfl
  | cons piece others ih =>
      obtain ⟨count, rfl⟩ := Nat.exists_eq_add_one_of_ne_zero (Nat.ne_zero_of_lt enough)
      obtain ⟨first, rest, starts, noGap⟩ := piece.starts
      have taken := piece.taken ((others.flatMap characters).map some)
      have rest := ih (Nat.le_of_succ_le_succ enough)
      rw [starts, List.map_cons, List.cons_append] at taken
      rw [List.flatMap_cons, List.map_append, starts, List.map_cons, List.cons_append,
        Token.takeMany, List.dropWhile_cons, noGap]
      simp [taken, rest]

theorem length_le_length_flatMap (pieces : List Piece) :
    pieces.length <= (pieces.flatMap characters).length := by
  induction pieces with
  | nil => exact Nat.le_refl _
  | cons piece others ih =>
      obtain ⟨first, rest, starts, -⟩ := piece.starts
      rw [List.flatMap_cons, starts, List.length_append, List.length_cons, List.length_cons]
      omega

/-- A text that is made of pieces has their tokens. -/
theorem ofText_flatMap (pieces : List Piece) :
    Token.ofText (String.ofList (pieces.flatMap characters)) = pieces.map token := by
  rw [Token.ofText, Token.ofPlaces, String.toList_ofList, List.length_map]
  exact takeMany_flatMap pieces (length_le_length_flatMap pieces)

end Piece

/-- A field of a record, the text it is written as, and the value that is read from it. -/
structure Field where
  name : String
  kind : Kind
  written : String
  datum : Datum
  read : ∀ rest, readDatum kind (.text (some written) :: rest) = .ok (datum, rest)

namespace Field

/-- The field in the layout of its record. -/
def entry (field : Field) : String × Kind := (field.name, field.kind)

/-- The field as a member of an object. -/
def member (field : Field) : String × Json := (field.name, .text field.written)

/-- The field as it is noted when it was read. -/
def reading (field : Field) : String × Datum := (field.name, field.datum)

/-- The member as it is written. -/
def pieces (field : Field) : List Piece :=
  [.quoted field.name, .colon, .quoted field.written]

/-- A member behind others. -/
def furtherPieces (field : Field) : List Piece :=
  .comma :: field.pieces

/-- Members are written one behind the other, with commas between them. -/
theorem toList_renderMembers (first : Field) (others : List Field) :
    (renderMembers ((first :: others).map member)).toList =
      (first.pieces ++ others.flatMap furtherPieces).flatMap Piece.characters := by
  induction others generalizing first with
  | nil =>
      simp [member, renderMembers, render, pieces, quote, Piece.quoted, Piece.colon]
  | cons next others ih =>
      have rest := ih next
      rw [List.map_cons] at rest
      rw [List.map_cons, List.map_cons, member, renderMembers]
      simp [rest, render, pieces, furtherPieces, quote, Piece.quoted, Piece.colon, Piece.comma]

/-- An object of texts is a row of pieces. -/
theorem render_object (first : Field) (others : List Field) :
    (object ((first :: others).map member)).render =
      String.ofList ((.openObject ::
        ((first.pieces ++ others.flatMap furtherPieces) ++ [.closeObject])).flatMap
          Piece.characters) := by
  have members := toList_renderMembers first others
  rw [List.map_cons] at members
  rw [List.map_cons, render, ← String.toList_inj]
  simp [members, Piece.openObject, Piece.closeObject]

/-- A value is found under its name if no name repeats. -/
theorem lookup_of_mem
    {Value : Type}
    {entries : List (String × Value)}
    (distinct : (entries.map Prod.fst).Nodup)
    {name : String}
    {value : Value}
    (member : (name, value) ∈ entries) :
    entries.lookup name = some value := by
  induction entries with
  | nil => cases member
  | cons entry others ih =>
      rw [List.map_cons, List.nodup_cons] at distinct
      rw [List.lookup_cons]
      rcases List.mem_cons.mp member with rfl | later
      · simp
      · have different : name ≠ entry.1 := fun same =>
          distinct.1 (List.mem_map.mpr ⟨_, later, same⟩)
        rw [beq_eq_false_iff_ne.mpr different]
        exact ih distinct.2 later

/-- What was read of all fields is arranged in their order. -/
theorem arrange_entries
    {found : List (String × Datum)}
    {fields : List Field}
    (all : ∀ field ∈ fields, found.lookup field.name = some field.datum) :
    arrange found (fields.map entry) = .ok (fields.map datum) := by
  induction fields with
  | nil => rfl
  | cons field others ih =>
      have here := all field (List.mem_cons_self ..)
      have rest := ih fun other member => all other (List.mem_cons_of_mem _ member)
      rw [List.map_cons, entry, arrange, here, rest]
      rfl

/-- A member is read, whether or not others were read before it. -/
theorem readMembers_pieces
    {layout : Layout}
    {field : Field}
    {found : List (String × Datum)}
    (listed : layout.lookup field.name = some field.kind)
    (fresh : found.lookup field.name = none)
    (count : Nat)
    (rest : List Token) :
    readMembers layout (count + 1) true found (field.pieces.map Piece.token ++ rest) =
        readMembers layout count false (field.reading :: found) rest ∧
      readMembers layout (count + 1) false found (field.furtherPieces.map Piece.token ++ rest) =
        readMembers layout count false (field.reading :: found) rest := by
  have read := field.read rest
  constructor
  · simp [readMembers, pieces, Piece.quoted, Piece.colon, listed, fresh, read, reading, bind,
      Except.bind]
  · simp [readMembers, furtherPieces, pieces, Piece.quoted, Piece.colon, Piece.comma, listed, fresh,
      read, reading, bind, Except.bind]

/-- Members behind others are read up to the end of the object. -/
theorem readMembers_further
    {layout : Layout}
    {fields : List Field}
    {found : List (String × Datum)}
    (listed : ∀ field ∈ fields, layout.lookup field.name = some field.kind)
    (fresh : ∀ field ∈ fields, found.lookup field.name = none)
    (distinct : (fields.map name).Nodup)
    {count : Nat}
    (enough : fields.length < count) :
    readMembers layout count false found
        ((fields.flatMap furtherPieces).map Piece.token ++ [.closeObject]) =
      (arrange ((fields.map reading).reverse ++ found) layout).map (fun data => (data, [])) := by
  induction fields generalizing found count with
  | nil =>
      obtain ⟨count, rfl⟩ := Nat.exists_eq_add_one_of_ne_zero (Nat.ne_zero_of_lt enough)
      rw [List.flatMap_nil, List.map_nil, List.map_nil, List.nil_append, List.reverse_nil,
        List.nil_append, readMembers]
      cases arrange found layout <;> rfl
  | cons field others ih =>
      obtain ⟨count, rfl⟩ := Nat.exists_eq_add_one_of_ne_zero (Nat.ne_zero_of_lt enough)
      rw [List.map_cons, List.nodup_cons] at distinct
      have stillFresh : ∀ other ∈ others,
          (field.reading :: found).lookup other.name = none := by
        intro other member
        have different : other.name ≠ field.name := fun same =>
          distinct.1 (List.mem_map.mpr ⟨other, member, same⟩)
        rw [reading, List.lookup_cons, beq_eq_false_iff_ne.mpr different]
        exact fresh other (List.mem_cons_of_mem _ member)
      have rest := ih (fun other member => listed other (List.mem_cons_of_mem _ member))
        stillFresh distinct.2 (Nat.lt_of_succ_lt_succ enough)
      have here := (readMembers_pieces (listed field (List.mem_cons_self ..))
        (fresh field (List.mem_cons_self ..)) count
        ((others.flatMap furtherPieces).map Piece.token ++ [.closeObject])).2
      rw [List.flatMap_cons, List.map_append, List.append_assoc, here, rest, List.map_cons,
        List.reverse_cons, List.append_assoc, List.singleton_append]

/-- An object that has the fields of a record in order is read as the record. -/
theorem readRecord_render
    (first : Field)
    (others : List Field)
    (distinct : ((first :: others).map name).Nodup) :
    readRecord ((first :: others).map entry)
        (Token.ofText (object ((first :: others).map member)).render) =
      .ok ((first :: others).map datum) := by
  have keys : ((first :: others).map entry).map Prod.fst = (first :: others).map name :=
    List.map_map ..
  have names : ((first :: others).map reading).map Prod.fst = (first :: others).map name :=
    List.map_map ..
  have listed : ∀ field ∈ first :: others,
      ((first :: others).map entry).lookup field.name = some field.kind := fun field member =>
    lookup_of_mem (keys ▸ distinct) (List.mem_map.mpr ⟨field, member, rfl⟩)
  have found : ∀ field ∈ first :: others,
      ((first :: others).map reading).reverse.lookup field.name = some field.datum := by
    intro field member
    have reversed : (((first :: others).map reading).reverse.map Prod.fst).Nodup := by
      rw [List.map_reverse, names]
      exact List.nodup_reverse.mpr distinct
    exact lookup_of_mem reversed
      (List.mem_reverse.mpr (List.mem_map.mpr ⟨field, member, rfl⟩))
  have arranged := arrange_entries found
  have fresh : ∀ field ∈ others, [first.reading].lookup field.name = none := by
    intro field member
    rw [List.map_cons, List.nodup_cons] at distinct
    have different : field.name ≠ first.name := fun same =>
      distinct.1 (List.mem_map.mpr ⟨field, member, same⟩)
    rw [reading, List.lookup_cons, beq_eq_false_iff_ne.mpr different]
    rfl
  rw [List.map_cons, List.nodup_cons] at distinct
  have size : (others.flatMap furtherPieces).length = others.length * 4 := by
    simp [furtherPieces, pieces, List.length_flatMap]
  generalize (first :: others).map entry = layout at listed arranged ⊢
  have read (count : Nat) (enough : others.length < count) :
      readMembers layout (count + 1) true []
          ((first.pieces ++ others.flatMap furtherPieces ++ [Piece.closeObject]).map
            Piece.token) =
        .ok ((first :: others).map datum, []) := by
    have nothing : ([] : List (String × Datum)).lookup first.name = none := rfl
    have here := (readMembers_pieces (listed first (List.mem_cons_self ..)) nothing count
      ((others.flatMap furtherPieces).map Piece.token ++ [.closeObject])).1
    have further := readMembers_further
      (fun field member => listed field (List.mem_cons_of_mem _ member)) fresh distinct.2 enough
    rw [List.map_cons, List.reverse_cons] at arranged
    rw [arranged] at further
    rw [List.map_append, List.map_append, List.append_assoc]
    exact here.trans further
  rw [render_object, Piece.ofText_flatMap, List.map_cons, Piece.openObject]
  dsimp only [readRecord]
  rw [read]
  · rfl
  · rw [List.length_cons, List.length_map, List.length_append, List.length_append, size]
    omega

end Field

end Json
end Giro
