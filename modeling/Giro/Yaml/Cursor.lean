/-!
# Places in a YAML text

A cursor stands at a place of a text and knows its line and column. Lines end
with a line feed, a carriage return, both of them, or one of the three Unicode
line breaks; the first four are all read as a line feed.
-/

namespace Giro
namespace Yaml

/-- A place in a text: what is left of it, and where that begins. -/
structure Cursor where
  rest : List Char
  line : Nat
  column : Nat
  offset : Nat
deriving DecidableEq

/-- Whether a character is a space or a tab. -/
def isSpace (character : Char) : Bool :=
  character = ' ' || character = '\t'

/-- Whether a character ends a line. -/
def isBreak (character : Char) : Bool :=
  character = '\n' || character = '\r' || character = '\u0085' ||
    character = '\u2028' || character = '\u2029'

/-- Whether a character separates words. -/
def isGap (character : Char) : Bool :=
  isSpace character || isBreak character

/-- Whether nothing, or nothing but a separator, comes next. -/
def endsWord : List Char -> Bool
  | [] => true
  | next :: _ => isGap next

/-- Whether a text may hold a character. -/
def isPrintable (character : Char) : Bool :=
  let code := character.toNat
  code == 0x9 || code == 0xA || code == 0xD || (0x20 <= code && code <= 0x7E) ||
    code == 0x85 || (0xA0 <= code && code <= 0xFFFD && code != 0xFEFF) ||
    0x10000 <= code

/-- What a line break is read as. -/
def readBreak (character : Char) : Char :=
  if character = '\u2028' || character = '\u2029' then character else '\n'

namespace Cursor

/-- The first place of a text; a byte order mark in front is no part of it. -/
def start (text : List Char) : Cursor :=
  match text with
  | '\uFEFF' :: rest => ⟨rest, 0, 0, 0⟩
  | rest => ⟨rest, 0, 0, 0⟩

/-- The place a number of characters further on the same line. -/
def forward (cursor : Cursor) (count : Nat) : Cursor :=
  ⟨cursor.rest.drop count, cursor.line, cursor.column + count, cursor.offset + count⟩

/-- The place behind the characters of a kind that come next. -/
def skipWhile (cursor : Cursor) (kind : Char -> Bool) : Cursor :=
  cursor.forward (cursor.rest.takeWhile kind).length

/-- The line break that comes next and the place behind it. -/
def takeBreak? (cursor : Cursor) : Option (Char × Cursor) :=
  match cursor.rest with
  | '\r' :: '\n' :: rest => some ('\n', ⟨rest, cursor.line + 1, 0, cursor.offset + 2⟩)
  | next :: rest =>
      if isBreak next then
        some (readBreak next, ⟨rest, cursor.line + 1, 0, cursor.offset + 1⟩)
      else none
  | [] => none

/-- The place behind the line break that comes next, if one does. -/
def skipBreak (cursor : Cursor) : Cursor :=
  match cursor.takeBreak? with
  | some (_, after) => after
  | none => cursor

/-- Whether a line begins here with three marks that stand by themselves. -/
def isAtMarks (cursor : Cursor) (mark : Char) : Bool :=
  cursor.column = 0 && cursor.rest.take 3 = [mark, mark, mark] &&
    endsWord (cursor.rest.drop 3)

/-- Whether a document begins or ends here. -/
def isAtDocument (cursor : Cursor) : Bool :=
  cursor.isAtMarks '-' || cursor.isAtMarks '.'

end Cursor
end Yaml
end Giro
