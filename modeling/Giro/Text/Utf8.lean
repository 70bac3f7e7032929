/-!
# UTF-8

Bytes read as characters, byte by byte. Where the bytes are not those of a
character, the longest part that could still have become one counts as one
place without a character.
-/

namespace Giro
namespace Text
namespace Utf8

/-- A character begun: its value so far, the bytes still owed, and bounds on the next one. -/
structure Begun where
  value : Nat
  owed : Nat
  least : Nat
  most : Nat
deriving DecidableEq

/-- What a first byte leads to. -/
inductive Lead
  | single (character : Char)
  | begun (begun : Begun)
  | none
deriving DecidableEq

/-- What a byte leads to between two characters. -/
def lead (byte : Nat) : Lead :=
  if byte < 0x80 then .single (Char.ofNat byte)
  else if 0xC2 <= byte && byte <= 0xDF then .begun ⟨byte - 0xC0, 1, 0x80, 0xBF⟩
  else if byte = 0xE0 then .begun ⟨0, 2, 0xA0, 0xBF⟩
  else if byte = 0xED then .begun ⟨0xD, 2, 0x80, 0x9F⟩
  else if 0xE1 <= byte && byte <= 0xEF then .begun ⟨byte - 0xE0, 2, 0x80, 0xBF⟩
  else if byte = 0xF0 then .begun ⟨0, 3, 0x90, 0xBF⟩
  else if 0xF1 <= byte && byte <= 0xF3 then .begun ⟨byte - 0xF0, 3, 0x80, 0xBF⟩
  else if byte = 0xF4 then .begun ⟨4, 3, 0x80, 0x8F⟩
  else .none

/-- The places that are settled by a byte between two characters, and what it begins. -/
def settleFresh (byte : Nat) : List (Option Char) × Option Begun :=
  match lead byte with
  | .single character => ([some character], none)
  | .begun begun => ([], some begun)
  | .none => ([none], none)

/-- The places that are settled by a byte, and the character that has begun with it. -/
def settle : Option Begun -> Nat -> List (Option Char) × Option Begun
  | none, byte => settleFresh byte
  | some begun, byte =>
      if begun.least <= byte && byte <= begun.most then
        let value := 64 * begun.value + byte % 64
        if begun.owed <= 1 then ([some (Char.ofNat value)], none)
        else ([], some ⟨value, begun.owed - 1, 0x80, 0xBF⟩)
      else (none :: (settleFresh byte).1, (settleFresh byte).2)

/-- The places of bytes behind a character that may have begun. -/
def places : Option Begun -> List Nat -> List (Option Char)
  | none, [] => []
  | some _, [] => [none]
  | begun, byte :: rest =>
      (settle begun byte).1 ++ places (settle begun byte).2 rest

/-- The characters of bytes that are nothing but UTF-8. -/
def decode? (bytes : List Nat) : Option (List Char) :=
  (places none bytes).mapM (fun place => place)

/-- The characters of bytes, with a replacement character at each place without one. -/
def decodeLossy (bytes : List Nat) : List Char :=
  (places none bytes).map (fun place => place.getD '\uFFFD')

/-- The bytes of a character. -/
def encodeChar (character : Char) : List Nat :=
  (String.utf8EncodeChar character).map UInt8.toNat

end Utf8
end Text
end Giro
