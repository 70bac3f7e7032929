/-!
# Blank characters

The characters that separate words without being part of them: the White_Space
property of Unicode. Trimming drops them at both ends of a text, squeezing
drops them everywhere.
-/

namespace Giro
namespace Text

/-- Whether a character has the White_Space property. -/
def isBlank (character : Char) : Bool :=
  let code := character.toNat
  (9 <= code && code <= 13) || code == 0x20 || code == 0x85 || code == 0xA0 ||
    code == 0x1680 || (0x2000 <= code && code <= 0x200A) || code == 0x2028 ||
    code == 0x2029 || code == 0x202F || code == 0x205F || code == 0x3000

/-- A text without the blanks in front of it. -/
def trimStartChars (characters : List Char) : List Char :=
  characters.dropWhile isBlank

/-- A text without the blanks behind it. -/
def trimEndChars (characters : List Char) : List Char :=
  (characters.reverse.dropWhile isBlank).reverse

/-- A text without the blanks around it. -/
def trimChars (characters : List Char) : List Char :=
  trimEndChars (trimStartChars characters)

/-- A text without the blanks around it. -/
def trim (text : String) : String :=
  String.ofList (trimChars text.toList)

/-- A text without any blanks. -/
def squeeze (text : String) : String :=
  String.ofList (text.toList.filter (fun character => !isBlank character))

/-- ASCII letters in upper case, everything else as it is. -/
def upper (text : String) : String :=
  String.ofList (text.toList.map Char.toUpper)

/-- ASCII letters in lower case, everything else as it is. -/
def lower (text : String) : String :=
  String.ofList (text.toList.map Char.toLower)

/-- Whether a text holds nothing but blanks. -/
def allBlank (text : String) : Bool :=
  text.toList.all isBlank

@[simp] theorem toList_squeeze (text : String) :
    (squeeze text).toList =
      text.toList.filter (fun character => !isBlank character) := by
  simp [squeeze]

@[simp] theorem toList_upper (text : String) :
    (upper text).toList = text.toList.map Char.toUpper := by
  simp [upper]

@[simp] theorem toList_trim (text : String) :
    (trim text).toList = trimChars text.toList := by
  simp [trim]

end Text
end Giro
