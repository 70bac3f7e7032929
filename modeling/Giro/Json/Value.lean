import Giro.Text.Digits

/-!
# JSON values and their text

The values that the program writes: numbers are integers, the members of an
object keep their order. The text has no blanks between its parts; characters
below the blank, quotes and backslashes are escaped and all others stand for
themselves.
-/

namespace Giro

/-- A value to be written as JSON. -/
inductive Json
  | null
  | bool (value : Bool)
  | number (value : Int)
  | text (value : String)
  | list (items : List Json)
  | object (members : List (String × Json))

namespace Json

/-- A hexadecimal digit in lower case. -/
def hexDigit (value : Nat) : Char :=
  Nat.digitChar value

/-- One character of a string as it is written. -/
def escapeChar (character : Char) : List Char :=
  if character = '"' then ['\\', '"']
  else if character = '\\' then ['\\', '\\']
  else if character = '\x08' then ['\\', 'b']
  else if character = '\x0c' then ['\\', 'f']
  else if character = '\n' then ['\\', 'n']
  else if character = '\r' then ['\\', 'r']
  else if character = '\t' then ['\\', 't']
  else if character.toNat < 0x20 then
    ['\\', 'u', '0', '0', hexDigit (character.toNat / 16), hexDigit (character.toNat % 16)]
  else [character]

/-- A string with quotes around it. -/
def quoteChars (characters : List Char) : List Char :=
  '"' :: characters.flatMap escapeChar ++ ['"']

/-- A string with quotes around it. -/
def quote (text : String) : String :=
  String.ofList (quoteChars text.toList)

mutual

/-- A value as text. -/
def render : Json -> String
  | null => "null"
  | bool true => "true"
  | bool false => "false"
  | number value => Text.showInt value
  | text value => quote value
  | list items => "[" ++ renderItems items ++ "]"
  | object members => "\x7b" ++ renderMembers members ++ "\x7d"

/-- Values as text, with commas between them. -/
def renderItems : List Json -> String
  | [] => ""
  | [item] => item.render
  | item :: next :: rest => item.render ++ "," ++ renderItems (next :: rest)

/-- Members as text, with commas between them. -/
def renderMembers : List (String × Json) -> String
  | [] => ""
  | [(name, value)] => quote name ++ ":" ++ value.render
  | (name, value) :: next :: rest =>
      quote name ++ ":" ++ value.render ++ "," ++ renderMembers (next :: rest)

end

/-- The text of an optional string, or `null`. -/
def optionalText : Option String -> Json
  | some value => text value
  | none => null

end Json
end Giro
