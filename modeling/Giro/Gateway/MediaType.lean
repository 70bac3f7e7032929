/-!
# Media types

The type of a body as its header names it: a type, a subtype that may end in a
suffix behind a plus sign, and parameters with plain or quoted values.
-/

namespace Giro
namespace MediaType

/-- Whether a character may stand in a name. -/
def isToken (character : Char) : Bool :=
  character.isAlphanum || "!#$%&'*+-.^_\x60|~".toList.contains character

/-- Whether a character may stand between quotes. -/
def isQuotable (character : Char) : Bool :=
  character.toNat > 31 && character.toNat != 127

/-- What the reader of parameters is in. -/
inductive Place
  | name (isFirst : Bool)
  | value (isEmpty : Bool)
  | quoted (isEmpty : Bool)
  | behindQuote
deriving DecidableEq

/-- Whether characters behind the separator are well-formed parameters. -/
def parameters : Place -> List Char -> Bool
  | .name _, [] => false
  | .name isFirst, next :: rest =>
      if next = ' ' && isFirst then parameters (.name true) rest
      else if next = '=' then parameters (.value true) rest
      else if isToken next then parameters (.name false) rest
      else false
  | .value _, [] => true
  | .value isEmpty, next :: rest =>
      if next = '"' && isEmpty then parameters (.quoted true) rest
      else if isToken next then parameters (.value false) rest
      else if next = ';' && !isEmpty then parameters (.name true) rest
      else false
  | .quoted _, [] => false
  | .quoted isEmpty, next :: rest =>
      if next = '"' && !isEmpty then parameters .behindQuote rest
      else if isQuotable next then parameters (.quoted false) rest
      else false
  | .behindQuote, [] => true
  | .behindQuote, next :: rest =>
      if next = ' ' then parameters .behindQuote rest
      else if next = ';' then parameters (.name true) rest
      else false

/-- The type before the slash and what follows the slash. -/
def splitSlash (characters : List Char) : Option (List Char × List Char) :=
  match characters.takeWhile isToken, characters.dropWhile isToken with
  | [], _ => none
  | type, '/' :: rest => some (type, rest)
  | _, _ => none

/-- The subtype, if the parameters behind it are well formed. -/
def subtype? (characters : List Char) : Option (List Char) :=
  match characters.takeWhile isToken, characters.dropWhile isToken with
  | [], _ => none
  | subtype, [] => some subtype
  | subtype, next :: rest =>
      if (next = ';' || next = ' ') && parameters (.name true) rest then some subtype
      else none

/-- The part of a subtype behind its last plus sign, unless that comes first. -/
def suffix? (subtype : List Char) : Option (List Char) :=
  let reversed := subtype.reverse
  let suffix := reversed.takeWhile (fun next => next != '+')
  if suffix.length + 1 < subtype.length then some suffix.reverse else none

/-- Whether a header names JSON or a type based on it. -/
def isJson (header : String) : Bool :=
  match splitSlash header.toList with
  | none => false
  | some (type, rest) =>
      match subtype? rest with
      | none => false
      | some subtype =>
          let lowered := subtype.map Char.toLower
          type.map Char.toLower = "application".toList &&
            (lowered = "json".toList || suffix? lowered = some "json".toList)

end MediaType
end Giro
