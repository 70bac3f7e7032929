import Giro.Json.Value
import Giro.Text.Blank
import Giro.Text.Utf8

/-!
# HTTP requests and responses

The parts of a request that the gateway looks at, and the responses it gives.
Paths and queries come percent-encoded: a percent sign and two hexadecimal
digits stand for one byte of UTF-8. Bodies come in bytes of any kind.
-/

namespace Giro

/-- A request. -/
structure HttpRequest where
  method : String
  target : String
  headers : List (String × String)
  body : List UInt8
deriving DecidableEq

/-- What a response carries; the value is missing where only the head was asked for. -/
inductive Content
  | nothing
  | json (value : Option Json)
  | document (disposition text : String)

/-- What is left of the content where only the head was asked for. -/
def Content.head : Content -> Content
  | nothing => nothing
  | json _ => json none
  | document disposition _ => document disposition ""

/-- A response. -/
structure HttpResponse where
  status : Nat
  content : Content

namespace HttpResponse

/-- A response that carries nothing but its status. -/
def bare (status : Nat) : HttpResponse := ⟨status, .nothing⟩

/-- A response that carries a JSON value. -/
def ofJson (status : Nat) (value : Json) : HttpResponse := ⟨status, .json (some value)⟩

/-- The response to a request with some method. -/
def forMethod (response : HttpResponse) (method : String) : HttpResponse :=
  if method == "HEAD" then ⟨response.status, response.content.head⟩ else response

end HttpResponse

namespace HttpRequest

/-- The value of the first header with a name; the case of names does not matter. -/
def header? (request : HttpRequest) (name : String) : Option String :=
  (request.headers.find? (fun header => Text.lower header.1 == name)).map Prod.snd

/-- The target without a fragment. -/
def targetChars (request : HttpRequest) : List Char :=
  request.target.toList.takeWhile (fun character => character != '#')

/-- The path of a request, still encoded. -/
def path (request : HttpRequest) : List Char :=
  request.targetChars.takeWhile (fun character => character != '?')

/-- The query of a request, still encoded. -/
def query (request : HttpRequest) : List Char :=
  (request.targetChars.dropWhile (fun character => character != '?')).drop 1

end HttpRequest

namespace Percent

/-- The bytes of a percent-encoded text; a sign without two digits stands for itself. -/
def bytes : List Char -> List Nat
  | '%' :: high :: low :: rest =>
      match Text.hexValue? high, Text.hexValue? low with
      | some high, some low => (16 * high + low) :: bytes rest
      | _, _ => 0x25 :: bytes (high :: low :: rest)
  | character :: rest => Text.Utf8.encodeChar character ++ bytes rest
  | [] => []

/-- A percent-encoded text, if it stands for UTF-8. -/
def decode? (characters : List Char) : Option String :=
  (Text.Utf8.decode? (bytes characters)).map String.ofList

/-- A name or a value in a query, where a plus sign stands for a blank. -/
def decodeForm (characters : List Char) : String :=
  String.ofList
    (Text.Utf8.decodeLossy
      (bytes (characters.map (fun next => if next = '+' then ' ' else next))))

end Percent

/-- The pieces of a text between separators. -/
def Text.splitAt (separator : Char) : List Char -> List (List Char)
  | [] => [[]]
  | next :: rest =>
      match splitAt separator rest with
      | [] => [[next]]
      | piece :: pieces =>
          if next = separator then [] :: piece :: pieces
          else (next :: piece) :: pieces

namespace Percent

/-- The names and values of a query, in order. -/
def pairs (query : List Char) : List (String × String) :=
  ((Text.splitAt '&' query).filter (fun piece => !piece.isEmpty)).map (fun piece =>
    (decodeForm (piece.takeWhile (fun next => next != '=')),
      decodeForm ((piece.dropWhile (fun next => next != '=')).drop 1)))

end Percent
end Giro
