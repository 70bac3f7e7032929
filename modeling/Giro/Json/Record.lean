import Giro.Decimal.Text
import Giro.Json.Token
import Giro.Time.Rfc3339
import Giro.Uuid

/-!
# Reading records from JSON texts

A record is a list of named fields of given kinds. It is written as an object,
whose unknown members are skipped, or as a list of all its fields in order. The
text is read from left to right and the first fault ends the reading: either the
text is malformed, or it is well formed so far and does not fit the record.
-/

namespace Giro
namespace Json

/-- Why a text does not yield a value. -/
inductive Fault
  | malformed
  | mismatched
deriving DecidableEq

/-- What kind of value a field holds. -/
inductive Kind
  | integer
  | text
  | optionalText
  | decimal
  | uuid
  | instant
  | word (allowed : List String)
  | textOrNumber

/-- The value of a field. -/
inductive Datum
  | integer (value : Int)
  | text (value : String)
  | optionalText (value : Option String)
  | decimal (value : Decimal)
  | uuid (value : Uuid)
  | instant (value : Instant)
  | number (value : Number)

/-- What encloses the place of reading. -/
inductive Enclosure
  | list
  | object
deriving DecidableEq

/-- What the reader of any value expects next. -/
inductive Expected
  | value
  | firstItem
  | firstName
  | name
  | colon
  | separator
deriving DecidableEq

/-- How deep values may be nested where their content is looked at. -/
def maxDepth : Nat := 127

/--
The tokens behind one value of any shape. A thorough reading also refuses
strings and numbers without a value, and values nested too deep.
-/
def skip (thorough : Bool) (depth : Nat) :
    Expected -> List Enclosure -> List Token -> Except Fault (List Token)
  | _, _, [] => .error .malformed
  | expected, enclosing, token :: rest =>
      let close (outer : List Enclosure) : Except Fault (List Token) :=
        if outer.isEmpty then .ok rest else skip thorough depth .separator outer rest
      let openInner (inner : Enclosure) : Except Fault (List Token) :=
        if thorough && maxDepth <= depth + enclosing.length then .error .malformed
        else
          skip thorough depth (if inner = .list then .firstItem else .firstName)
            (inner :: enclosing) rest
      let readValue : Except Fault (List Token) :=
        match token with
        | .text content => if thorough && content.isNone then .error .malformed else close enclosing
        | .number value => if thorough && value.isNone then .error .malformed else close enclosing
        | .bool _ => close enclosing
        | .null => close enclosing
        | .openList => openInner .list
        | .openObject => openInner .object
        | _ => .error .malformed
      match expected with
      | .value => readValue
      | .firstItem => if token = .closeList then close enclosing.tail else readValue
      | .firstName =>
          match token with
          | .closeObject => close enclosing.tail
          | .text content =>
              if thorough && content.isNone then .error .malformed
              else skip thorough depth .colon enclosing rest
          | _ => .error .malformed
      | .name =>
          match token with
          | .text content =>
              if thorough && content.isNone then .error .malformed
              else skip thorough depth .colon enclosing rest
          | _ => .error .malformed
      | .colon =>
          if token = .colon then skip thorough depth .value enclosing rest
          else .error .malformed
      | .separator =>
          match enclosing.head?, token with
          | some .list, .comma => skip thorough depth .value enclosing rest
          | some .list, .closeList => close enclosing.tail
          | some .object, .comma => skip thorough depth .name enclosing rest
          | some .object, .closeObject => close enclosing.tail
          | _, _ => .error .malformed

/-- The fault of a token of the wrong shape: one without a value is malformed. -/
def wrongShape : List Token -> Fault
  | [] => .malformed
  | .text none :: _ => .malformed
  | .number none :: _ => .malformed
  | .closeObject :: _ => .malformed
  | .closeList :: _ => .malformed
  | .comma :: _ => .malformed
  | .colon :: _ => .malformed
  | .unreadable :: _ => .malformed
  | _ => .mismatched

/-- A value that a reader may turn down as not fitting. -/
def fitting (value : Option Datum) (rest : List Token) :
    Except Fault (Datum × List Token) :=
  match value with
  | some datum => .ok (datum, rest)
  | none => .error .mismatched

/-- The decimal nearest to a number as it is written without an exponent. -/
def Number.toDecimal? : Number -> Option Decimal
  | .natural value => Decimal.ofInt? value
  | .negative size => Decimal.ofInt? (-(size : Int))
  | .real isNegative size =>
      (Decimal.ofText ((if isNegative then "-" else "") ++ size.toPlainText)).toOption

/-- One of a list of words, alone or as the name of an empty member. -/
def readWord (allowed : List String) :
    List Token -> Except Fault (Datum × List Token)
  | .text (some word) :: rest =>
      fitting (if allowed.contains word then some (.text word) else none) rest
  | .openObject :: .text (some word) :: rest =>
      if !allowed.contains word then .error .mismatched
      else
        match rest with
        | .colon :: .null :: .closeObject :: rest => .ok (.text word, rest)
        | .colon :: .null :: _ => .error .malformed
        | .colon :: rest => .error (wrongShape rest)
        | _ => .error .malformed
  | _ => .error .malformed

/-- The value of a field of a given kind. -/
def readDatum : Kind -> List Token -> Except Fault (Datum × List Token)
  | .integer, .number (some value) :: rest =>
      fitting (value.toInt64?.map .integer) rest
  | .text, .text (some value) :: rest => .ok (.text value, rest)
  | .optionalText, .null :: rest => .ok (.optionalText none, rest)
  | .optionalText, .text (some value) :: rest => .ok (.optionalText (some value), rest)
  | .decimal, .text (some value) :: rest =>
      fitting ((Decimal.ofAnyText? value).map .decimal) rest
  | .decimal, .number (some value) :: rest => fitting (value.toDecimal?.map .decimal) rest
  | .uuid, .text (some value) :: rest => fitting ((Uuid.ofText? value).map .uuid) rest
  | .instant, .text (some value) :: rest =>
      fitting ((Instant.ofText? value).map .instant) rest
  | .word allowed, tokens => readWord allowed tokens
  | .textOrNumber, .text (some value) :: rest => .ok (.text value, rest)
  | .textOrNumber, .number (some value) :: rest => .ok (.number value, rest)
  | .textOrNumber, tokens => do
      let _ <- skip true 1 .value [] tokens
      .error .mismatched
  | _, tokens => .error (wrongShape tokens)

/-- Names and kinds of the fields of a record, in order. -/
abbrev Layout := List (String × Kind)

/-- The value of a field that is not there: only optional ones may be missing. -/
def missing : Kind -> Except Fault Datum
  | .optionalText => .ok (.optionalText none)
  | _ => .error .mismatched

/-- The values of all fields in order, from the members read. -/
def arrange (found : List (String × Datum)) : Layout -> Except Fault (List Datum)
  | [] => .ok []
  | (name, kind) :: rest => do
      let datum <-
        match found.lookup name with
        | some datum => .ok datum
        | none => missing kind
      let others <- arrange found rest
      .ok (datum :: others)

/-- Read up to a number of members behind the opening of an object. -/
def readMembers (layout : Layout) :
    Nat -> Bool -> List (String × Datum) -> List Token ->
      Except Fault (List Datum × List Token)
  | 0, _, _, _ => .error .malformed
  | count + 1, isFirst, found, tokens =>
      let member : List Token -> Except Fault (List Datum × List Token)
        | .text (some name) :: rest =>
            match layout.lookup name with
            | some kind =>
                if (found.lookup name).isSome then .error .mismatched
                else
                  match rest with
                  | .colon :: rest => do
                      let (datum, rest) <- readDatum kind rest
                      readMembers layout count false ((name, datum) :: found) rest
                  | _ => .error .malformed
            | none =>
                match rest with
                | .colon :: rest => do
                    let rest <- skip false 1 .value [] rest
                    readMembers layout count false found rest
                | _ => .error .malformed
        | _ => .error .malformed
      match isFirst, tokens with
      | _, .closeObject :: rest => do
          let data <- arrange found layout
          .ok (data, rest)
      | true, tokens => member tokens
      | false, .comma :: rest => member rest
      | false, _ => .error .malformed

/-- Read the fields in order behind the opening of a list. -/
def readItems : Layout -> Bool -> List Token ->
    Except Fault (List Datum × List Token)
  | [], isFirst, tokens =>
      match isFirst, tokens with
      | _, .closeList :: rest => .ok ([], rest)
      | _, _ => .error .malformed
  | (_, kind) :: layout, isFirst, tokens => do
      let rest <-
        match isFirst, tokens with
        | _, .closeList :: _ => .error .mismatched
        | true, tokens => .ok tokens
        | false, .comma :: .closeList :: _ => .error .malformed
        | false, .comma :: rest => .ok rest
        | false, _ => .error .malformed
      let (datum, rest) <- readDatum kind rest
      let (data, rest) <- readItems layout false rest
      .ok (datum :: data, rest)

/-- The fields of a record that makes up a whole text. -/
def readRecord (layout : Layout) (tokens : List Token) : Except Fault (List Datum) :=
  let ended (read : List Datum × List Token) : Except Fault (List Datum) :=
    if read.2.isEmpty then .ok read.1 else .error .malformed
  match tokens with
  | .openObject :: rest =>
      (readMembers layout (tokens.length + 1) true [] rest).bind ended
  | .openList :: rest => (readItems layout true rest).bind ended
  | tokens => .error (wrongShape tokens)

/-- The single value of a given kind that makes up a whole text. -/
def readSingle (kind : Kind) (tokens : List Token) : Except Fault Datum := do
  let (datum, rest) <- readDatum kind tokens
  if rest.isEmpty then .ok datum else .error .malformed

end Json
end Giro
