import Giro.Yaml.Scalar

/-!
# Tokens of a YAML text

The text is read from left to right. Indentation opens and closes block
collections; a colon behind a scalar makes that scalar a key, which may be what
opens a mapping, so tokens are put in at the place where the key began. Where a
text stops being YAML its tokens end with one that says so.
-/

namespace Giro
namespace Yaml

/-- A token. -/
inductive Token
  | documentStart
  | documentEnd
  | sequenceStart
  | mappingStart
  | blockEnd
  | flowSequenceStart
  | flowSequenceEnd
  | flowMappingStart
  | flowMappingEnd
  | flowEntry
  | entry
  | key
  | value
  | anchor (name : List Char)
  | reference (name : List Char)
  | tag
  | scalar (text : List Char) (style : ScalarStyle)
  | broken
deriving DecidableEq

/-- The place of something that may turn out to be a key. -/
structure PossibleKey where
  place : Nat
  cursor : Cursor
  required : Bool
deriving DecidableEq

/--
How far the reading has come: the tokens so far, last one first, the columns of
the open block collections, innermost first, and what may become a key within
each of the open brackets, innermost first.
-/
structure Reading where
  cursor : Cursor
  tokens : List Token
  columns : List Int
  keys : List (Option PossibleKey)
  keyAllowed : Bool

namespace Reading

/-- Nothing was read yet. -/
def start (text : List Char) : Reading :=
  ⟨.start text, [], [], [none], true⟩

/-- Whether the reading is between brackets. -/
def inFlow (reading : Reading) : Bool :=
  1 < reading.keys.length

/-- The column of the innermost block collection. -/
def indent (reading : Reading) : Int :=
  reading.columns.headD (-1)

/-- The reading with one more token. -/
def push (reading : Reading) (token : Token) : Reading :=
  { reading with tokens := token :: reading.tokens }

/-- The reading with a token put in behind a number of others. -/
def insert (reading : Reading) (place : Nat) (token : Token) : Reading :=
  let later := reading.tokens.length - place
  { reading with
    tokens := reading.tokens.take later ++ token :: reading.tokens.drop later }

/-- The reading at another place. -/
def moveTo (reading : Reading) (cursor : Cursor) : Reading :=
  { reading with cursor := cursor }

/-- What may become a key here, if it is still near enough. -/
def validKey? (reading : Reading) : Option PossibleKey :=
  (reading.keys.headD none).filter (fun key =>
    key.cursor.line = reading.cursor.line &&
      reading.cursor.offset <= key.cursor.offset + 1024)

/-- Whether something that has to be a key can no longer become one. -/
def lostKey (reading : Reading) : Bool :=
  reading.keys.any (fun key =>
    key.any (fun key =>
      key.required &&
        (key.cursor.line != reading.cursor.line ||
          key.cursor.offset + 1024 < reading.cursor.offset)))

/-- Give up the possible key, which must not have to be one. -/
def dropKey? (reading : Reading) : Option Reading :=
  if (reading.keys.headD none).any PossibleKey.required then none
  else some { reading with keys := none :: reading.keys.drop 1 }

/-- Note that what comes next may become a key. -/
def noteKey? (reading : Reading) : Option Reading :=
  if reading.keyAllowed then do
    let required := !reading.inFlow && reading.indent = reading.cursor.column
    let reading <- reading.dropKey?
    let key : PossibleKey := ⟨reading.tokens.length, reading.cursor, required⟩
    some { reading with keys := some key :: reading.keys.drop 1 }
  else some reading

/-- Close the block collections that stand further to the right than a column. -/
def close (reading : Reading) (column : Int) : Reading :=
  if reading.inFlow then reading
  else
    let closed := reading.columns.takeWhile (fun other => column < other)
    { reading with
      tokens := closed.map (fun _ => Token.blockEnd) ++ reading.tokens
      columns := reading.columns.drop closed.length }

/-- Open a block collection at a column, unless one is open there. -/
def openAt (reading : Reading) (column : Nat) (place : Nat) (token : Token) : Reading :=
  if reading.inFlow || column <= reading.indent then reading
  else { reading.insert place token with columns := (column : Int) :: reading.columns }

/-- Go on to the next token, over blanks, comments and ends of lines. -/
def skipGap : Nat -> Reading -> Reading
  | 0, reading => reading
  | fuel + 1, reading =>
      let tabs := reading.inFlow || !reading.keyAllowed
      let cursor :=
        reading.cursor.skipWhile (fun next => next = ' ' || (tabs && next = '\t'))
      let cursor :=
        if cursor.rest.head? = some '#' then
          cursor.skipWhile (fun next => !isBreak next)
        else cursor
      match cursor.takeBreak? with
      | some (_, after) =>
          skipGap fuel
            { reading with
              cursor := after
              keyAllowed := reading.keyAllowed || !reading.inFlow }
      | none => reading.moveTo cursor

/-- Read a mark of one character. -/
def mark (reading : Reading) (token : Token) : Reading :=
  (reading.push token).moveTo (reading.cursor.forward 1)

/-- Read the marks between two documents. -/
def document? (reading : Reading) (token : Token) : Option Reading := do
  let reading <- (reading.close (-1)).dropKey?
  some ((({ reading with keyAllowed := false }).push token).moveTo (reading.cursor.forward 3))

/-- Read an opening bracket. -/
def openFlow? (reading : Reading) (token : Token) : Option Reading := do
  let reading <- reading.noteKey?
  some (({ reading with keys := none :: reading.keys, keyAllowed := true }).mark token)

/-- Read a closing bracket. -/
def closeFlow? (reading : Reading) (token : Token) : Option Reading := do
  let reading <- reading.dropKey?
  let keys := if reading.inFlow then reading.keys.drop 1 else reading.keys
  some (({ reading with keys := keys, keyAllowed := false }).mark token)

/-- Read the comma between two items in brackets. -/
def flowEntry? (reading : Reading) : Option Reading := do
  let reading <- reading.dropKey?
  some (({ reading with keyAllowed := true }).mark .flowEntry)

/-- Read the dash in front of an item. -/
def entry? (reading : Reading) : Option Reading := do
  if !reading.inFlow && !reading.keyAllowed then none
  else
    let opened := reading.openAt reading.cursor.column reading.tokens.length .sequenceStart
    let reading <- opened.dropKey?
    some (({ reading with keyAllowed := true }).mark .entry)

/-- Read the question mark in front of a key. -/
def key? (reading : Reading) : Option Reading := do
  if !reading.inFlow && !reading.keyAllowed then none
  else
    let opened := reading.openAt reading.cursor.column reading.tokens.length .mappingStart
    let reading <- opened.dropKey?
    some (({ reading with keyAllowed := !reading.inFlow }).mark .key)

/-- Read the colon in front of a value. -/
def value? (reading : Reading) : Option Reading :=
  match reading.validKey? with
  | some key =>
      let keyed := reading.insert key.place .key
      let opened := keyed.openAt key.cursor.column key.place .mappingStart
      some
        (({ opened with keys := none :: opened.keys.drop 1, keyAllowed := false }).mark
          .value)
  | none =>
      if !reading.inFlow && !reading.keyAllowed then none
      else
        let opened :=
          reading.openAt reading.cursor.column reading.tokens.length .mappingStart
        some (({ opened with keyAllowed := !reading.inFlow }).mark .value)

/-- Whether a character may stand in the name of an anchor. -/
def isNameChar (character : Char) : Bool :=
  character.isAlphanum || character = '_' || character = '-'

/-- Read the name of an anchor, behind its mark. -/
def anchor? (reading : Reading) (token : List Char -> Token) : Option Reading := do
  let reading <- reading.noteKey?
  let name := (reading.cursor.rest.drop 1).takeWhile isNameChar
  let after := reading.cursor.forward (name.length + 1)
  let ends :=
    endsWord after.rest ||
      after.rest.head?.any ['?', ':', ',', ']', '\x7d', '%', '@', '\x60'].contains
  if name.isEmpty || !ends then none
  else some ((({ reading with keyAllowed := false }).push (token name)).moveTo after)

/-- Read a tag. -/
def tag? (reading : Reading) : Option Reading := do
  let reading <- reading.noteKey?
  let after := reading.cursor.skipWhile (fun next => !isGap next && next != ',')
  some ((({ reading with keyAllowed := false }).push .tag).moveTo after)

/-- Read a scalar in a line of words. -/
def scalar? (reading : Reading) (read : Cursor -> Option ReadScalar) : Option Reading := do
  let reading <- reading.noteKey?
  let scalar <- read reading.cursor
  some
    ((({ reading with keyAllowed := scalar.endsLine }).push
      (.scalar scalar.text scalar.style)).moveTo scalar.after)

/-- Read a block of lines. -/
def block? (reading : Reading) (folded : Bool) : Option Reading := do
  let reading <- reading.dropKey?
  let scalar <- Scalar.block folded reading.indent reading.cursor
  some
    ((({ reading with keyAllowed := true }).push (.scalar scalar.text scalar.style)).moveTo
      scalar.after)

/-- The characters with which no plain scalar begins. -/
def leadingMarks : List Char :=
  ['-', '?', ':', ',', '[', ']', '\x7b', '\x7d', '#', '&', '*', '!', '|', '>', '\'', '"',
    '%', '@', '\x60']

/-- Whether a plain scalar begins here. -/
def startsPlain (inFlow : Bool) : List Char -> Bool
  | [] => false
  | first :: rest =>
      !(isGap first || leadingMarks.contains first) ||
        (first = '-' && !rest.head?.any isSpace) ||
        (!inFlow && (first = '?' || first = ':') && !endsWord rest)

/-- Read the token that begins with a character. -/
def token? (reading : Reading) (first : Char) (rest : List Char) : Option Reading :=
  let alone := endsWord rest
  let inFlow := reading.inFlow
  if reading.cursor.column = 0 && first = '%' then none
  else if reading.cursor.isAtMarks '-' then reading.document? .documentStart
  else if reading.cursor.isAtMarks '.' then reading.document? .documentEnd
  else if first = '[' then reading.openFlow? .flowSequenceStart
  else if first = '\x7b' then reading.openFlow? .flowMappingStart
  else if first = ']' then reading.closeFlow? .flowSequenceEnd
  else if first = '\x7d' then reading.closeFlow? .flowMappingEnd
  else if first = ',' then reading.flowEntry?
  else if first = '-' && alone then reading.entry?
  else if first = '?' && (inFlow || alone) then reading.key?
  else if first = ':' && (inFlow || alone) then reading.value?
  else if first = '*' then reading.anchor? .reference
  else if first = '&' then reading.anchor? .anchor
  else if first = '!' then reading.tag?
  else if first = '|' && !inFlow then reading.block? false
  else if first = '>' && !inFlow then reading.block? true
  else if first = '\'' || first = '"' then reading.scalar? (Scalar.quoted first)
  else if startsPlain inFlow reading.cursor.rest then
    reading.scalar? (Scalar.plain inFlow (reading.indent + 1).toNat)
  else none

/-- All tokens of a text that stops being YAML here. -/
def stop (reading : Reading) : List Token :=
  (reading.push .broken).tokens.reverse

/-- All tokens of a text that ends here. -/
def finish (reading : Reading) : List Token :=
  let reading := reading.close (-1)
  match reading.dropKey? with
  | some reading => reading.tokens.reverse
  | none => reading.stop

/-- Read all tokens, in order. -/
def run : Nat -> Reading -> List Token
  | 0, reading => reading.stop
  | fuel + 1, reading =>
      let reading := reading.skipGap (fuel + 1)
      if reading.lostKey then reading.stop
      else
        match reading.cursor.rest with
        | [] => reading.finish
        | first :: rest =>
            let reading := reading.close reading.cursor.column
            match reading.token? first rest with
            | some reading => run fuel reading
            | none => reading.stop

end Reading

/-- The tokens of a text. -/
def Token.ofText (text : List Char) : List Token :=
  let reading := Reading.start text
  if reading.cursor.rest.all isPrintable then reading.run (text.length + 1) else [.broken]

end Yaml
end Giro
