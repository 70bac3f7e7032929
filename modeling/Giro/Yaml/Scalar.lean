import Giro.Text.Digits
import Giro.Yaml.Cursor

/-!
# Scalars of a YAML text

A scalar is written plainly, between quotes, or as a block of lines. In the first
two a single line break between words is read as a blank and further ones stand
for themselves; in a block, the indentation is dropped.
-/

namespace Giro
namespace Yaml

/-- What lies between two words: spaces, and the line breaks if there are any. -/
structure Gap where
  spaces : List Char
  first : Option (List Char)
  more : List Char
deriving DecidableEq

namespace Gap

/-- No gap at all. -/
def empty : Gap := ⟨[], none, []⟩

/-- The gap behind a line break that was escaped. -/
def escapedBreak : Gap := ⟨[], some [], []⟩

/-- Whether the gap goes over the end of a line. -/
def hasBreak (gap : Gap) : Bool := gap.first.isSome

/-- What is read for a gap. -/
def text (gap : Gap) : List Char :=
  match gap.first with
  | none => gap.spaces
  | some first =>
      if first = ['\n'] then if gap.more.isEmpty then [' '] else gap.more
      else first ++ gap.more

/--
The gap that goes on here and the place behind it. Behind a line break no tab
may stand in front of a given column.
-/
def read (indent : Nat) : Nat -> Gap -> Cursor -> Option (Gap × Cursor)
  | 0, gap, cursor => some (gap, cursor)
  | fuel + 1, gap, cursor =>
      match cursor.takeBreak?, cursor.rest with
      | some (character, after), _ =>
          match gap.first with
          | none => read indent fuel { gap with first := some [character] } after
          | some _ => read indent fuel { gap with more := gap.more ++ [character] } after
      | none, next :: _ =>
          if !isSpace next then some (gap, cursor)
          else if gap.hasBreak then
            if next = '\t' && cursor.column < indent then none
            else read indent fuel gap (cursor.forward 1)
          else read indent fuel { gap with spaces := gap.spaces ++ [next] } (cursor.forward 1)
      | none, [] => some (gap, cursor)

end Gap

/-- How a scalar is written. -/
inductive ScalarStyle
  | plain
  | quoted
  | block
deriving DecidableEq

/-- A scalar that was read, and whether it ended on a later line than its last word. -/
structure ReadScalar where
  text : List Char
  style : ScalarStyle
  endsLine : Bool
  after : Cursor
deriving DecidableEq

namespace Scalar

/-- The characters that have a meaning of their own between brackets. -/
def flowMarks : List Char := [',', '[', ']', '\x7b', '\x7d']

/-- The length of the word of a plain scalar that comes next. -/
def wordLength? (inFlow : Bool) : List Char -> Option Nat
  | [] => some 0
  | character :: rest =>
      if isGap character then some 0
      else if inFlow && character = ':' && (rest.head?.any ('?' :: flowMarks).contains) then
        none
      else if character = ':' && endsWord rest then some 0
      else if inFlow && flowMarks.contains character then some 0
      else (wordLength? inFlow rest).map (· + 1)

/-- The words of a plain scalar and the gaps between them, behind a first gap. -/
def plainWords
    (inFlow : Bool)
    (indent : Nat) : Nat -> List Char -> Gap -> Cursor -> Option ReadScalar
  | 0, text, gap, cursor => some ⟨text, .plain, gap.hasBreak, cursor⟩
  | fuel + 1, text, gap, cursor => do
      let done : ReadScalar := ⟨text, .plain, gap.hasBreak, cursor⟩
      if cursor.isAtDocument || cursor.rest.head? = some '#' then some done
      else
        match <- wordLength? inFlow cursor.rest with
        | 0 => some done
        | length + 1 =>
            let text := text ++ gap.text ++ cursor.rest.take (length + 1)
            let cursor := cursor.forward (length + 1)
            if cursor.rest.isEmpty || !endsWord cursor.rest then
              some ⟨text, .plain, false, cursor⟩
            else
              let (gap, cursor) <- Gap.read indent fuel .empty cursor
              if !inFlow && cursor.column < indent then
                some ⟨text, .plain, gap.hasBreak, cursor⟩
              else plainWords inFlow indent fuel text gap cursor

/-- A plain scalar, whose further lines have to begin at a given column. -/
def plain (inFlow : Bool) (indent : Nat) (cursor : Cursor) : Option ReadScalar :=
  plainWords inFlow indent (cursor.rest.length + 1) [] .empty cursor

/-- The number written by exactly as many hexadecimal digits. -/
def hexNumber? (count : Nat) (characters : List Char) : Option Nat := do
  let values <- (characters.take count).mapM Text.hexValue?
  if values.length = count then
    some (values.foldl (fun total value => 16 * total + value) 0)
  else none

/-- The character with a number. -/
def charOfNumber? (number : Nat) : Option Char :=
  if number < 0xD800 || (0xE000 <= number && number <= 0x10FFFF) then
    some (Char.ofNat number)
  else none

/-- The characters that stand for others behind a backslash. -/
def escapes : List (Char × Char) :=
  [('0', '\x00'), ('a', '\x07'), ('b', '\x08'), ('t', '\t'), ('\t', '\t'), ('n', '\n'),
    ('v', '\x0b'), ('f', '\x0c'), ('r', '\r'), ('e', '\x1b'), (' ', ' '), ('"', '"'),
    ('/', '/'), ('\\', '\\'), ('N', '\u0085'), ('_', '\u00a0'), ('L', '\u2028'),
    ('P', '\u2029')]

/-- The letters behind a backslash that are followed by the number of a character. -/
def numberedEscapes : List (Char × Nat) :=
  [('x', 2), ('u', 4), ('U', 8)]

/-- The character that an escape stands for and the length of the escape. -/
def escape? : List Char -> Option (Char × Nat)
  | [] => none
  | letter :: rest =>
      match numberedEscapes.lookup letter with
      | some count => do
          let number <- hexNumber? count rest
          some (<- charOfNumber? number, count + 1)
      | none => (escapes.lookup letter).map (fun character => (character, 1))

/-- What is left of a scalar between quotes. -/
def quotedRest (quote : Char) : Nat -> List Char -> Cursor -> Option ReadScalar
  | 0, _, _ => none
  | fuel + 1, text, cursor =>
      if cursor.isAtDocument then none
      else
        match cursor.rest with
        | [] => none
        | next :: rest =>
            if isGap next then do
              let (gap, cursor) <- Gap.read 0 (fuel + 1) .empty cursor
              quotedRest quote fuel (text ++ gap.text) cursor
            else if next = quote then
              if quote = '\'' && rest.head? = some quote then
                quotedRest quote fuel (text ++ [quote]) (cursor.forward 2)
              else some ⟨text, .quoted, false, cursor.forward 1⟩
            else if quote = '"' && next = '\\' then
              match (cursor.forward 1).takeBreak? with
              | some (_, after) => do
                  let (gap, cursor) <- Gap.read 0 (fuel + 1) .escapedBreak after
                  quotedRest quote fuel (text ++ gap.text) cursor
              | none => do
                  let (character, length) <- escape? rest
                  quotedRest quote fuel (text ++ [character]) (cursor.forward (length + 1))
            else quotedRest quote fuel (text ++ [next]) (cursor.forward 1)

/-- A scalar between quotes. -/
def quoted (quote : Char) (cursor : Cursor) : Option ReadScalar :=
  quotedRest quote (cursor.rest.length + 1) [] (cursor.forward 1)

/-- What becomes of the line breaks at the end of a block. -/
inductive Chomping
  | strip
  | clip
  | keep
deriving DecidableEq

/-- The empty lines that come next, the place behind them, and the widest indentation. -/
def emptyLines (indent : Option Nat) :
    Nat -> Nat -> List Char -> Cursor -> Option (Nat × List Char × Cursor)
  | 0, widest, breaks, cursor => some (widest, breaks, cursor)
  | fuel + 1, widest, breaks, cursor =>
      let free := (cursor.rest.takeWhile (· = ' ')).length
      let skipped := indent.elim free (fun indent => min free (indent - cursor.column))
      let cursor := cursor.forward skipped
      let widest := max widest cursor.column
      if cursor.rest.head? = some '\t' && indent.all (fun indent => cursor.column < indent) then
        none
      else
        match cursor.takeBreak? with
        | some (character, after) =>
            emptyLines indent fuel widest (breaks ++ [character]) after
        | none => some (widest, breaks, cursor)

/-- The lines of a block, given the break in front of them and the empty lines behind it. -/
def blockLines (folded : Bool) (indent : Nat) (chomping : Chomping) :
    Nat -> List Char -> List Char -> List Char -> Bool -> Cursor -> Option ReadScalar
  | 0, _, _, _, _, _ => none
  | fuel + 1, text, leading, trailing, afterSpace, cursor =>
      if cursor.column = indent && !cursor.rest.isEmpty then do
        let space := cursor.rest.head?.any isSpace
        let joined :=
          if folded && leading = ['\n'] && !afterSpace && !space then
            if trailing.isEmpty then [' '] else trailing
          else leading ++ trailing
        let line := cursor.rest.takeWhile (fun character => !isBreak character)
        let (leading, after) :=
          match (cursor.forward line.length).takeBreak? with
          | some (character, after) => ([character], after)
          | none => ([], cursor.forward line.length)
        let (_, trailing, after) <- emptyLines (some indent) (fuel + 1) 0 [] after
        blockLines folded indent chomping fuel (text ++ joined ++ line) leading trailing space after
      else
        let ending :=
          match chomping with
          | .strip => []
          | .clip => leading
          | .keep => leading ++ trailing
        some ⟨text ++ ending, .block, true, cursor⟩

/-- How the line breaks at the end are treated, and by how much the block is indented. -/
def blockHeader? (characters : List Char) : Option (Chomping × Option Nat × Nat) :=
  let chomping (character : Char) : Option Chomping :=
    if character = '+' then some .keep else if character = '-' then some .strip else none
  let width (character : Char) : Option Nat :=
    if character.isDigit then some (Text.digitValue character) else none
  let header :=
    match characters with
    | [] => (.clip, none, 0)
    | first :: rest =>
        match chomping first, width first with
        | some chomping, _ =>
            match rest.head?.bind width with
            | some width => (chomping, some width, 2)
            | none => (chomping, none, 1)
        | none, some width =>
            match rest.head?.bind chomping with
            | some chomping => (chomping, some width, 2)
            | none => (.clip, some width, 1)
        | none, none => (.clip, none, 0)
  if header.2.1 = some 0 then none else some header

/-- A block of lines within a collection of a given indentation. -/
def block (folded : Bool) (parent : Int) (cursor : Cursor) : Option ReadScalar := do
  let (chomping, width, length) <- blockHeader? (cursor.rest.drop 1)
  let cursor := (cursor.forward (length + 1)).skipWhile isSpace
  let cursor :=
    if cursor.rest.head? = some '#' then
      cursor.skipWhile (fun character => !isBreak character)
    else cursor
  if !cursor.rest.isEmpty && cursor.takeBreak?.isNone then none
  else
    let cursor := cursor.skipBreak
    let fuel := cursor.rest.length + 1
    match width with
    | some width =>
        let indent := (if 0 <= parent then parent.toNat else 0) + width
        let (_, trailing, cursor) <- emptyLines (some indent) fuel 0 [] cursor
        blockLines folded indent chomping (fuel + 1) [] [] trailing false cursor
    | none =>
        let (widest, trailing, cursor) <- emptyLines none fuel 0 [] cursor
        let indent := max (max widest (parent + 1).toNat) 1
        blockLines folded indent chomping (fuel + 1) [] [] trailing false cursor

end Scalar
end Yaml
end Giro
