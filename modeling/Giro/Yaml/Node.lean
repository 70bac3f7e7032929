import Giro.Yaml.Token

/-!
# YAML documents

A document is a tree of scalars, sequences and mappings. A text that stops being
YAML somewhere is read up to there, and the tree holds a mark at that place.
-/

namespace Giro
namespace Yaml

/-- A part of a document. -/
inductive Node
  | scalar (text : String) (style : ScalarStyle)
  | sequence (items : List Node)
  | mapping (entries : List (Node × Node))
  | broken

/-- The nodes that have names, and the tokens that are left. -/
structure Remaining where
  anchors : List (List Char × Node)
  tokens : List Token

/-- A node and what is left behind it; nothing is left behind a broken one. -/
abbrev Taken := Node × Option Remaining

namespace Node

/-- What is read where nothing is written. -/
def missing : Node := scalar "" .plain

/-- Whether a node is a plain scalar without any characters. -/
def isMissing : Node -> Bool
  | scalar "" .plain => true
  | _ => false

mutual

/-- Whether nothing of a node is broken. -/
def isWhole : Node -> Bool
  | scalar _ _ => true
  | sequence items => allWhole items
  | mapping entries => allEntriesWhole entries
  | broken => false

/-- Whether nothing of some nodes is broken. -/
def allWhole : List Node -> Bool
  | [] => true
  | node :: rest => node.isWhole && allWhole rest

/-- Whether nothing of some entries is broken. -/
def allEntriesWhole : List (Node × Node) -> Bool
  | [] => true
  | (key, value) :: rest => key.isWhole && value.isWhole && allEntriesWhole rest

end

/-- Which tokens end the place of a node where it may be missing. -/
def endsBlockItem : Token -> Bool
  | .entry | .key | .value | .blockEnd => true
  | _ => false

/-- Which tokens end the place of a key or a value in a block mapping. -/
def endsBlockEntry : Token -> Bool
  | .key | .value | .blockEnd => true
  | _ => false

/-- Which tokens end the place of a key or a value in brackets. -/
def endsFlowEntry : Token -> Bool
  | .value | .flowEntry | .flowMappingEnd | .flowSequenceEnd => true
  | _ => false

/-- Whether no node is to be read here. -/
def isOmitted (ends : Token -> Bool) (tokens : List Token) : Bool :=
  tokens.head?.any ends

mutual

/-- The node that comes next; a sequence without indentation only where it is allowed. -/
def take (fuel : Nat) (block indentless : Bool) (remaining : Remaining) : Taken :=
  match fuel with
  | 0 => (broken, none)
  | fuel + 1 =>
      match remaining.tokens with
      | .reference name :: rest =>
          match remaining.anchors.lookup name with
          | some node => (node, some { remaining with tokens := rest })
          | none => (broken, none)
      | .anchor name :: rest =>
          match takeContent fuel block indentless { remaining with tokens := rest } with
          | (node, some left) =>
              (node, some { left with anchors := (name, node) :: left.anchors })
          | (node, none) => (node, none)
      | .tag :: rest => takeContent fuel block indentless { remaining with tokens := rest }
      | _ => takeBare fuel block indentless remaining

/-- The node behind an anchor or a tag, which may be missing. -/
def takeContent (fuel : Nat) (block indentless : Bool) (remaining : Remaining) : Taken :=
  match fuel with
  | 0 => (broken, none)
  | fuel + 1 =>
      match remaining.tokens with
      | [] => (missing, some remaining)
      | .anchor name :: rest =>
          match takeContent fuel block indentless { remaining with tokens := rest } with
          | (node, some left) =>
              (node, some { left with anchors := (name, node) :: left.anchors })
          | (node, none) => (node, none)
      | .tag :: rest => takeContent fuel block indentless { remaining with tokens := rest }
      | .scalar _ _ :: _ | .flowSequenceStart :: _ | .flowMappingStart :: _
      | .broken :: _ => takeBare fuel block indentless remaining
      | .sequenceStart :: _ | .mappingStart :: _ =>
          if block then takeBare fuel block indentless remaining
          else (missing, some remaining)
      | .entry :: _ =>
          if indentless then takeBare fuel block indentless remaining
          else (missing, some remaining)
      | _ => (missing, some remaining)

/-- The node that comes next, without an anchor or a tag. -/
def takeBare (fuel : Nat) (block indentless : Bool) (remaining : Remaining) : Taken :=
  match fuel with
  | 0 => (broken, none)
  | fuel + 1 =>
      let collection (wrap : List Node -> Node) (taken : List Node × Option Remaining) :
          Taken := (wrap taken.1, taken.2)
      match remaining.tokens with
      | .scalar text style :: rest =>
          (scalar (String.ofList text) style, some { remaining with tokens := rest })
      | .flowSequenceStart :: rest =>
          collection sequence (takeFlowItems fuel true { remaining with tokens := rest })
      | .flowMappingStart :: rest =>
          let taken := takeFlowEntries fuel true { remaining with tokens := rest }
          (mapping taken.1, taken.2)
      | .sequenceStart :: rest =>
          if block then
            collection sequence (takeItems fuel { remaining with tokens := rest })
          else (broken, none)
      | .mappingStart :: rest =>
          if block then
            let taken := takeEntries fuel { remaining with tokens := rest }
            (mapping taken.1, taken.2)
          else (broken, none)
      | .entry :: _ =>
          if indentless then collection sequence (takeIndentless fuel remaining)
          else (broken, none)
      | _ => (broken, none)

/-- The items of a block sequence up to its end. -/
def takeItems (fuel : Nat) (remaining : Remaining) : List Node × Option Remaining :=
  match fuel with
  | 0 => ([broken], none)
  | fuel + 1 =>
      match remaining.tokens with
      | .blockEnd :: rest => ([], some { remaining with tokens := rest })
      | .entry :: rest =>
          let taken :=
            match rest with
            | .entry :: _ | .blockEnd :: _ =>
                (missing, some { remaining with tokens := rest })
            | _ => take fuel true false { remaining with tokens := rest }
          match taken with
          | (node, none) => ([node], none)
          | (node, some left) =>
              let others := takeItems fuel left
              (node :: others.1, others.2)
      | _ => ([broken], none)

/-- The items of a sequence that is not indented more than the mapping around it. -/
def takeIndentless (fuel : Nat) (remaining : Remaining) : List Node × Option Remaining :=
  match fuel with
  | 0 => ([broken], none)
  | fuel + 1 =>
      match remaining.tokens with
      | .entry :: rest =>
          let taken :=
            if isOmitted endsBlockItem rest then
              (missing, some { remaining with tokens := rest })
            else take fuel true false { remaining with tokens := rest }
          match taken with
          | (node, none) => ([node], none)
          | (node, some left) =>
              let others := takeIndentless fuel left
              (node :: others.1, others.2)
      | _ => ([], some remaining)

/-- The entries of a block mapping up to its end. -/
def takeEntries (fuel : Nat) (remaining : Remaining) : List (Node × Node) × Option Remaining :=
  match fuel with
  | 0 => ([(broken, broken)], none)
  | fuel + 1 =>
      let takeKey : Option Taken :=
        match remaining.tokens with
        | .key :: rest =>
            if isOmitted endsBlockEntry rest then
              some (missing, some { remaining with tokens := rest })
            else some (take fuel true true { remaining with tokens := rest })
        | _ => none
      match remaining.tokens, takeKey with
      | .blockEnd :: rest, _ => ([], some { remaining with tokens := rest })
      | _, some (key, some left) =>
          let taken :=
            match left.tokens with
            | .value :: rest =>
                if isOmitted endsBlockEntry rest then
                  (missing, some { left with tokens := rest })
                else take fuel true true { left with tokens := rest }
            | _ => (missing, some left)
          match taken with
          | (node, none) => ([(key, node)], none)
          | (node, some left) =>
              let others := takeEntries fuel left
              ((key, node) :: others.1, others.2)
      | _, some (key, none) => ([(key, broken)], none)
      | _, none => ([(broken, broken)], none)

/-- The items of a sequence in brackets up to its end. -/
def takeFlowItems (fuel : Nat) (first : Bool) (remaining : Remaining) :
    List Node × Option Remaining :=
  match fuel with
  | 0 => ([broken], none)
  | fuel + 1 =>
      let tokens? :=
        match remaining.tokens with
        | .flowEntry :: rest => if first then none else some rest
        | .flowSequenceEnd :: _ => some remaining.tokens
        | _ => if first then some remaining.tokens else none
      match tokens? with
      | none => ([broken], none)
      | some (.flowSequenceEnd :: rest) => ([], some { remaining with tokens := rest })
      | some tokens =>
          let taken :=
            match tokens with
            | .key :: rest =>
                let taken := takeFlowEntry fuel { remaining with tokens := rest }
                (mapping [taken.1], taken.2)
            | _ => take fuel false false { remaining with tokens := tokens }
          match taken with
          | (node, none) => ([node], none)
          | (node, some left) =>
              let others := takeFlowItems fuel false left
              (node :: others.1, others.2)

/-- The entries of a mapping in brackets up to its end. -/
def takeFlowEntries (fuel : Nat) (first : Bool) (remaining : Remaining) :
    List (Node × Node) × Option Remaining :=
  match fuel with
  | 0 => ([(broken, broken)], none)
  | fuel + 1 =>
      let tokens? :=
        match remaining.tokens with
        | .flowEntry :: rest => if first then none else some rest
        | .flowMappingEnd :: _ => some remaining.tokens
        | _ => if first then some remaining.tokens else none
      match tokens? with
      | none => ([(broken, broken)], none)
      | some (.flowMappingEnd :: rest) => ([], some { remaining with tokens := rest })
      | some tokens =>
          let taken :=
            match tokens with
            | .key :: rest => takeFlowEntry fuel { remaining with tokens := rest }
            | _ =>
                let (key, left) := take fuel false false { remaining with tokens := tokens }
                ((key, if left.isSome then missing else broken), left)
          match taken with
          | (entry, none) => ([entry], none)
          | (entry, some left) =>
              let others := takeFlowEntries fuel false left
              (entry :: others.1, others.2)

/-- A key and its value in brackets, each of which may be missing. -/
def takeFlowEntry (fuel : Nat) (remaining : Remaining) : (Node × Node) × Option Remaining :=
  match fuel with
  | 0 => ((broken, broken), none)
  | fuel + 1 =>
      let taken :=
        if isOmitted endsFlowEntry remaining.tokens then (missing, some remaining)
        else take fuel false false remaining
      match taken with
      | (key, none) => ((key, broken), none)
      | (key, some left) =>
          match left.tokens with
          | .value :: rest =>
              if isOmitted endsFlowEntry rest then
                ((key, missing), some { left with tokens := rest })
              else
                let taken := take fuel false false { left with tokens := rest }
                ((key, taken.1), taken.2)
          | _ => ((key, missing), some left)

end

end Node

/-- What a text holds: a document, and whether anything but that document. -/
structure Document where
  root : Node
  isAlone : Bool

namespace Document

/-- Whether a token belongs to no document. -/
def isBetween (token : Token) : Bool :=
  token = .documentStart || token = .documentEnd

/-- The tokens of the first document, behind the marks that begin it. -/
def body (tokens : List Token) : List Token :=
  match tokens.dropWhile (· = .documentEnd) with
  | .documentStart :: rest => rest
  | rest => rest

/-- The first document of a text. -/
def ofText (text : String) : Document :=
  match body (Token.ofText text.toList) with
  | [] => ⟨.missing, true⟩
  | token :: rest =>
      let tokens := token :: rest
      let (root, left) :=
        if isBetween token then (Node.missing, some ⟨[], tokens⟩)
        else Node.take (3 * tokens.length + 3) true false ⟨[], tokens⟩
      match left with
      | none => ⟨root, true⟩
      | some left => ⟨root, (left.tokens.dropWhile (· = .documentEnd)).isEmpty⟩

end Document
end Yaml
end Giro
