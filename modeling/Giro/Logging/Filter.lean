import Giro.Logging.Event
import Giro.Text.Blank
import Giro.Text.Digits

/-!
# Log filters

A filter is a list of directives, each of which lets events of one target pass
down to a severity, or of all targets. Of the directives that apply to an event,
the one with the longest target decides, and the last one among equals. An event
to which none applies does not pass.
-/

namespace Giro

/-- The least severe events that pass; without a severity nothing passes. -/
abbrev Threshold := Option Severity

/-- What passes of the targets that begin with a text. -/
structure Directive where
  target : String
  threshold : Threshold
deriving DecidableEq

/-- Why a text is no directive. -/
inductive DirectiveFault
  | malformed
  | unknownLevel
deriving DecidableEq

namespace DirectiveFault

/-- What is said about a fault. -/
def message : DirectiveFault -> String
  | malformed => "invalid filter directive"
  | unknownLevel =>
      "error parsing level filter: expected one of \"off\", \"error\", \"warn\", " ++
        "\"info\", \"debug\", \"trace\", or a number 0-5"

end DirectiveFault

namespace Directive

/-- The threshold named by a word, or by its rank. -/
def threshold? (text : String) : Option Threshold :=
  match Text.readInt? 0 5 text.toList with
  | some rank =>
      if text.startsWith "-" then none
      else some (Severity.all.find? (fun severity => (severity.rank : Int) = rank))
  | none =>
      if Text.upper text = "OFF" then some none else (Severity.ofWord? text).map some

/-- Whether a directive may begin with a character. -/
def mayBegin (character : Char) : Bool :=
  character.isAlphanum || 0x80 <= character.toNat || character = '-' || character = ':' ||
    character = '_'

/-- Whether a character begins the level of a directive. -/
def isLevelMark (character : Char) : Bool :=
  character = '='

/--
The directive that a text stands for: a level for all targets, a target and its
level, or a target alone, all events of which pass. A target with blanks in
front of it has no level.
-/
def ofText (text : String) : Except DirectiveFault Directive :=
  let characters := text.toList
  let target := characters.takeWhile (fun character => !isLevelMark character)
  match Text.trimStartChars characters, characters.drop target.length with
  | [], _ => .error .malformed
  | first :: _, level =>
      if !mayBegin first || characters.contains '[' then .error .malformed
      else
        match level with
        | [] =>
            match threshold? text with
            | some threshold => .ok ⟨"", threshold⟩
            | none => .ok ⟨text, some .trace⟩
        | _ :: level =>
            if target.head? ≠ some first then .error .unknownLevel
            else if level.isEmpty then .ok ⟨String.ofList target, some .trace⟩
            else
              match threshold? (String.ofList level) with
              | some threshold => .ok ⟨String.ofList target, threshold⟩
              | none => .error .unknownLevel

/-- Whether a directive applies to a target. -/
def appliesTo (directive : Directive) (target : String) : Bool :=
  directive.target.toList.isPrefixOf target.toList

end Directive

/-- The directives that decide which events pass. -/
abbrev Filter := List Directive

namespace Filter

/-- The directive that decides about a target. -/
def decisive? (filter : Filter) (target : String) : Option Directive :=
  (filter.filter (fun directive => directive.appliesTo target)).foldl
    (fun (best : Option Directive) directive =>
      if best.all (fun best => best.target.length <= directive.target.length) then
        some directive
      else best)
    none

/-- Whether an event passes. -/
def passes (filter : Filter) (event : LogEvent) : Bool :=
  (filter.decisive? event.target).any (fun directive =>
    directive.threshold.any (fun least => event.severity.rank <= least.rank))

/-- The texts between commas. -/
def parts (text : String) : List String :=
  (text.splitOn ",").filter (fun part => !part.isEmpty)

/-- The filter that a text describes, each part of which has to be a directive. -/
def ofText? (text : String) : Option Filter :=
  (parts text).mapM (fun part => (Directive.ofText part).toOption)

/-- The directives among the parts of a text, and what is said about the other parts. -/
def lenient (text : String) : Filter × List String :=
  (parts text).foldr
    (fun part (filter, complaints) =>
      match Directive.ofText part with
      | .ok directive => (directive :: filter, complaints)
      | .error fault =>
          (filter, ("ignoring \x60" ++ part ++ "\x60: " ++ fault.message) :: complaints))
    ([], [])

/-- The text of the filter for a level, with less from those who talk much. -/
def standardText (level : String) : String :=
  level ++ ",sqlx=warn,hyper=warn,tower_http=warn"

/-- The filter for a level, unless another text describes one. -/
def choose (level : String) (other : Option String) : Filter × List String :=
  match other.bind ofText? with
  | some filter => (filter, [])
  | none => lenient (standardText level)

end Filter
end Giro
