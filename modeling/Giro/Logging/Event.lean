import Giro.Audit
import Giro.Json.Value
import Giro.Time.Instant

/-!
# Log events

Something worth telling: how severe it is, which part of the program tells it, a
message and named values. An event is written as a line of text or as a JSON
object.
-/

namespace Giro

/-- How severe an event is, the most severe ones first. -/
inductive Severity
  | error
  | warn
  | info
  | debug
  | trace
deriving DecidableEq

namespace Severity

/-- All severities, the most severe ones first. -/
def all : List Severity := [error, warn, info, debug, trace]

/-- The place of a severity in the order of severities. -/
def rank : Severity -> Nat
  | error => 1
  | warn => 2
  | info => 3
  | debug => 4
  | trace => 5

/-- The word for a severity. -/
def word : Severity -> String
  | error => "ERROR"
  | warn => "WARN"
  | info => "INFO"
  | debug => "DEBUG"
  | trace => "TRACE"

/-- The severity of a word, the case of its letters aside. -/
def ofWord? (text : String) : Option Severity :=
  all.find? (fun severity => severity.word = Text.upper text)

end Severity

/-- A value that belongs to an event. -/
inductive LogValue
  | integer (value : Int)
  | quoted (value : String)
  | shown (value : String)
deriving DecidableEq

namespace LogValue

/-- The value as text; a quoted one is told apart from the words around it. -/
def toText : LogValue -> String
  | integer value => Text.showInt value
  | quoted value => Json.quote value
  | shown value => value

/-- The value as JSON. -/
def toJson : LogValue -> Json
  | integer value => .number value
  | quoted value => .text value
  | shown value => .text value

end LogValue

/-- An event. -/
structure LogEvent where
  severity : Severity
  target : String
  message : String
  values : List (String × LogValue)
deriving DecidableEq

namespace LogEvent

/-- The event as a line of text. -/
def toLine (event : LogEvent) : String :=
  " ".intercalate
    (event.severity.word :: event.message ::
      event.values.map (fun value => value.1 ++ "=" ++ value.2.toText))

/-- The event as a JSON object. -/
def toJson (event : LogEvent) : Json :=
  .object
    [("level", .text event.severity.word), ("target", .text event.target),
      ("fields",
        .object
          (("message", .text event.message) ::
            event.values.map (fun value => (value.1, value.2.toJson))))]

/-- The event that tells of an entry of the audit trail. -/
def ofAuditEntry (entry : AuditEntry) : LogEvent :=
  ⟨.info, "audit", "audit",
    [("action", .shown entry.action), ("actor", .shown entry.actor),
      ("detail", .shown entry.detail), ("origin", .shown entry.origin),
      ("at", .shown entry.createdAt.toLogText)]⟩

end LogEvent
end Giro
