import Giro.Gateway.Description
import Giro.Logging.Filter
import Giro.Report
import Giro.Service.Folder
import Giro.Settings.Basic

/-!
# Outcome of a run

What is left when a program has run: what it wrote to its output and into files,
what it complained about, and with which code it ended, if it ended.
-/

namespace Giro

/-- What was written somewhere. -/
inductive Written
  | lines (lines : List Json)
  | description

/-- How often a new file is begun. -/
inductive Rotation
  | never
  | daily
  | hourly
deriving DecidableEq

namespace Rotation

/-- The rotation that a word asks for; any other word asks for none. -/
def ofWord (word : String) : Rotation :=
  if word = "hourly" then hourly
  else if word = "daily" then daily
  else never

/-- What is added to the name of a file that is begun at an instant. -/
def mark (now : Instant) : Rotation -> String
  | never => ""
  | daily => "." ++ now.date.toText
  | hourly =>
      "." ++ now.date.toText ++ "-" ++ Text.showPadded 2 (now.secondOfDay / 3600)

/-- What stands for the mark where the instant is not told. -/
def maskedMark : Rotation -> String
  | never => ""
  | daily => ".<day>"
  | hourly => ".<hour>"

end Rotation

/-- A file that was written. -/
structure WrittenFile where
  place : List String
  rotation : Rotation
  content : Written

/-- What is left of a run; one that goes on serving has no code. -/
structure Outcome where
  code : Option Nat
  output : Written
  complaints : List String
  files : List WrittenFile

namespace Outcome

/-- A run that ended with an error and did nothing else. -/
def failure (error : String) : Outcome :=
  ⟨some 1, .lines [], ["Error: " ++ error], []⟩

/-- The place of the log file, unless that is outside of the folder. -/
def logPlace? (settings : Settings) : Option (List String) :=
  if settings.logDir.startsWith "/" || settings.logFile.startsWith "/" then none
  else
    Folder.settle [] (Folder.parts settings.logDir ++ Folder.parts settings.logFile)

/--
A run that logs events and ends in some way. Lines of text go to the output and
into the file, JSON objects into the file alone.
-/
def ofEvents
    (settings : Settings)
    (filterText : Option String)
    (events : List LogEvent)
    (code : Option Nat)
    (complaints : List String) : Outcome :=
  let (filter, ignored) := Filter.choose settings.logLevel filterText
  let passed := events.filter filter.passes
  let lines := passed.map (fun event => Json.text event.toLine)
  let written := if settings.useJson then passed.map LogEvent.toJson else lines
  { code := code
    output := .lines (if settings.useJson then [] else lines)
    complaints := ignored ++ complaints
    files :=
      (logPlace? settings).toList.map (fun place =>
        ⟨place, .ofWord settings.rotation, .lines written⟩) }

/-- The first line of the complaints. -/
def complaint (outcome : Outcome) : String :=
  String.ofList ((outcome.complaints.headD "").toList.takeWhile (· != '\n'))

/-- What was written, the description of the interface in outline. -/
def writtenJson : Written -> Json
  | .lines lines => .list lines
  | .description => Description.outline

/-- The outcome as JSON. -/
def toJson (outcome : Outcome) : Json :=
  .object
    [("exit", Json.nullable Json.natural outcome.code),
      ("stdout", writtenJson outcome.output), ("stderr", .text outcome.complaint),
      ("files",
        .object
          (outcome.files.map (fun file =>
            (Folder.join file.place ++ file.rotation.maskedMark,
              writtenJson file.content))))]

end Outcome
end Giro
