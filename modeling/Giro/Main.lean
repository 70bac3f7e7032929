import Giro.Service.Startup
import Std.Time.DateTime

/-!
# Command line

Without a word of its own the program starts the service of an environment; the
variable `LOG_FILTER` may hold the text of a log filter. Behind the word
`describe` it hands out the description of the interface. What was logged,
printed and complained about is written where it belongs.
-/

namespace Giro
namespace CommandLine

/-- The time of day. -/
def now : IO Instant := do
  let stamp <- Std.Time.Timestamp.now
  return ⟨stamp.toSecondsSinceUnixEpoch.val, 0⟩

/-- The text of a file, if it can be read. -/
def readFile? (path : String) : IO (Option String) := do
  try
    return some (<- IO.FS.readFile path)
  catch _ =>
    return none

/-- A line as it is printed. -/
def lineText : Json -> String
  | .text line => line
  | line => line.render

/-- The lines of what was written. -/
def linesOf : Written -> List String
  | .lines lines => lines.map lineText
  | .description => [Description.document.render]

/-- How a file is opened: log files go on, descriptions are written anew. -/
def modeOf : Written -> IO.FS.Mode
  | .lines _ => .append
  | .description => .write

/-- Write what was written to a file, making the folders on the way. -/
def write (now : Instant) (file : WrittenFile) : IO Unit := do
  let folder := Folder.join file.place.dropLast
  if !folder.isEmpty then
    IO.FS.createDirAll folder
  let path := Folder.join file.place ++ file.rotation.mark now
  let handle <- IO.FS.Handle.mk path (modeOf file.content)
  for line in linesOf file.content do
    handle.putStrLn line

/-- Write what is left of a run and end with its code. -/
def finish (outcome : Outcome) : IO UInt32 := do
  let now <- now
  for line in linesOf outcome.output do
    IO.println line
  for file in outcome.files do
    write now file
  for complaint in outcome.complaints do
    IO.eprintln complaint
  return (outcome.code.getD 0).toUInt32

end CommandLine
end Giro

open Giro

/-- Start the service, or hand out the description of its interface. -/
def main (arguments : List String) : IO UInt32 := do
  match arguments with
  | "describe" :: rest => CommandLine.finish (Description.handOut rest)
  | _ =>
      let environment := Startup.environment arguments
      let source <- CommandLine.readFile? (Startup.settingsPath environment)
      CommandLine.finish
        (Startup.start environment source (<- IO.getEnv "LOG_FILTER"))
