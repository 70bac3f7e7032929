import Giro.Service.Outcome

/-!
# Startup

The service reads the settings of an environment, begins to log, connects to its
storage and opens the gateway. Whatever fails ends it with an error.
-/

namespace Giro
namespace Startup

/-- The environment that arguments name, `dev` unless they name another one. -/
def environment : List String -> String
  | argument :: name :: rest =>
      if argument = "--env" || argument = "-e" then name else environment (name :: rest)
  | _ => "dev"

/-- The path of the settings of an environment. -/
def settingsPath (environment : String) : String :=
  "config/" ++ environment ++ ".yaml"

/-- The settings of an environment, given the text of their file, or what is wrong. -/
def settings (environment : String) (source : Option String) : Except String Settings :=
  match source with
  | none => .error ("Failed to read config file: " ++ settingsPath environment)
  | some source =>
      match Settings.read source with
      | .ok settings => .ok settings
      | .error _ => .error ("Failed to parse " ++ settingsPath environment)

/-- The ports that only a privileged program may open. -/
def privilegedPorts : Nat := 1024

/-- Whether the gateway can be opened at a port, zero standing for any free one. -/
def mayListen (port : Nat) : Bool :=
  port = 0 || privilegedPorts <= port

/-- What is said when the gateway cannot be opened. -/
def bindError (gateway : GatewaySettings) : String :=
  "Failed to bind to " ++ gateway.address ++ " (port in use?)"

/-- The event that tells that the service starts. -/
def started (environment : String) : LogEvent :=
  ⟨.info, "banking_engine", "Starting banking transfer service",
    [("env", .shown environment)]⟩

/-- The event that tells that nothing is kept after the end of the service. -/
def unstored : LogEvent :=
  ⟨.warn, "banking_engine", "No postgres_url configured, using the in-memory store", []⟩

/-- The events that tell where the gateway listens. -/
def listening (gateway : GatewaySettings) : List LogEvent :=
  let event (text : String) : LogEvent := ⟨.info, "banking_engine::gateway", text, []⟩
  [event ("Gateway listening on http://" ++ gateway.address),
    event ("API Docs: http://" ++ gateway.address ++ "/api-docs/openapi.json")]

/-- What comes of a start with settings; there is no database to connect to. -/
def serve (environment : String) (filterText : Option String) (settings : Settings) :
    Outcome :=
  let finish (events : List LogEvent) (code : Option Nat) (complaints : List String) :
      Outcome := .ofEvents settings filterText (started environment :: events) code complaints
  if settings.databaseUrl.isSome then
    finish [] (some 1) ["Error: Failed to connect to PostgreSQL"]
  else if mayListen settings.gateway.port then
    finish (unstored :: listening settings.gateway) none []
  else finish [unstored] (some 1) ["Error: " ++ bindError settings.gateway]

/-- What comes of a start in an environment, given the text of its settings. -/
def start (environment : String) (source filterText : Option String) : Outcome :=
  match settings environment source with
  | .ok settings => serve environment filterText settings
  | .error error => .failure error

/-- What comes of a start with arguments in a folder. -/
def run (arguments : List String) (folder : Folder) (filterText : Option String) : Outcome :=
  let environment := environment arguments
  start environment (folder.find? (settingsPath environment)) filterText

end Startup

namespace Description

/--
Hand out the description of the interface: into a file if the first argument
asks for one, and to the output otherwise.
-/
def handOut : List String -> Outcome
  | ["--output"] => .failure "--output needs a path"
  | "--output" :: path :: _ =>
      match Folder.place? Folder.empty path with
      | some [name] =>
          ⟨some 0, .lines [], ["OpenAPI document written to " ++ path],
            [⟨[name], .never, .description⟩]⟩
      | _ => .failure ("Failed to write " ++ path)
  | _ => ⟨some 0, .description, [], []⟩

end Description
end Giro
