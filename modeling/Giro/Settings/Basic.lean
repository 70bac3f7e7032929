import Giro.Bank.Basic
import Giro.Settings.Field

/-!
# Settings

What an operator decides about a bank: what is logged and where, where the
gateway listens, and the limits of transfers, receipts and notifications.
-/

namespace Giro

/-- Where the gateway listens. -/
structure GatewaySettings where
  host : String
  port : Nat
deriving DecidableEq

/-- How receipts are printed: attempts, pauses between them, and the breaker. -/
structure ReceiptSettings where
  maxAttempts : Nat
  initialBackoff : Nat
  maxBackoff : Nat
  failureThreshold : Nat
  openCooldown : Nat
deriving DecidableEq

/-- How events are published. -/
structure NotificationSettings where
  topic : String
  queueSize : Nat
  publishTimeout : Nat
deriving DecidableEq

/-- What an operator decides. -/
structure Settings where
  logLevel : String
  logDir : String
  logFile : String
  useJson : Bool
  rotation : String
  gateway : GatewaySettings
  databaseUrl : Option String
  lockTimeout : Nat
  receipt : ReceiptSettings
  notification : NotificationSettings
deriving DecidableEq

namespace GatewaySettings

/-- Every address, port 8080. -/
def standard : GatewaySettings := ⟨"0.0.0.0", 8080⟩

/-- Host and port as they are written. -/
def address (settings : GatewaySettings) : String :=
  settings.host ++ ":" ++ Text.showNat settings.port

/-- The fields of the group. -/
def fields : List SettingField := [.text "host", .natural 16 "port"]

/-- The settings as JSON. -/
def toJson (settings : GatewaySettings) : Json :=
  .object [("host", .text settings.host), ("port", .number settings.port)]

end GatewaySettings

namespace ReceiptSettings

/-- The settings for a retry policy and a breaker. -/
def of (retry : RetryPolicy) (breaker : BreakerSettings) : ReceiptSettings :=
  ⟨retry.maxAttempts, retry.initialBackoff, retry.maxBackoff, breaker.threshold,
    breaker.cooldown⟩

/-- The standard retry policy and the standard breaker. -/
def standard : ReceiptSettings := of .standard .standard

/-- The retry policy, which makes at least one attempt. -/
def retry (settings : ReceiptSettings) : RetryPolicy :=
  ⟨max settings.maxAttempts 1, settings.initialBackoff, settings.maxBackoff⟩

/-- The settings of the breaker, which opens after one failure at the earliest. -/
def breaker (settings : ReceiptSettings) : BreakerSettings :=
  ⟨max settings.failureThreshold 1, settings.openCooldown⟩

/-- The fields of the group. -/
def fields : List SettingField :=
  [.natural 32 "max_attempts", .natural 64 "initial_backoff_ms",
    .natural 64 "max_backoff_ms", .natural 32 "failure_threshold",
    .natural 64 "open_cooldown_ms"]

/-- The settings in the order of the fields. -/
def settings (receipt : ReceiptSettings) : List Setting :=
  [.natural receipt.maxAttempts, .natural receipt.initialBackoff,
    .natural receipt.maxBackoff, .natural receipt.failureThreshold,
    .natural receipt.openCooldown]

/-- The settings as JSON. -/
def toJson (settings : ReceiptSettings) : Json :=
  .object
    [("max_attempts", .number settings.maxAttempts),
      ("initial_backoff_ms", .number settings.initialBackoff),
      ("max_backoff_ms", .number settings.maxBackoff),
      ("failure_threshold", .number settings.failureThreshold),
      ("open_cooldown_ms", .number settings.openCooldown)]

end ReceiptSettings

namespace NotificationSettings

/-- The topic of transfer events, 1024 events in the queue, one second. -/
def standard : NotificationSettings := ⟨Bank.standardTopic, 1024, 1000⟩

/-- The fields of the group. -/
def fields : List SettingField :=
  [.text "topic", .natural 64 "queue_size", .natural 64 "publish_timeout_ms"]

/-- The settings in the order of the fields. -/
def settings (notification : NotificationSettings) : List Setting :=
  [.text notification.topic, .natural notification.queueSize,
    .natural notification.publishTimeout]

/-- The settings as JSON. -/
def toJson (settings : NotificationSettings) : Json :=
  .object
    [("topic", .text settings.topic), ("queue_size", .number settings.queueSize),
      ("publish_timeout_ms", .number settings.publishTimeout)]

end NotificationSettings

namespace Settings

/-- All fields. -/
def fields : List SettingField :=
  [.text "log_level", .text "log_dir", .text "log_file", .flag "use_json",
    .text "rotation", .group "gateway" GatewaySettings.fields none,
    .optionalText "postgres_url",
    .group "transfer" [.natural 64 "lock_timeout_ms"]
      (some [.natural Bank.standardLockTimeout]),
    .group "receipt" ReceiptSettings.fields (some ReceiptSettings.standard.settings),
    .group "notification" NotificationSettings.fields
      (some NotificationSettings.standard.settings)]

/-- The settings made of the values of all fields. -/
def ofList? : List Setting -> Option Settings
  | [.text logLevel, .text logDir, .text logFile, .flag useJson, .text rotation,
      .group [.text host, .natural port], .optionalText databaseUrl,
      .group [.natural lockTimeout],
      .group [.natural maxAttempts, .natural initialBackoff, .natural maxBackoff,
        .natural failureThreshold, .natural openCooldown],
      .group [.text topic, .natural queueSize, .natural publishTimeout]] =>
      some
        { logLevel := logLevel
          logDir := logDir
          logFile := logFile
          useJson := useJson
          rotation := rotation
          gateway := ⟨host, port⟩
          databaseUrl := databaseUrl
          lockTimeout := lockTimeout
          receipt :=
            ⟨maxAttempts, initialBackoff, maxBackoff, failureThreshold, openCooldown⟩
          notification := ⟨topic, queueSize, publishTimeout⟩ }
  | _ => none

/-- The settings that a YAML text describes, which may not hold anything else. -/
def read (source : String) : Except SettingsFault Settings := do
  let document := Yaml.Document.ofText source
  let settings <- Setting.readGroup fields document.root
  match ofList? settings with
  | some settings => if document.isAlone then .ok settings else .error .unfit
  | none => .error .unfit

/-- The settings as JSON. -/
def toJson (settings : Settings) : Json :=
  .object
    [("log_level", .text settings.logLevel), ("log_dir", .text settings.logDir),
      ("log_file", .text settings.logFile), ("use_json", .bool settings.useJson),
      ("rotation", .text settings.rotation), ("gateway", settings.gateway.toJson),
      ("postgres_url", .optionalText settings.databaseUrl),
      ("transfer", .object [("lock_timeout_ms", .number settings.lockTimeout)]),
      ("receipt", settings.receipt.toJson),
      ("notification", settings.notification.toJson)]

/-- The settings as JSON, and what a bank makes of them. -/
def report (settings : Settings) : Json :=
  let retry := settings.receipt.retry
  let breaker := settings.receipt.breaker
  .object
    [("config", settings.toJson), ("lock_timeout_ms", .number settings.lockTimeout),
      ("publish_timeout_ms", .number settings.notification.publishTimeout),
      ("retry",
        .object
          [("max_attempts", .number retry.maxAttempts),
            ("initial_ms", .number retry.initialBackoff),
            ("max_ms", .number retry.maxBackoff)]),
      ("breaker",
        .object
          [("failure_threshold", .number breaker.threshold),
            ("open_cooldown_ms", .number breaker.cooldown)])]

end Settings
end Giro
