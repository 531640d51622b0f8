import CatalogIntake.Json.Decode
import CatalogIntake.Number.Double
import CatalogIntake.Path
import CatalogIntake.Text.Blank
import CatalogIntake.Text.Lowercase

namespace CatalogIntake

open Text

/-- What becomes of a row that gives no record: it is counted as failed, or only logged. -/
inductive ParseFailurePolicy
  | count
  | logOnly
  deriving DecidableEq, Repr

inductive SettingsError
  | invalidValue (key reason : String)
  | invalidPolicy (text : String)
  | emptyUrl
  | noConnections
  | connectionsReversed (min max : Nat)
  | noChunkSize
  | noWorkers
  | noStoreBatchSize
  | noCapacity
  | blankRoutingKey
  deriving DecidableEq, Repr

def SettingsError.text : SettingsError → String
  | .invalidValue key reason => s!"Invalid value for {key}: {reason}"
  | .invalidPolicy text =>
    s!"Invalid parse failure policy: {text} (expected count or log-only)"
  | .emptyUrl => "Database URL cannot be empty"
  | .noConnections => "Database max_connections must be greater than 0"
  | .connectionsReversed min max =>
    s!"Database min_connections ({min}) cannot be greater than max_connections ({max})"
  | .noChunkSize => "Import chunk size must be greater than 0"
  | .noWorkers => "Import worker count must be greater than 0"
  | .noStoreBatchSize => "Import store batch size must be greater than 0"
  | .noCapacity => "Import buffer capacities must be greater than 0"
  | .blankRoutingKey => "Queue routing key cannot be empty"

def SettingsError.message (e : SettingsError) : String := s!"Configuration error: {e.text}"

namespace ParseFailurePolicy

def name : ParseFailurePolicy → String
  | count => "count"
  | logOnly => "log-only"

def ofName? : String → Option ParseFailurePolicy
  | "count" => some count
  | "log-only" => some logOnly
  | _ => none

def read (s : String) : Except SettingsError ParseFailurePolicy :=
  match lowercase (trim s) with
  | "count" | "count-as-failed" => .ok count
  | "log-only" | "log_only" | "log" => .ok logOnly
  | other => .error (.invalidPolicy other)

def decode : Json.Decoder ParseFailurePolicy := Json.variant ["count", "log-only"] ofName?

end ParseFailurePolicy

structure DatabaseSettings where
  url : String := "postgresql://localhost/inventory"
  maxConnections : Nat := 20
  minConnections : Nat := 2
  connectTimeoutSeconds : Nat := 10
  idleTimeoutSeconds : Nat := 600
  deriving DecidableEq, Repr

structure ImportSettings where
  chunkSize : Nat := 1000
  workerCount : Nat := 5
  storeBatchSize : Nat := 500
  dataDir : Path := .ofText "."
  parseFailures : ParseFailurePolicy := .count
  publishRetries : Nat := 3
  publishRetryDelayMs : Nat := 200
  channelCapacity : Nat := 4096
  busCapacity : Nat := 32
  deriving DecidableEq, Repr

structure QueueSettings where
  routingKey : String := "product.import"
  pollIntervalMs : Nat := 250
  visibilityTimeoutSeconds : Nat := 300
  deriving DecidableEq, Repr

structure Settings where
  database : DatabaseSettings := {}
  importing : ImportSettings := {}
  queue : QueueSettings := {}
  deriving DecidableEq, Repr

namespace DatabaseSettings

def toJson (s : DatabaseSettings) : Json :=
  .object [("url", .string s.url), ("max_connections", Json.nat s.maxConnections),
    ("min_connections", Json.nat s.minConnections),
    ("connect_timeout_secs", Json.nat s.connectTimeoutSeconds),
    ("idle_timeout_secs", Json.nat s.idleTimeoutSeconds)]

def fields : Json.Fields DatabaseSettings :=
  DatabaseSettings.mk <$> .required "url" Json.text <*> .required "max_connections" Json.nat32
    <*> .required "min_connections" Json.nat32 <*> .required "connect_timeout_secs" Json.nat64
    <*> .required "idle_timeout_secs" Json.nat64

def decode : Json.Decoder DatabaseSettings := Json.record "DatabaseConfig" fields

end DatabaseSettings

namespace ImportSettings

def toJson (s : ImportSettings) : Except String Json :=
  match s.dataDir.text? with
  | none => .error "path contains invalid UTF-8 characters"
  | some dataDir => .ok <|
    .object [("chunk_size", Json.nat s.chunkSize), ("worker_count", Json.nat s.workerCount),
      ("store_batch_size", Json.nat s.storeBatchSize), ("data_dir", .string dataDir),
      ("parse_failures", .string s.parseFailures.name),
      ("publish_retries", Json.nat s.publishRetries),
      ("publish_retry_delay_ms", Json.nat s.publishRetryDelayMs),
      ("channel_capacity", Json.nat s.channelCapacity), ("bus_capacity", Json.nat s.busCapacity)]

def path : Json.Decoder Path := fun j => (Json.textNamed "path string" j).map Path.ofText

def fields : Json.Fields ImportSettings :=
  ImportSettings.mk <$> .required "chunk_size" Json.count <*> .required "worker_count" Json.count
    <*> .required "store_batch_size" Json.count
    <*> .required "data_dir" path
    <*> .required "parse_failures" ParseFailurePolicy.decode
    <*> .required "publish_retries" Json.nat32 <*> .required "publish_retry_delay_ms" Json.nat64
    <*> .required "channel_capacity" Json.count <*> .required "bus_capacity" Json.count

def decode : Json.Decoder ImportSettings := Json.record "ImportConfig" fields

def resolveSource (s : ImportSettings) (source : String) : Path :=
  s.dataDir.join (.ofText source)

end ImportSettings

namespace QueueSettings

def toJson (s : QueueSettings) : Json :=
  .object [("routing_key", .string s.routingKey), ("poll_interval_ms", Json.nat s.pollIntervalMs),
    ("visibility_timeout_secs", Json.nat s.visibilityTimeoutSeconds)]

def fields : Json.Fields QueueSettings :=
  QueueSettings.mk <$> .required "routing_key" Json.text <*> .required "poll_interval_ms" Json.nat64
    <*> .required "visibility_timeout_secs" Json.nat64

def decode : Json.Decoder QueueSettings := Json.record "QueueConfig" fields

def visibilityTimeoutMs (s : QueueSettings) : Nat := s.visibilityTimeoutSeconds * 1000

end QueueSettings

namespace Settings

def toJson (s : Settings) : Except String Json := do
  let importing ← s.importing.toJson
  return .object [("database", s.database.toJson), ("import", importing),
    ("queue", s.queue.toJson)]

def fields : Json.Fields Settings :=
  Settings.mk <$> .required "database" DatabaseSettings.decode
    <*> .required "import" ImportSettings.decode <*> .required "queue" QueueSettings.decode

def decode : Json.Decoder Settings := Json.record "Config" fields

def fault? (s : Settings) : Option SettingsError :=
  if s.database.url.isEmpty then some .emptyUrl
  else if s.database.maxConnections = 0 then some .noConnections
  else if s.database.minConnections > s.database.maxConnections then
    some (.connectionsReversed s.database.minConnections s.database.maxConnections)
  else if s.importing.chunkSize = 0 then some .noChunkSize
  else if s.importing.workerCount = 0 then some .noWorkers
  else if s.importing.storeBatchSize = 0 then some .noStoreBatchSize
  else if s.importing.channelCapacity = 0 || s.importing.busCapacity = 0 then some .noCapacity
  else if allBlank s.queue.routingKey then some .blankRoutingKey
  else none

def validate (s : Settings) : Except SettingsError Unit :=
  match s.fault? with
  | none => .ok ()
  | some e => .error e

end Settings

end CatalogIntake
