import CatalogIntake.Number.Integer
import CatalogIntake.Settings.Basic
import CatalogIntake.Text.Quoted

namespace CatalogIntake

open Number Text

abbrev Environment := List (String × List UInt8)

/-- A variable and a value that no environment can hold. -/
structure Unsettable where
  name : String
  value : String
  deriving DecidableEq, Repr

def Unsettable.text (u : Unsettable) : String :=
  s!"failed to set environment variable `{quote u.name}` to `{quote u.value}`: " ++
    "file name contained an unexpected NUL byte"

namespace Environment

def octets? (env : Environment) (name : String) : Option (List UInt8) := List.lookup name env

/-- The value of a variable that is set to a text. -/
def get? (env : Environment) (name : String) : Option String :=
  (env.octets? name).bind fun octets => (Utf8.decode octets).toOption

/-- Variables that are set to a text already win. -/
def addMissing (env : Environment) (name value : String) : Except Unsettable Environment :=
  if (env.get? name).isSome then .ok env
  else if value.toList.contains '\x00' then .error ⟨name, value⟩
  else .ok ((name, Utf8.encode value) :: env)

def value {α : Type} (env : Environment) (name : String) (read : String → Except String α)
    (default : α) : Except SettingsError α :=
  match env.get? name with
  | none => .ok default
  | some text => (read (trim text)).mapError (.invalidValue name)

def natural (env : Environment) (width : Width) (name : String) (default : Nat) :
    Except SettingsError Nat :=
  env.value name
    (fun s => ((readInteger width s).map Int.toNat).mapError IntegerError.message) default

def text (env : Environment) (name default : String) : String := (env.get? name).getD default

def path (env : Environment) (name : String) (default : Path) : Path :=
  ((env.get? name).map Path.ofText).getD default

def policy (env : Environment) (name : String) (default : ParseFailurePolicy) :
    Except SettingsError ParseFailurePolicy :=
  env.value name (fun s => (ParseFailurePolicy.read s).mapError SettingsError.message) default

end Environment

namespace Settings

open Environment

def read (env : Environment) : Except SettingsError Settings := do
  let d : Settings := {}
  let maxConnections ← env.natural .u32 "DATABASE_MAX_CONNECTIONS" d.database.maxConnections
  let minConnections ← env.natural .u32 "DATABASE_MIN_CONNECTIONS" d.database.minConnections
  let connectTimeoutSeconds ←
    env.natural .u64 "DATABASE_CONNECT_TIMEOUT" d.database.connectTimeoutSeconds
  let idleTimeoutSeconds ← env.natural .u64 "DATABASE_IDLE_TIMEOUT" d.database.idleTimeoutSeconds
  let chunkSize ← env.natural .u64 "IMPORT_CHUNK_SIZE" d.importing.chunkSize
  let workerCount ← env.natural .u64 "IMPORT_WORKER_COUNT" d.importing.workerCount
  let storeBatchSize ← env.natural .u64 "IMPORT_STORE_BATCH_SIZE" d.importing.storeBatchSize
  let parseFailures ← env.policy "IMPORT_PARSE_FAILURES" d.importing.parseFailures
  let publishRetries ← env.natural .u32 "IMPORT_PUBLISH_RETRIES" d.importing.publishRetries
  let publishRetryDelayMs ←
    env.natural .u64 "IMPORT_PUBLISH_RETRY_DELAY_MS" d.importing.publishRetryDelayMs
  let channelCapacity ← env.natural .u64 "IMPORT_CHANNEL_CAPACITY" d.importing.channelCapacity
  let busCapacity ← env.natural .u64 "IMPORT_BUS_CAPACITY" d.importing.busCapacity
  let pollIntervalMs ← env.natural .u64 "IMPORT_QUEUE_POLL_INTERVAL_MS" d.queue.pollIntervalMs
  let visibilityTimeoutSeconds ←
    env.natural .u64 "IMPORT_QUEUE_VISIBILITY_TIMEOUT_SECS" d.queue.visibilityTimeoutSeconds
  return {
    database := { url := env.text "DATABASE_URL" d.database.url, maxConnections, minConnections,
                  connectTimeoutSeconds, idleTimeoutSeconds }
    importing := { chunkSize, workerCount, storeBatchSize,
                   dataDir := env.path "IMPORT_DATA_DIR" d.importing.dataDir, parseFailures,
                   publishRetries, publishRetryDelayMs, channelCapacity, busCapacity }
    queue := { routingKey := env.text "IMPORT_ROUTING_KEY" d.queue.routingKey, pollIntervalMs,
               visibilityTimeoutSeconds } }

def ofEnvironment (env : Environment) : Except SettingsError Settings := do
  let settings ← read env
  settings.validate
  return settings

end Settings

end CatalogIntake
