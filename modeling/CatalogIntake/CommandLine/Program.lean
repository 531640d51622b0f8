import CatalogIntake.CommandLine.Invocation
import CatalogIntake.Logging.Start
import CatalogIntake.ProgramError
import CatalogIntake.Request.CancelImport
import CatalogIntake.Request.JobDetails
import CatalogIntake.Request.StartImport
import CatalogIntake.Settings.EnvFile
import CatalogIntake.Simulation.Scene
import CatalogIntake.Sql.Migrate

namespace CatalogIntake.CommandLine

open Simulation

structure Surroundings where
  environment : Environment
  envFile : Option (List UInt8)
  lookup : Path → Except FileError Folder.Node
  /-- The database, if it can be reached. -/
  peer : Option Sql.Peer
  /-- The identifier of a job that the program starts. -/
  jobId : JobId
  now : Instant

structure Desk where
  output : String
  scene : Scene

abbrev Act (α : Type) := ExceptT ProgramError (StateM Desk) α

namespace Act

def print (line : String) : Act Unit :=
  modify fun d => { d with output := d.output ++ line ++ "\n" }

def plan {α : Type} (p : Plan α) : Act α := do
  let d ← get
  let (a, site) := d.scene.site.runPlan p
  set { d with scene := { d.scene with site } }
  return a

def script {α : Type} (p : Sql.Script α) : Act α := do
  let d ← get
  let (a, site) := d.scene.site.script .database p
  set { d with scene := { d.scene with site } }
  return a

def onScene (f : Scene → Scene) : Act Unit := modify fun d => { d with scene := f d.scene }

def onSite (f : Site → Site) : Act Unit := onScene fun s => { s with site := f s.site }

end Act

open Act

def hasScheme (url : String) : Bool :=
  let scheme := url.toList.takeWhile (· != ':')
  url.toList.contains ':' && (scheme.head?.any Char.isAlpha)
    && scheme.all fun c => c.isAlphanum || c == '+' || c == '-' || c == '.'

def connect (around : Surroundings) (settings : Settings) : Act Unit := do
  match around.peer with
  | some peer => onSite fun w => { w with peer }
  | none =>
    if hasScheme settings.database.url then throw (.database .unreachable)
    else throw (.database .invalidAddress)

def openStores (around : Surroundings) (settings : Settings) : Act Unit := do
  connect around settings
  match ← script Sql.healthCheck with
  | .error e => throw (.database e)
  | .ok () =>
    onSite fun w => { w with
      backends := ⟨.database, .database, .database⟩
      sliceSize := settings.importing.storeBatchSize
      queue := settings.queue }

def notFound (id : JobId) : ProgramError := .notFound s!"import job {id.text}"

def detailsOf (id : JobId) : Act JobDetails := do
  match ← plan (jobDetails id) with
  | .ok details => return details
  | .error .notFound => throw (notFound id)
  | .error (.store f) => throw (.ofFailure f)

def printJob (id : JobId) : Act Unit := do
  print (← detailsOf id).toJson.renderIndented

def start (around : Surroundings) (settings : Settings) (file : String) : Act Unit := do
  if let .error e := StartImport.validate file then throw (.invalidArgument e.message)
  let source := StartImport.source settings.importing file
  match ← plan (StartImport.createJob (Job.started around.jobId around.now)) with
  | .error .fileRequired => throw (.invalidArgument StartImportError.fileRequired.message)
  | .error (.pipeline f) => throw (.ofFailure f)
  | .ok () =>
    onScene fun s =>
      s.startImport settings.importing around.jobId
        (RowEvent.ofPath source.display (around.lookup source))
    print s!"Started import job {around.jobId.text}"

def waitForEnd (id : JobId) : Nat → Act Unit
  | 0 => return
  | fuel + 1 => do
    if !(← detailsOf id).job.isTerminal then waitForEnd id fuel

def rounds : Nat := 10000

def importFile (around : Surroundings) (settings : Settings) (file : String) (wait : Bool) :
    Act Unit := do
  openStores around settings
  onSite fun w => { w with queued := true }
  start around settings file
  onScene Scene.run
  if wait then waitForEnd around.jobId rounds
  printJob around.jobId

/-- The producer and the workers share a bus in memory; it is closed when the producer is done. -/
def runFile (around : Surroundings) (settings : Settings) (file : String) (inMemory : Bool) :
    Act Unit := do
  unless inMemory do openStores around settings
  onSite fun w => { w with bus := .ofCapacity settings.importing.busCapacity }
  onScene (·.startWorkers settings.importing.workerCount)
  start around settings file
  onScene Scene.run
  onSite fun w => { w with bus := w.bus.close }
  onScene Scene.run
  printJob around.jobId

def workOn (settings : QueueSettings) (stats : WorkerStats) : Nat → Act WorkerStats
  | 0 => return stats
  | fuel + 1 => do
    if (← get).scene.site.peer.isInterrupted then return stats
    match ← script (Sql.Queue.claim settings rounds) with
    | .error _ | .ok none => workOn settings stats fuel
    | .ok (some d) =>
      let result ← plan (consume d.chunk)
      match Settlement.of result with
      | .ack => let _ ← script (Sql.Queue.ack d)
      | .nack reason => let _ ← script (Sql.Queue.nack d reason)
      workOn settings (stats.after result) fuel

def work (around : Surroundings) (settings : Settings) : Act Unit := do
  openStores around settings
  let stats ← workOn settings.queue {} rounds
  print (s!"Consumed {stats.chunksConsumed} chunks ({stats.rowsProcessed} rows stored, " ++
    s!"{stats.rowsFailed} rows failed)")

def printErrors (around : Surroundings) (settings : Settings) (id : JobId) (limit offset : Int) :
    Act Unit := do
  openStores around settings
  match ← plan (ErrorPage.fetch id (some limit) (some offset)) with
  | .ok page => print page.toJson.renderIndented
  | .error .notFound => throw (notFound id)
  | .error (.store f) => throw (.ofFailure f)
  | .error e => throw (.invalidArgument e.message)

def cancel (around : Surroundings) (settings : Settings) (id : JobId) : Act Unit := do
  openStores around settings
  match ← plan (cancelImport id) with
  | .ok () => print (cancellationJson id).renderIndented
  | .error (.notFound id) => throw (notFound id)
  | .error (.store f) => throw (.ofFailure f)
  | .error e => throw (.invalidArgument e.message)

def perform (around : Surroundings) (settings : Settings) : Task → Act Unit
  | .work _ => work around settings
  | .importFile file wait => importFile around settings file wait
  | .run file inMemory => runFile around settings file inMemory
  | .status id => do
    openStores around settings
    printJob id
  | .errors id limit offset => printErrors around settings id limit offset
  | .cancel id => cancel around settings id
  | .migrate => do
    connect around settings
    if let .error e ← script Sql.migrate then throw (.migration e)

def command (around : Surroundings) (task : Task) : Act Unit := do
  match Settings.load around.environment around.envFile with
  | .error (.aborted cause) => throw (.aborted cause.text)
  | .error (.unusable e) => throw (.configuration e.text)
  | .ok settings => perform around settings task

structure Outcome where
  error : Option ProgramError
  output : String
  statements : List Sql.Statement

def run (around : Surroundings) (task : Task) : Outcome :=
  let site : Site := { now := around.now, bus := .ofCapacity 1 }
  let (result, desk) := (command around task).run ⟨"", { site }⟩
  let error := match result with
    | .ok () => none
    | .error e => some e
  ⟨error, desk.output, desk.scene.site.peer.takeLog.1⟩

structure Finished where
  exitCode : Nat
  output : String
  complaints : List String
  folder : Folder

def logSettings (verbose : Bool) : LogSettings where
  level := if verbose then .debug else .info
  filePrefix := importer.name
  directives := some "inventory_import=debug,sqlx=warn"

/-- The settings of the log, and a complaint about an environment that cannot be used. -/
def mergedLogSettings (verbose : Bool) (env : Environment) : LogSettings × List String :=
  match (logSettings verbose).merge env with
  | .ok s => (s, [])
  | .error e => (logSettings verbose, [s!"Ignoring invalid logging environment: {e.message}"])

/-- The source that the program reads when it is given these arguments, if it reads one. -/
def sourcePath? (args : List String) (environment : Environment) (envFile : Option (List UInt8)) :
    Option Path :=
  match Invocation.read args, Settings.load environment envFile with
  | .ok ⟨.importFile file _, _⟩, .ok settings | .ok ⟨.run file _, _⟩, .ok settings =>
    some (StartImport.source settings.importing file)
  | _, _ => none

def carryOut (args : List String) (around : Surroundings) (folder : Folder) (day : String) :
    Finished :=
  match Invocation.read args with
  | .error .version => ⟨0, s!"{importer.name} {version}\n", [], folder⟩
  | .error e => ⟨e.exitCode, "", [], folder⟩
  | .ok invocation =>
    let (log, ignored) := mergedLogSettings invocation.verbose around.environment
    let (folder, disabled) := match log.start folder day with
      | .ok folder => (folder, [])
      | .error e => (folder, [s!"Logging disabled: {e.message}"])
    let outcome := run around invocation.task
    match outcome.error with
    | none => ⟨0, outcome.output, ignored ++ disabled, folder⟩
    | some e =>
      ⟨e.exitCode, outcome.output, ignored ++ disabled ++ [e.complaint], folder⟩

end CatalogIntake.CommandLine
