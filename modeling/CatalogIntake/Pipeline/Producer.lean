import CatalogIntake.Pipeline.Completion
import CatalogIntake.Pipeline.RowEvent
import CatalogIntake.Settings.Basic

/-!
Publishing a source in chunks. Records gather in a window that is published when it is full;
rejected rows are logged and counted in groups of the same size. The run ends finished, cancelled
or failed, and only a finished or cancelled run records the total.
-/

namespace CatalogIntake

open Text

inductive ProducerOutcome
  | finished
  | cancelled
  | failed (reason : String)
  deriving DecidableEq, Repr

structure ProducerSummary where
  jobId : JobId
  rowsRead : Int
  rejectedRows : Int
  chunksPublished : Int32
  outcome : ProducerOutcome
  deriving DecidableEq, Repr

inductive Stop
  | cancelled
  | failed (reason : String)
  deriving DecidableEq, Repr

structure ProducerRun where
  jobId : JobId
  window : List ProductRecord
  pendingErrors : List ErrorCandidate
  rowsRead : Int
  rejectedRows : Int
  chunkNumber : Int32
  deriving DecidableEq, Repr

namespace ProducerRun

def start (jobId : JobId) : ProducerRun := ⟨jobId, [], [], 0, 0, 0⟩

def emptySourceReason : String := "source contains no data rows"

/-- A step of a run: it may stop the run, and leaves the run as far as it came. -/
abbrev Step (α : Type) := ExceptT Stop (StateT ProducerRun Plan) α

def ask (c : Call) : Step c.Answer := fun run => .call c fun answer => .done (.ok answer, run)

def stopOnFailure {α : Type} : Outcome α → Step α
  | .ok a => pure a
  | .error f => throw (.failed f.text)

def publishWithRetry (chunk : Chunk) (attempts : Nat) : Nat → Plan (Outcome Unit)
  | 0 => .call (.publish chunk) fun
    | .ok _ => .done (.ok ())
    | .error f => .done (.error (f.during (.publishChunk chunk.number (.ofNat (attempts + 1)))))
  | retries + 1 => .call (.publish chunk) fun
    | .ok _ => .done (.ok ())
    | .error _ => .call .pause fun _ => publishWithRetry chunk (attempts + 1) retries

def ensureProcessing : Step Unit := do
  let run ← get
  match ← stopOnFailure (← ask (.getJob run.jobId)) with
  | none => throw (.failed "import job disappeared")
  | some job =>
    match job.status with
    | .processing => return
    | .cancelled => throw .cancelled
    | status => throw (.failed s!"job left processing state ({status.name})")

/-- Logs and counts the rejected rows. A log that is not available does not stop the run. -/
def flushRejections : Step Unit := do
  let run ← get
  if run.pendingErrors.isEmpty then return
  set { run with pendingErrors := [] }
  let _ ← ask (.saveErrors run.pendingErrors)
  let _ ← stopOnFailure (← ask (.increment run.jobId 0 run.pendingErrors.length))

def publishWindow (settings : ImportSettings) : Step Unit := do
  let run ← get
  unless run.window.isEmpty do
    ensureProcessing
    set { run with window := [] }
    let chunk : Chunk := ⟨run.jobId, run.chunkNumber.toInt, run.window⟩
    let published ← fun s => do
      return (.ok (← publishWithRetry chunk 0 settings.publishRetries), s)
    stopOnFailure published
    modify fun run => { run with chunkNumber := run.chunkNumber + 1 }
  flushRejections

def reject (settings : ImportSettings) (rowNumber : Int) (message : String)
    (raw : Option String) (run : ProducerRun) : ProducerRun :=
  let run := { run with rowsRead := run.rowsRead + 1, rejectedRows := run.rejectedRows + 1 }
  match settings.parseFailures with
  | .count =>
    { run with
      pendingErrors := run.pendingErrors
        ++ [ErrorCandidate.bounded run.jobId (some rowNumber) message raw] }
  | .logOnly => run

def onEvent (settings : ImportSettings) : RowEvent → Step Unit
  | .parsed record => do
    modify fun run =>
      { run with rowsRead := run.rowsRead + 1, window := run.window ++ [record] }
    if settings.chunkSize ≤ (← get).window.length then publishWindow settings
  | .rejected rowNumber message raw => do
    modify (reject settings rowNumber message raw)
    if settings.chunkSize ≤ (← get).pendingErrors.length then flushRejections
  | .fault fault => throw (.failed fault.text)

def stream (settings : ImportSettings) (events : List RowEvent) : Step Unit :=
  events.forM (onEvent settings)

def finish (settings : ImportSettings) : Step Unit := do
  publishWindow settings
  let run ← get
  if run.rowsRead = 0 then throw (.failed emptySourceReason)
  let total ← ask (.finalizeTotal run.jobId run.rowsRead)
  let _ ← stopOnFailure (total.during .recordTotal)
  let completed ← fun s => do return (.ok (← checkAndComplete run.jobId), s)
  let _ ← stopOnFailure completed

def stopCancelled (run : ProducerRun) : Plan ProducerOutcome :=
  .call (.finalizeTotal run.jobId run.rowsRead) fun _ => .done .cancelled

def fail (run : ProducerRun) (reason : String) : Plan ProducerOutcome :=
  let reason := boundedErrorMessage reason
  .call (.failJob run.jobId reason) fun _ => .done (.failed reason)

def conclude (run : ProducerRun) : Except Stop Unit → Plan ProducerOutcome
  | .ok () => .done .finished
  | .error .cancelled => run.stopCancelled
  | .error (.failed reason) => run.fail reason

def summary (run : ProducerRun) (outcome : ProducerOutcome) : ProducerSummary :=
  ⟨run.jobId, run.rowsRead, run.rejectedRows, run.chunkNumber, outcome⟩

end ProducerRun

def produce (settings : ImportSettings) (jobId : JobId) (events : List RowEvent) :
    Plan ProducerSummary := do
  let steps : ProducerRun.Step Unit := do
    ProducerRun.stream settings events
    ProducerRun.finish settings
  let (result, run) ← steps (ProducerRun.start jobId)
  return run.summary (← run.conclude result)

end CatalogIntake
