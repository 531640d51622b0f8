import CatalogIntake.Failure
import CatalogIntake.Job.Basic
import CatalogIntake.Text.Bounded

/-!
Jobs held in memory. Each operation looks at one job and changes it in one step. A job leaves the
state `processing` once, its total is set once, and its counters only grow by what is reported.
-/

namespace CatalogIntake

open Number Text

structure JobTable where
  jobs : List Job
  progressAvailable : Bool
  deriving Repr

namespace JobTable

def empty : JobTable := ⟨[], true⟩

def get? (table : JobTable) (id : JobId) : Option Job := table.jobs.find? (·.id == id)

def set (table : JobTable) (job : Job) : JobTable :=
  { table with jobs := table.jobs.map fun j => if j.id = job.id then job else j }

def changeIf (table : JobTable) (id : JobId) (change : Job → Option Job) : Bool × JobTable :=
  match (table.get? id).bind change with
  | some job => (true, table.set job)
  | none => (false, table)

def create (table : JobTable) (job : Job) : Outcome Unit × JobTable :=
  match table.get? job.id with
  | some _ => (.fail (.jobExists job.id), table)
  | none => (.ok (), { table with jobs := table.jobs ++ [job] })

def finalizeTotal (table : JobTable) (id : JobId) (total : Int) : Bool × JobTable :=
  table.changeIf id fun job =>
    if job.totalRows.isNone then some { job with totalRows := some total } else none

/-- Adds to the counters of a job, which are registers of this width or have no bound. -/
def incrementIn (counters : Option Width) (table : JobTable) (id : JobId)
    (processed failed : Int) : Outcome JobCounters × JobTable :=
  if !table.progressAvailable then (.fail .jobStoreUnavailable, table)
  else match table.get? id with
    | none => (.fail (.jobNotFound id), table)
    | some job =>
      let job := { job with
        processedRows := Width.hold counters (job.processedRows + processed)
        failedRows := Width.hold counters (job.failedRows + failed) }
      (.ok job.counters, table.set job)

def increment (table : JobTable) (id : JobId) (processed failed : Int) :
    Outcome JobCounters × JobTable :=
  table.incrementIn none id processed failed

def completeIfDoneIn (counters : Option Width) (table : JobTable) (id : JobId) (now : Instant) :
    Bool × JobTable :=
  table.changeIf id fun job =>
    if job.isReadyIn counters then some { job with status := .completed, endTime := some now }
    else none

def completeIfDone (table : JobTable) (id : JobId) (now : Instant) : Bool × JobTable :=
  table.completeIfDoneIn none id now

def finish (table : JobTable) (id : JobId) (status : JobStatus) (reason : Option String)
    (now : Instant) : Bool × JobTable :=
  table.changeIf id fun job =>
    if job.status = .processing then
      some { job with status, endTime := some now, failureReason := reason.map boundedErrorMessage }
    else none

def fail (table : JobTable) (id : JobId) (reason : String) (now : Instant) : Bool × JobTable :=
  table.finish id .failed (some reason) now

def cancel (table : JobTable) (id : JobId) (now : Instant) : Bool × JobTable :=
  table.finish id .cancelled none now

end JobTable

end CatalogIntake
