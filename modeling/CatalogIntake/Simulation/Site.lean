import CatalogIntake.Pipeline.Plan
import CatalogIntake.Settings.Basic
import CatalogIntake.Sql.Errors
import CatalogIntake.Sql.Peer
import CatalogIntake.Sql.Products
import CatalogIntake.Sql.Queue
import CatalogIntake.Store.Errors
import CatalogIntake.Store.Jobs
import CatalogIntake.Store.Products

namespace CatalogIntake

/-- The name of the operation that a call is, by which disturbances are planned. -/
def Call.operation : Call → String
  | createJob _ => "create_job"
  | getJob _ => "get_job"
  | finalizeTotal _ _ => "finalize_total_rows"
  | increment _ _ _ => "increment_progress"
  | completeIfDone _ => "complete_if_done"
  | failJob _ _ => "fail_job"
  | cancelJob _ => "cancel_job"
  | saveErrors _ => "save_errors"
  | listErrors _ _ _ => "list_errors"
  | countErrors _ => "count_errors"
  | insertBatch _ => "insert_batch"
  | insertOne _ => "insert_one"
  | publish _ => "publish"
  | pause => "pause"

namespace Simulation

structure Fault where
  operation : String
  skip : Nat
  times : Nat
  deriving DecidableEq, Repr

namespace Fault

def next (f : Fault) : Bool × Fault :=
  if 0 < f.skip then (false, { f with skip := f.skip - 1 })
  else (0 < f.times, { f with times := f.times - 1 })

end Fault

inductive HookAction
  | cancel
  | fail
  | close
  deriving DecidableEq, Repr

/-- What happens whenever a chunk with this number has been accepted by the bus. -/
structure Hook where
  chunk : Int
  action : HookAction
  deriving DecidableEq, Repr

inductive Backend
  | memory
  | closedDatabase
  | database
  deriving DecidableEq, Repr

structure Backends where
  jobs : Backend := .memory
  errors : Backend := .memory
  products : Backend := .memory
  deriving DecidableEq, Repr

structure Site where
  now : Instant
  jobs : JobTable := .empty
  /-- How wide the counters of the jobs in memory are, if they have a bound. -/
  counters : Option Number.Width := some .i64
  errors : ErrorLog := .empty
  products : Catalogue := .empty
  batchCalls : Nat := 0
  bus : Bus
  /-- Chunks go to the durable queue instead of the bus. -/
  queued : Bool := false
  backends : Backends := {}
  peer : Sql.Peer := .closed
  sliceSize : Nat := 500
  queue : QueueSettings := {}
  faults : List Fault := []
  hooks : List Hook := []
  tickets : Nat := 0

namespace Site

def script {α : Type} (backend : Backend) (s : Sql.Script α) (w : Site) : α × Site :=
  match backend with
  | .database =>
    let (a, peer) := s.run Sql.Peer.answer w.peer
    (a, { w with peer })
  | _ => ((s.run Sql.Peer.answer .closed).1, w)

def planFault (w : Site) (f : Fault) : Site :=
  { w with faults := f :: w.faults.filter (·.operation != f.operation) }

def strike (w : Site) (operation : String) : Bool × Site :=
  match w.faults.find? (·.operation == operation) with
  | none => (false, w)
  | some f =>
    let (struck, f) := f.next
    (struck, { w with faults := w.faults.map fun g => if g.operation = operation then f else g })

def guarded {α : Type} (operation : String) (act : Site → Outcome α × Site) (w : Site) :
    Outcome α × Site :=
  match w.strike operation with
  | (true, w) => (.fail (.injected operation), w)
  | (false, w) => act w

def onJobs {α : Type} (w : Site) (act : JobTable → α × JobTable) : α × Site :=
  let (a, jobs) := act w.jobs
  (a, { w with jobs })

def okOnJobs {α : Type} (w : Site) (act : JobTable → α × JobTable) : Outcome α × Site :=
  let (a, w) := w.onJobs act
  (.ok a, w)

def perform (w : Site) : (c : Call) → c.Answer × Site
  | .createJob job =>
    match w.backends.jobs with
    | .memory => w.onJobs (·.create job)
    | backend => w.script backend (Sql.Jobs.create job)
  | .getJob id =>
    match w.backends.jobs with
    | .memory => (.ok (w.jobs.get? id), w)
    | backend => w.script backend (Sql.Jobs.get id)
  | .finalizeTotal id total =>
    match w.backends.jobs with
    | .memory => w.okOnJobs (·.finalizeTotal id total)
    | backend => w.script backend (Sql.Jobs.finalizeTotal id total)
  | .increment id processed failed =>
    match w.backends.jobs with
    | .memory => w.onJobs (·.incrementIn w.counters id processed failed)
    | backend => w.script backend (Sql.Jobs.increment id processed failed)
  | .completeIfDone id =>
    match w.backends.jobs with
    | .memory => w.okOnJobs (·.completeIfDoneIn w.counters id w.now)
    | backend => w.script backend (Sql.Jobs.completeIfDone id)
  | .failJob id reason =>
    match w.backends.jobs with
    | .memory => w.okOnJobs (·.fail id reason w.now)
    | backend => w.script backend (Sql.Jobs.fail id reason)
  | .cancelJob id =>
    match w.backends.jobs with
    | .memory => w.okOnJobs (·.cancel id w.now)
    | backend => w.script backend (Sql.Jobs.cancel id)
  | .saveErrors candidates =>
    match w.backends.errors with
    | .memory =>
      let (a, errors) := w.errors.save candidates w.now
      (a, { w with errors })
    | backend => w.script backend (Sql.Errors.save candidates)
  | .listErrors id limit offset =>
    match w.backends.errors with
    | .memory => (.ok (w.errors.page id limit offset), w)
    | backend => w.script backend (Sql.Errors.page id limit offset)
  | .countErrors id =>
    match w.backends.errors with
    | .memory => (.ok (w.errors.count id), w)
    | backend => w.script backend (Sql.Errors.count id)
  | .insertBatch products =>
    match w.backends.products with
    | .memory =>
      let (a, catalogue) := w.products.insertBatch products
      (a, { w with products := catalogue, batchCalls := w.batchCalls + 1 })
    | backend => w.script backend (Sql.Products.insertBatch w.sliceSize products)
  | .insertOne product =>
    match w.backends.products with
    | .memory =>
      let (a, catalogue) := w.products.insertOne product
      (a, { w with products := catalogue })
    | backend => w.script backend (Sql.Products.insertOne product)
  | .publish chunk => w.script .database (Sql.Queue.publish w.queue chunk)
  | .pause => (.ok (), w)

/-- A call that does not wait, with the faults planned for it. A job can also be hidden. -/
def answer : (c : Call) → Site → c.Answer × Site
  | .getJob id, w =>
    match w.strike "get_job_none" with
    | (true, w) => (.ok none, w)
    | (false, w) => guarded "get_job" (·.perform (.getJob id)) w
  | c, w => guarded c.operation (·.perform c) w

def runPlan {α : Type} (w : Site) (p : Plan α) : α × Site := p.run answer w

def applyHook (chunk : Chunk) (w : Site) (hook : Hook) : Site :=
  if hook.chunk ≠ chunk.number then w
  else match hook.action with
    | .cancel => { w with jobs := (w.jobs.cancel chunk.jobId w.now).2 }
    | .fail => { w with jobs := (w.jobs.fail chunk.jobId "failed by hook" w.now).2 }
    | .close => { w with bus := w.bus.close }

def accepted (w : Site) (chunk : Chunk) : Site := w.hooks.foldl (applyHook chunk) w

def ack (w : Site) : Outcome Unit × Site :=
  guarded "ack" (fun w => (.ok (), w)) { w with bus := w.bus.ack }

def nack (w : Site) (d : Delivery) : Outcome Unit × Site :=
  guarded "nack" (fun w => (.ok (), w)) { w with bus := w.bus.nack d }

end Site

end Simulation

end CatalogIntake
