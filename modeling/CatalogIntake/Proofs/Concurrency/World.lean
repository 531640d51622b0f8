import CatalogIntake.Simulation.Session
import CatalogIntake.Proofs.Store.Jobs

namespace CatalogIntake

/-- On this call the counters of the job, or their sum, fit 64 bits. -/
def Call.fits (table : JobTable) : Call → Bool
  | .increment id processed failed => (table.get? id).all (·.canCount processed failed)
  | .completeIfDone id =>
    (table.get? id).all fun job => Number.Width.i64.contains job.rowsAccounted
  | _ => true

namespace Concurrency

open Simulation

structure World where
  now : Instant
  jobs : JobTable
  errors : ErrorLog
  products : Catalogue
  bus : Bus

namespace World

def opening (now : Instant) (jobs : JobTable) (errors : ErrorLog) (products : Catalogue)
    (capacity : Nat) : World :=
  ⟨now, jobs, errors, products, .ofCapacity capacity⟩

def toSite (counters : Option Number.Width) (w : World) : Site where
  now := w.now
  jobs := w.jobs
  counters
  errors := w.errors
  products := w.products
  bus := w.bus

def ofSite (site : Site) : World := ⟨site.now, site.jobs, site.errors, site.products, site.bus⟩

def answerIn (counters : Option Number.Width) (w : World) (c : Call) : c.Answer × World :=
  ((Site.answer c (w.toSite counters)).1, ofSite (Site.answer c (w.toSite counters)).2)

/-- With counters that have no bound. Counters of 64 bits make no difference as long as what they
hold fits (`answerIn_of_fits`). -/
def answer (w : World) (c : Call) : c.Answer × World := w.answerIn none c

def setAvailable (w : World) (supply : Supply) (value : Bool) : World :=
  match supply with
  | .products => { w with products := { w.products with available := value } }
  | .errors => { w with errors := { w.errors with available := value } }
  | .progress => { w with jobs := { w.jobs with progressAvailable := value } }

variable (w : World)

@[simp] theorem answer_createJob (job : Job) :
    w.answer (.createJob job) = ((w.jobs.create job).1, { w with jobs := (w.jobs.create job).2 }) :=
  rfl

@[simp] theorem answer_getJob (id : JobId) : w.answer (.getJob id) = (.ok (w.jobs.get? id), w) :=
  rfl

@[simp] theorem answer_finalizeTotal (id : JobId) (total : Int) :
    w.answer (.finalizeTotal id total) =
      (.ok (w.jobs.finalizeTotal id total).1,
        { w with jobs := (w.jobs.finalizeTotal id total).2 }) :=
  rfl

@[simp] theorem answer_increment (id : JobId) (processed failed : Int) :
    w.answer (.increment id processed failed) =
      ((w.jobs.increment id processed failed).1,
        { w with jobs := (w.jobs.increment id processed failed).2 }) :=
  rfl

@[simp] theorem answer_completeIfDone (id : JobId) :
    w.answer (.completeIfDone id) =
      (.ok (w.jobs.completeIfDone id w.now).1,
        { w with jobs := (w.jobs.completeIfDone id w.now).2 }) :=
  rfl

@[simp] theorem answer_failJob (id : JobId) (reason : String) :
    w.answer (.failJob id reason) =
      (.ok (w.jobs.fail id reason w.now).1, { w with jobs := (w.jobs.fail id reason w.now).2 }) :=
  rfl

@[simp] theorem answer_cancelJob (id : JobId) :
    w.answer (.cancelJob id) =
      (.ok (w.jobs.cancel id w.now).1, { w with jobs := (w.jobs.cancel id w.now).2 }) :=
  rfl

@[simp] theorem answer_saveErrors (candidates : List ErrorCandidate) :
    w.answer (.saveErrors candidates) =
      ((w.errors.save candidates w.now).1,
        { w with errors := (w.errors.save candidates w.now).2 }) :=
  rfl

@[simp] theorem answer_insertBatch (products : List Product) :
    w.answer (.insertBatch products) =
      ((w.products.insertBatch products).1,
        { w with products := (w.products.insertBatch products).2 }) :=
  rfl

@[simp] theorem answer_insertOne (product : Product) :
    w.answer (.insertOne product) =
      ((w.products.insertOne product).1,
        { w with products := (w.products.insertOne product).2 }) :=
  rfl

@[simp] theorem answer_bus (c : Call) : (w.answer c).2.bus = w.bus := by
  cases c <;> rfl

theorem progressAvailable_answer (c : Call) :
    (w.answer c).2.jobs.progressAvailable = w.jobs.progressAvailable := by
  cases c with
  | createJob job =>
    rw [answer_createJob]
    unfold JobTable.create
    split <;> rfl
  | finalizeTotal id total => exact JobTable.progressAvailable_changeIf ..
  | increment id processed failed => exact JobTable.progressAvailable_increment ..
  | completeIfDone id => exact JobTable.progressAvailable_changeIf ..
  | failJob id reason => exact JobTable.progressAvailable_changeIf ..
  | cancelJob id => exact JobTable.progressAvailable_changeIf ..
  | _ => rfl

/-- The width of the counters makes no difference to anything but the jobs. -/
theorem answerIn_spares (counters : Option Number.Width) (c : Call) :
    (w.answerIn counters c).2.products = (w.answer c).2.products ∧
      (w.answerIn counters c).2.errors = (w.answer c).2.errors ∧
      (w.answerIn counters c).2.jobs.progressAvailable = w.jobs.progressAvailable := by
  cases c with
  | increment id processed failed =>
    exact ⟨rfl, rfl, JobTable.progressAvailable_incrementIn ..⟩
  | completeIfDone id => exact ⟨rfl, rfl, JobTable.progressAvailable_changeIf ..⟩
  | _ => exact ⟨rfl, rfl, w.progressAvailable_answer _⟩

theorem answerIn_of_fits {c : Call} (fits : c.fits w.jobs = true) :
    w.answerIn (some .i64) c = w.answer c := by
  cases c with
  | increment id processed failed =>
    have hsame := JobTable.incrementIn_of_fits fits
    exact congrArg (fun r : Outcome JobCounters × JobTable => (r.1, { w with jobs := r.2 })) hsame
  | completeIfDone id =>
    have hsame := JobTable.completeIfDoneIn_of_fits fits w.now
    exact congrArg (fun r : Bool × JobTable => (Except.ok r.1, { w with jobs := r.2 })) hsame
  | _ => rfl

end World

end Concurrency

end CatalogIntake
