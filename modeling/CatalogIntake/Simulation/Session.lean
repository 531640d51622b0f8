import CatalogIntake.Request.StartImport
import CatalogIntake.Simulation.Scene
import CatalogIntake.Sql.Migrate

namespace CatalogIntake.Simulation

structure Session where
  scene : Scene
  settings : ImportSettings := {}
  folder : Folder := ⟨[], []⟩
  /-- Deliveries in the order in which they were answered. -/
  deliveries : List Delivery := []
  jobCount : Nat := 0

inductive Pending (α : Type)
  | none
  | blocked
  | done (result : α)

inductive Supply
  | products
  | errors
  | progress
  deriving DecidableEq, Repr

abbrev Received := Outcome (Option (Nat × Delivery))

namespace Session

def site (s : Session) : Site := s.scene.site

def setSite (s : Session) (site : Site) : Session := { s with scene := { s.scene with site } }

def settle (s : Session) : Session := { s with scene := s.scene.run }

def call (c : Call) (s : Session) : c.Answer × Session :=
  let (a, w) := Site.answer c s.site
  (a, s.setSite w)

def plan {α : Type} (p : Plan α) (s : Session) : α × Session :=
  let (a, w) := s.site.runPlan p
  (a, s.setSite w)

def script {α : Type} (p : Sql.Script α) (s : Session) : α × Session :=
  let (a, w) := s.site.script .database p
  (a, s.setSite w)

def publish (chunk : Chunk) (s : Session) : Pending (Outcome Unit) × Session :=
  let s := { s with scene := (s.scene.startPublish chunk).run }
  match s.scene.publishers.getLast?.bind (·.progress.result?) with
  | some result =>
    (.done result, { s with scene := { s.scene with publishers := s.scene.publishers.dropLast } })
  | none => (.blocked, s)

def blockedPublish (s : Session) : Pending (Outcome Unit) × Session :=
  match s.scene.publishers with
  | [] => (.none, s)
  | t :: rest =>
    match t.progress.result? with
    | some result => (.done result, { s with scene := { s.scene with publishers := rest } })
    | none => (.blocked, s)

def number (s : Session) (given : Given) : Received × Session :=
  match given with
  | .error f => (.error f, s)
  | .ok none => (.ok none, s)
  | .ok (some d) =>
    (.ok (some (s.deliveries.length, d)), { s with deliveries := s.deliveries ++ [d] })

def takeGiven (s : Session) (caller : Caller) (given : Given) : Pending Received × Session :=
  let s := { s with scene := s.scene.dropCaller caller.number }
  let (received, s) := s.number given
  (.done received, s)

def receive (s : Session) : Pending Received × Session :=
  let (number, scene) := s.scene.startReceive
  let s := { s with scene := scene.run }
  match s.scene.callers.find? (·.number == number) with
  | some caller =>
    match caller.given with
    | some given => s.takeGiven caller given
    | none => (.blocked, { s with scene := s.scene.dropCaller number })
  | none => (.blocked, s)

def startReceive (s : Session) : Session := { s with scene := s.scene.startReceive.2.run }

def finishReceive (s : Session) : Pending Received × Session :=
  match s.scene.callers with
  | [] => (.none, s)
  | caller :: _ =>
    match caller.given with
    | some given => s.takeGiven caller given
    | none => (.blocked, s)

def ack (number : Nat) (s : Session) : Option (Outcome Unit) × Session :=
  match s.deliveries[number]? with
  | none => (none, s)
  | some _ =>
    let (a, w) := s.site.ack
    (some a, (s.setSite w).settle)

def nack (number : Nat) (s : Session) : Option (Outcome Unit) × Session :=
  match s.deliveries[number]? with
  | none => (none, s)
  | some d =>
    let (a, w) := s.site.nack d
    (some a, (s.setSite w).settle)

def close (s : Session) : Session :=
  (s.setSite { s.site with bus := s.site.bus.close }).settle

def claim (s : Session) : Received × Session :=
  let (given, s) := s.script (Sql.Queue.claim s.site.queue Scene.enough)
  s.number given

/-- Claims again and again until there is a message; `fuel` bounds how often. -/
def claimUntil : Nat → Session → Pending Received × Session
  | 0, s => (.blocked, s)
  | fuel + 1, s =>
    match s.claim with
    | (.ok none, s) => claimUntil fuel s
    | (received, s) => (.done received, s)

def polls : Nat := 1000

def queueReceive (s : Session) : Pending Received × Session := s.claimUntil polls

inductive Early
  | cancel
  | fail
  | complete
  deriving DecidableEq, Repr

def Early.apply (e : Early) (id : JobId) (w : Site) : Site :=
  match e with
  | cancel => { w with jobs := (w.jobs.cancel id w.now).2 }
  | fail => { w with jobs := (w.jobs.fail id "failed early" w.now).2 }
  | complete =>
    let jobs := (w.jobs.finalizeTotal id 1).2
    let jobs := (jobs.increment id 1 0).2
    { w with jobs := (jobs.completeIfDone id w.now).2 }

structure ImportReport where
  jobId : JobId
  source : String
  summary : Option ProducerSummary
  record : Record
  stats : Option WorkerStats

def freshId (s : Session) : JobId :=
  ⟨BitVec.ofNat 128 (0xfacefeedfacefeed4000800000000000 + s.jobCount)⟩

def joinWorkers (s : Session) : Option WorkerStats × Session :=
  let s := s.settle
  let left := s.scene.workersLeft
  let stats := s.scene.stats
  (if left = 0 then some stats else none, { s with scene := s.scene.stopWorkers })

def importFile (settings : ImportSettings) (file : String) (early : Option Early)
    (workers : Option Nat) (s : Session) : Except StartImportError ImportReport × Session :=
  match StartImport.validate file with
  | .error e => (.error e, s)
  | .ok () =>
    let source := StartImport.source settings file
    let id := s.freshId
    let s := { s with jobCount := s.jobCount + 1 }
    let (created, s) := s.plan (StartImport.createJob (Job.started id s.site.now))
    match created with
    | .error e => (.error e, s)
    | .ok () =>
      let s := match early with
        | some early => s.setSite (early.apply id s.site)
        | none => s
      let events := RowEvent.ofPath source.display (s.folder.find source)
      let scene := s.scene.startImport settings id events
      let scene := match workers with
        | some n => scene.startWorkers n
        | none => scene
      let s := { s with scene := scene.run }
      let (stats, s) := match workers with
        | some _ => s.close.joinWorkers
        | none => (none, s)
      match s.scene.import? id with
      | none => (.ok ⟨id, source.display, none, {}, stats⟩, s)
      | some i => (.ok ⟨id, source.display, i.task.progress.result?, i.task.record, stats⟩, s)

/-- A pool of workers: the bus is closed first, unless the pool is shut down once it is idle. -/
def runWorkers (count : Nat) (shutdown : Bool) (s : Session) : Option WorkerStats × Session :=
  let s := if shutdown then s else s.setSite { s.site with bus := s.site.bus.close }
  let s := { s with scene := s.scene.startWorkers count }
  let (stats, s) := s.joinWorkers
  (if shutdown then some s.scene.stats else stats, s)

def setAvailable (supply : Supply) (value : Bool) (s : Session) : Session :=
  let w := s.site
  s.setSite (match supply with
    | .products => { w with products := { w.products with available := value } }
    | .errors => { w with errors := { w.errors with available := value } }
    | .progress => { w with jobs := { w.jobs with progressAvailable := value } })

def takeLog (s : Session) : List Sql.Statement × Session :=
  let (log, peer) := s.site.peer.takeLog
  (log, s.setSite { s.site with peer })

end Session

end CatalogIntake.Simulation
