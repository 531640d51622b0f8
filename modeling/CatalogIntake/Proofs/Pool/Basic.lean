import CatalogIntake.Proofs.Bus.Conservation
import CatalogIntake.Proofs.Concurrency.World
import CatalogIntake.Proofs.Pipeline.Storing

/-!
A pool of workers at a bus that was closed after some chunks had been published. A worker takes a
step when it receives a chunk, at each call that it makes with the chunk, when it settles the chunk,
and when it is told that nothing more will come. Stores can be switched off and on, and jobs can be
cancelled, at any time.
-/

namespace CatalogIntake

namespace WorkerStats

def merge (s t : WorkerStats) : WorkerStats where
  chunksConsumed := s.chunksConsumed + t.chunksConsumed
  chunksRetried := s.chunksRetried + t.chunksRetried
  rowsProcessed := s.rowsProcessed + t.rowsProcessed
  rowsFailed := s.rowsFailed + t.rowsFailed
  jobsCompleted := s.jobsCompleted + t.jobsCompleted

def joined (all : List WorkerStats) : WorkerStats := all.foldl merge {}

end WorkerStats

namespace Traffic

def publishAll (t : Traffic) : List Chunk → Traffic
  | [] => t
  | chunk :: chunks => (t.publish t.accepted.length chunk).publishAll chunks

/-- These chunks have been published, the later ones by publishers who wait for room, and then the
bus has been closed. -/
def stocked (capacity : Nat) (chunks : List Chunk) : Traffic :=
  let t := (opening capacity).publishAll chunks
  { t with bus := t.bus.close }

end Traffic

def Call.completed? : (c : Call) → c.Answer → Option JobId
  | .completeIfDone id, .ok true => some id
  | _, _ => none

namespace Pool

inductive Duty
  | idle
  | busy (parcel : Parcel) (stage : Stage)
  /-- The bus has told the worker that nothing more will come. -/
  | gone

structure Worker where
  duty : Duty := .idle
  stats : WorkerStats := {}

/-- What a worker has done with the chunk of this number: one call, or all of it. -/
inductive Deed
  | called (number : Nat) (call : Call) (answer : call.Answer)
  | consumed (number : Nat) (result : Outcome ChunkOutcome)

namespace Deed

def counted? : Deed → Option Nat
  | called n c answer => if c.counts answer then some n else none
  | _ => none

def completed? : Deed → Option JobId
  | called _ c answer => c.completed? answer
  | _ => none

def processed : Deed → Int
  | called _ c answer => c.processed answer
  | _ => 0

def failed : Deed → Int
  | called _ c answer => c.failed answer
  | _ => 0

def succeeded? : Deed → Option Nat
  | consumed n (.ok _) => some n
  | _ => none

def retried? : Deed → Option Nat
  | consumed n (.error _) => some n
  | _ => none

end Deed

inductive Action
  | work (worker : Nat)
  | resend (parcel : Parcel)
  | letIn (place : Nat)
  | cancel (jobId : JobId)
  | supply (supply : Simulation.Supply) (available : Bool)
  | wait (now : Instant)

def Action.isOwn : Action → Bool
  | .work _ | .resend _ | .letIn _ => true
  | _ => false

def acknowledges (result : Outcome ChunkOutcome) : Bool :=
  match Settlement.of result with
  | .ack => true
  | .nack _ => false

end Pool

structure Pool where
  world : Concurrency.World
  manifest : Manifest
  workers : List Pool.Worker
  deeds : List Pool.Deed

namespace Pool

def traffic (p : Pool) : Traffic := { p.manifest with bus := p.world.bus }

def setTraffic (p : Pool) (t : Traffic) : Pool :=
  { p with world := { p.world with bus := t.bus }, manifest := t.toManifest }

def setWorker (p : Pool) (j : Nat) (w : Worker) : Pool := { p with workers := p.workers.set j w }

def record (p : Pool) (d : Deed) : Pool := { p with deeds := p.deeds ++ [d] }

/-- So many workers start, one at least, when the chunks have been published and the bus has been
closed. -/
def opening (world : Concurrency.World) (capacity : Nat) (chunks : List Chunk) (size : Nat) :
    Pool :=
  let p : Pool := ⟨world, {}, List.replicate (max size 1) {}, []⟩
  p.setTraffic (.stocked capacity chunks)

def take (p : Pool) (j : Nat) (w : Worker) (q : Parcel) (t : Traffic) : Pool :=
  (p.setTraffic t).setWorker j { w with duty := .busy q .loading }

def handle (p : Pool) (j : Nat) (w : Worker) (q : Parcel) (c : Call) (next : c.Answer → Stage) :
    Pool :=
  ({ p with world := (p.world.answer c).2 }.record
    (.called q.number c (p.world.answer c).1)).setWorker j
    { w with duty := .busy q (next (p.world.answer c).1) }

def finish (p : Pool) (j : Nat) (w : Worker) (q : Parcel) (result : Outcome ChunkOutcome)
    (t : Traffic) : Pool :=
  ((p.setTraffic t).record (.consumed q.number result)).setWorker j ⟨.idle, w.stats.after result⟩

def moveWorker (p : Pool) (j : Nat) (w : Worker) : Option Pool :=
  match w.duty with
  | .idle =>
    match p.traffic.handOut? with
    | some (q, t) => some (p.take j w q t)
    | none => if p.world.bus.isDrained then some (p.setWorker j { w with duty := .gone }) else none
  | .busy q stage =>
    match stage.move q.delivery.chunk with
    | .go stage => some (p.setWorker j { w with duty := .busy q stage })
    | .ask c next => some (p.handle j w q c next)
    | .halt result => (p.traffic.settle? q (acknowledges result)).map (p.finish j w q result)
  | .gone => none

/-- One step; there is none when the one who should act has to wait or is at an end. -/
def act (p : Pool) : Action → Option Pool
  | .work j =>
    match p.workers[j]? with
    | some w => p.moveWorker j w
    | none => none
  | .resend q => (p.traffic.resend? q).map p.setTraffic
  | .letIn place => (p.traffic.letIn? place).map p.setTraffic
  | .cancel id =>
    some { p with world := { p.world with jobs := (p.world.jobs.cancel id p.world.now).2 } }
  | .supply supply available => some { p with world := p.world.setAvailable supply available }
  | .wait now => some { p with world := { p.world with now } }

def run (p : Pool) : List Action → Option Pool
  | [] => some p
  | a :: schedule => (p.act a).bind (run · schedule)

def counted (p : Pool) : List Nat := p.deeds.filterMap Deed.counted?

def completed (p : Pool) : List JobId := p.deeds.filterMap Deed.completed?

def succeeded (p : Pool) : List Nat := p.deeds.filterMap Deed.succeeded?

def retried (p : Pool) : List Nat := p.deeds.filterMap Deed.retried?

def processed (p : Pool) : Int := (p.deeds.map Deed.processed).sum

def failed (p : Pool) : Int := (p.deeds.map Deed.failed).sum

def Duty.parcel? : Duty → Option Parcel
  | .busy q _ => some q
  | _ => none

def held (p : Pool) : List Parcel := p.workers.filterMap (·.duty.parcel?)

end Pool

end CatalogIntake
