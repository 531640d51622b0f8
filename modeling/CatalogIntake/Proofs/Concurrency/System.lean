import CatalogIntake.Proofs.Bus
import CatalogIntake.Proofs.Concurrency.World
import CatalogIntake.Proofs.Pipeline.Point

/-!
Producers and workers at one bus and at the stores in memory. A step is one call of one of them, one
move between two calls, or something from outside: a new import or worker, a cancellation, a store
switched off or on, the closing of the bus. A schedule is any sequence of steps, so that every
order of calls is the run of some schedule.
-/

namespace CatalogIntake.Concurrency

open Simulation

inductive Duty
  | idle
  | busy (delivery : Delivery) (stage : Stage)
  /-- The bus has told the worker that nothing more will come. -/
  | gone

structure Worker where
  duty : Duty := .idle
  stats : WorkerStats := {}

/-- A producer, with the reader of its source at the other end of a channel. -/
structure Producer where
  settings : ImportSettings
  source : List RowEvent
  state : Producing
  /-- How many of the unread events are in the channel. -/
  channel : Nat := 0
  /-- It goes on when the chunk it has published has left the line of the bus. -/
  waiting : Bool := false

namespace Producer

def start (settings : ImportSettings) (jobId : JobId) (source : List RowEvent) : Producer where
  settings
  source
  state := .start jobId source

def jobId (p : Producer) : JobId := p.state.run.jobId

def rowsRead (p : Producer) : Int := p.state.run.rowsRead

def outcome? (p : Producer) : Option ProducerOutcome :=
  match p.state.point with
  | .ended outcome => some outcome
  | _ => none

def canRead (p : Producer) : Bool :=
  p.channel < max p.settings.channelCapacity 1 && p.channel < p.state.unread.length

def isStarved (p : Producer) : Bool :=
  p.state.point = .reading && p.channel = 0 && !p.state.unread.isEmpty

def canMove (p : Producer) : Bool := !p.waiting && !p.isStarved

/-- The producer in its next state; an event that it took has left the channel. -/
def goTo (p : Producer) (state : Producing) : Producer :=
  { p with state, channel := p.channel - (p.state.unread.length - state.unread.length) }

end Producer

/-- What has happened, as far as it can be seen from outside. -/
inductive Event
  /-- The bus has taken a chunk, into its buffer or into its line. -/
  | taken (producer : Nat) (chunk : Chunk)
  | asked (producer : Nat) (call : Call) (answer : call.Answer)
  | handled (worker : Nat) (delivery : Delivery) (call : Call) (answer : call.Answer)
  | settled (worker : Nat) (delivery : Delivery) (result : Outcome ChunkOutcome)

structure System where
  world : World
  producers : List Producer
  workers : List Worker
  history : List Event

inductive Action
  | read (producer : Nat)
  | produce (producer : Nat)
  | work (worker : Nat)
  | start (settings : ImportSettings) (jobId : JobId) (source : List RowEvent)
  | hire
  | cancel (jobId : JobId)
  | supply (supply : Supply) (available : Bool)
  | close
  | wait (now : Instant)

namespace System

/-- Nobody has begun, and so many workers are idle. -/
def opening (world : World) (workers : Nat) : System := ⟨world, [], List.replicate workers {}, []⟩

def setProducer (s : System) (i : Nat) (p : Producer) : System :=
  { s with producers := s.producers.set i p }

def setWorker (s : System) (j : Nat) (w : Worker) : System :=
  { s with workers := s.workers.set j w }

def record (s : System) (e : Event) : System := { s with history := s.history ++ [e] }

def setBus (s : System) (bus : Bus) : System := { s with world := { s.world with bus } }

def letIn (s : System) : Option Nat → System
  | none => s
  | some i =>
    match s.producers[i]? with
    | some p => s.setProducer i { p with waiting := false }
    | none => s

def ask (s : System) (i : Nat) (p : Producer) : (c : Call) → (c.Answer → Producing) → System
  | .publish chunk, next =>
    match s.world.bus.publish i chunk with
    | (.refused, _) =>
      (s.record (.asked i (.publish chunk) (.fail .busClosed))).setProducer i
        (p.goTo (next (.fail .busClosed)))
    | (.accepted, bus) =>
      ((s.setBus bus).record (.taken i chunk)).setProducer i (p.goTo (next (.ok ())))
    | (.waiting, bus) =>
      ((s.setBus bus).record (.taken i chunk)).setProducer i
        { p.goTo (next (.ok ())) with waiting := true }
  | c, next =>
    ({ s with world := (s.world.answer c).2 }.record
      (.asked i c (s.world.answer c).1)).setProducer i
      (p.goTo (next (s.world.answer c).1))

def handle (s : System) (j : Nat) (w : Worker) (d : Delivery) (c : Call)
    (next : c.Answer → Stage) : System :=
  ({ s with world := (s.world.answer c).2 }.record
    (.handled j d c (s.world.answer c).1)).setWorker j
    { w with duty := .busy d (next (s.world.answer c).1) }

def settle (s : System) (j : Nat) (w : Worker) (d : Delivery) (result : Outcome ChunkOutcome) :
    System :=
  ((s.setBus (s.world.bus.settleWith d result)).record (.settled j d result)).setWorker j
    ⟨.idle, w.stats.after result⟩

def moveProducer (s : System) (i : Nat) (p : Producer) : Option System :=
  match p.state.move p.settings with
  | .go state => some (s.setProducer i (p.goTo state))
  | .ask c next => some (s.ask i p c next)
  | .halt _ => none

def moveWorker (s : System) (j : Nat) (w : Worker) : Option System :=
  match w.duty with
  | .idle =>
    match s.world.bus.receive with
    | (.nothing, _) => none
    | (.finished, _) => some (s.setWorker j { w with duty := .gone })
    | (.delivery d admitted, bus) =>
      some (((s.setBus bus).letIn admitted).setWorker j { w with duty := .busy d .loading })
  | .busy d stage =>
    match stage.move d.chunk with
    | .go stage => some (s.setWorker j { w with duty := .busy d stage })
    | .ask c next => some (s.handle j w d c next)
    | .halt result => some (s.settle j w d result)
  | .gone => none

def startImport (s : System) (settings : ImportSettings) (jobId : JobId)
    (source : List RowEvent) : Option System :=
  match s.world.answer (.createJob (Job.started jobId s.world.now)) with
  | (.ok _, world) =>
    some { s with world, producers := s.producers ++ [.start settings jobId source] }
  | (.error _, _) => none

/-- One step; there is none when the one who should act has to wait or is at an end. -/
def act (s : System) : Action → Option System
  | .read i =>
    match s.producers[i]? with
    | some p =>
      if p.canRead then some (s.setProducer i { p with channel := p.channel + 1 }) else none
    | none => none
  | .produce i =>
    match s.producers[i]? with
    | some p => if p.canMove then s.moveProducer i p else none
    | none => none
  | .work j =>
    match s.workers[j]? with
    | some w => s.moveWorker j w
    | none => none
  | .start settings jobId source => s.startImport settings jobId source
  | .hire => some { s with workers := s.workers ++ [{}] }
  | .cancel id =>
    some { s with world := { s.world with jobs := (s.world.jobs.cancel id s.world.now).2 } }
  | .supply supply value => some { s with world := s.world.setAvailable supply value }
  | .close => some (s.setBus s.world.bus.close)
  | .wait now => some { s with world := { s.world with now } }

def run (s : System) : List Action → Option System
  | [] => some s
  | a :: schedule =>
    match s.act a with
    | some s => s.run schedule
    | none => none

end System

end CatalogIntake.Concurrency
