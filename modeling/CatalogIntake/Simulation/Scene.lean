import CatalogIntake.Pipeline.Producer
import CatalogIntake.Pipeline.Worker
import CatalogIntake.Simulation.Task

namespace CatalogIntake.Simulation

inductive Seat
  | caller (number : Nat)
  | worker
  deriving DecidableEq, Repr

abbrev Given := Outcome (Option Delivery)

structure Caller where
  number : Nat
  given : Option Given

structure Import where
  jobId : JobId
  task : Task ProducerSummary

structure Scene where
  site : Site
  imports : List Import := []
  publishers : List (Task (Outcome Unit)) := []
  callers : List Caller := []
  line : List Seat := []
  /-- Workers who rest after a failure to receive. -/
  resting : Nat := 0
  stats : WorkerStats := {}
  callerNumber : Nat := 0

namespace Scene

def stepFirst {α : Type} (w : Site) : List (Task α) → Option (List (Task α) × Site)
  | [] => none
  | t :: rest =>
    if t.progress.isReady then
      let (t, w) := t.step w
      some (t :: rest, w)
    else (stepFirst w rest).map fun (rest, w) => (t :: rest, w)

def setTasks (imports : List Import) (tasks : List (Task ProducerSummary)) : List Import :=
  imports.zipWith (fun i task => { i with task }) tasks

def stepImport (s : Scene) : Option Scene :=
  (stepFirst s.site (s.imports.map (·.task))).map fun (tasks, site) =>
    { s with site, imports := setTasks s.imports tasks }

def stepPublisher (s : Scene) : Option Scene :=
  (stepFirst s.site s.publishers).map fun (publishers, site) => { s with site, publishers }

def letInAll {α : Type} (ticket : Nat) (w : Site) : List (Task α) → List (Task α) × Site
  | [] => ([], w)
  | t :: rest =>
    if t.holds ticket then
      let (t, w) := t.letIn w
      (t :: rest, w)
    else
      let (rest, w) := letInAll ticket w rest
      (t :: rest, w)

def letIn (s : Scene) : Option Nat → Scene
  | none => s
  | some ticket =>
    let (tasks, site) := letInAll ticket s.site (s.imports.map (·.task))
    let (publishers, site) := letInAll ticket site s.publishers
    { s with site, publishers, imports := setTasks s.imports tasks }

def ask (s : Scene) : Scene :=
  match s.site.strike "receive" with
  | (true, site) => { s with site, resting := s.resting + 1 }
  | (false, site) => { s with site, line := s.line ++ [.worker] }

def askTimes : Nat → Scene → Scene
  | 0, s => s
  | n + 1, s => askTimes n s.ask

def handle (s : Scene) (d : Delivery) : Scene :=
  let (result, site) := s.site.runPlan (consume d.chunk)
  let (_, site) := match Settlement.of result with
    | .ack => site.ack
    | .nack _ => site.nack d
  { s with site, stats := s.stats.after result }

def give (s : Scene) (number : Nat) (given : Given) : Scene :=
  { s with
    callers := s.callers.map fun c =>
      if c.number = number then { c with given := some given } else c }

def serve (s : Scene) : Option Scene :=
  match s.line with
  | [] => none
  | seat :: line =>
    match s.site.bus.receive with
    | (.nothing, _) => none
    | (.finished, _) =>
      match seat with
      | .caller number => some ({ s with line }.give number (.ok none))
      | .worker => some { s with line }
    | (.delivery d admitted, bus) =>
      let s := { s with line, site := { s.site with bus } }.letIn admitted
      match seat with
      | .caller number => some (s.give number (.ok (some d)))
      | .worker => some (s.handle d).ask

def turn (s : Scene) : Option Scene :=
  s.stepImport.or (s.stepPublisher.or s.serve)

def hasSleepers (s : Scene) : Bool :=
  0 < s.resting
    || s.imports.any (fun i => match i.task.progress with | .sleeping _ => true | _ => false)

def wake (s : Scene) : Scene :=
  askTimes s.resting
    { s with resting := 0, imports := s.imports.map fun i => { i with task := i.task.wake } }

def settle : Nat → Scene → Scene
  | 0, s => s
  | fuel + 1, s =>
    match s.turn with
    | some s => settle fuel s
    | none => if s.hasSleepers then settle fuel s.wake else s

def enough : Nat := 1000000

def run (s : Scene) : Scene := s.settle enough

def startImport (s : Scene) (settings : ImportSettings) (jobId : JobId) (events : List RowEvent) :
    Scene :=
  { s with imports := s.imports ++ [⟨jobId, ⟨.ready (produce settings jobId events), {}⟩⟩] }

def import? (s : Scene) (jobId : JobId) : Option Import :=
  s.imports.reverse.find? (·.jobId == jobId)

def startPublish (s : Scene) (chunk : Chunk) : Scene :=
  { s with publishers := s.publishers ++ [⟨.ready (Plan.ask (.publish chunk)), {}⟩] }

def startReceive (s : Scene) : Nat × Scene :=
  let number := s.callerNumber
  let s := { s with callerNumber := number + 1 }
  match s.site.strike "receive" with
  | (true, site) =>
    let given : Given := .fail (.injected "receive")
    (number, { s with site, callers := s.callers ++ [⟨number, some given⟩] })
  | (false, site) =>
    (number, { s with
      site
      callers := s.callers ++ [⟨number, none⟩]
      line := s.line ++ [.caller number] })

def dropCaller (s : Scene) (number : Nat) : Scene :=
  { s with
    callers := s.callers.filter (·.number != number)
    line := s.line.filter (· != .caller number) }

def startWorkers (s : Scene) (count : Nat) : Scene := askTimes (max count 1) { s with stats := {} }

def workersLeft (s : Scene) : Nat := s.resting + s.line.count .worker

def stopWorkers (s : Scene) : Scene := { s with resting := 0, line := s.line.filter (· != .worker) }

end Scene

end CatalogIntake.Simulation
