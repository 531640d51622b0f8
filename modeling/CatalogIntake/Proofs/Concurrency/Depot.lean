import CatalogIntake.Proofs.Concurrency.Step
import CatalogIntake.Proofs.Sql.QueueTable

/-!
Producers and workers with the durable queue between them instead of the bus. A chunk is published,
claimed and settled by the scripts of the queue, run against its table at one moment; every
statement, and every call to a store, may also fail, and then has no effect. A worker that has died
is one that makes no more steps.
-/

namespace CatalogIntake

def Point.isPublishing : Point → Bool
  | publishing _ _ _ _ => true
  | _ => false

def Stage.isSettled : Stage → Bool
  | settled _ => true
  | _ => false

namespace Concurrency

open Sql

/-- The bus of the system is not used. -/
structure Depot where
  system : System
  table : QueueTable
  settings : QueueSettings

inductive Errand
  /-- A step that does not concern the queue. -/
  | inside (action : Action)
  /-- The call that a producer makes next fails. -/
  | deny (producer : Nat) (f : Failure)
  /-- The call that a worker makes next fails. -/
  | fault (worker : Nat) (f : Failure)
  | publish (producer : Nat) (trouble : Trouble)
  /-- One look for a visible message. -/
  | claim (worker : Nat) (trouble : Trouble)
  | settle (worker : Nat) (trouble : Trouble)

def Duty.isAtWork : Duty → Bool
  | .busy _ stage => !stage.isSettled
  | _ => false

namespace System

def isInside (s : System) : Action → Bool
  | .produce i => !(s.producers[i]?.any (·.state.point.isPublishing))
  | .work j => s.workers[j]?.any (·.duty.isAtWork)
  | .close => false
  | _ => true

def deny (s : System) (i : Nat) (p : Producer) (f : Failure) (c : Call)
    (next : c.Answer → Producing) : System :=
  (s.record (.asked i c (.error f))).setProducer i (p.goTo (next (.error f)))

end System

namespace Depot

def opening (world : World) (workers : Nat) (settings : QueueSettings) : Depot :=
  ⟨.opening world workers, .empty, settings⟩

def now (s : Depot) : Instant := s.system.world.now

def deny (s : Depot) (i : Nat) (p : Producer) (f : Failure) : Option Depot :=
  match p.state.move p.settings with
  | .ask c next => some { s with system := s.system.deny i p f c next }
  | _ => none

def fault (s : Depot) (j : Nat) (w : Worker) (f : Failure) : Option Depot :=
  match w.duty with
  | .busy d stage =>
    match stage.move d.chunk with
    | .ask c next =>
      some { s with
        system := (s.system.record (.handled j d c (.error f))).setWorker j
          { w with duty := .busy d (next (.error f)) } }
    | _ => none
  | _ => none

def publish (s : Depot) (i : Nat) (p : Producer) (trouble : Trouble) : Option Depot :=
  match p.state.move p.settings with
  | .ask (.publish chunk) next =>
    match (Queue.publish s.settings chunk).run (QueueTable.serve s.now trouble) s.table with
    | (.ok _, table) =>
      some { s with
        system := (s.system.record (.taken i chunk)).setProducer i (p.goTo (next (.ok ())))
        table }
    | (.error f, table) =>
      some { s with system := s.system.deny i p f (.publish chunk) next, table }
  | _ => none

def claim (s : Depot) (j : Nat) (w : Worker) (trouble : Trouble) : Option Depot :=
  match w.duty with
  | .idle =>
    match (Queue.claim s.settings 1).run (QueueTable.serve s.now trouble) s.table with
    | (.ok (some d), table) =>
      some { s with system := s.system.setWorker j { w with duty := .busy d .loading }, table }
    | (_, table) => some { s with table }
  | _ => none

def settle (s : Depot) (j : Nat) (w : Worker) (trouble : Trouble) : Option Depot :=
  match w.duty with
  | .busy d (.settled result) =>
    let (_, table) := (Queue.settle d result).run (QueueTable.serve s.now trouble) s.table
    some { s with
      system := (s.system.record (.settled j d result)).setWorker j ⟨.idle, w.stats.after result⟩
      table }
  | _ => none

def act (s : Depot) : Errand → Option Depot
  | .inside a =>
    if s.system.isInside a then (s.system.act a).map fun system => { s with system } else none
  | .deny i f => (s.system.producers[i]?.filter Producer.canMove).bind fun p => s.deny i p f
  | .fault j f => s.system.workers[j]?.bind fun w => s.fault j w f
  | .publish i trouble =>
    (s.system.producers[i]?.filter Producer.canMove).bind fun p => s.publish i p trouble
  | .claim j trouble => s.system.workers[j]?.bind fun w => s.claim j w trouble
  | .settle j trouble => s.system.workers[j]?.bind fun w => s.settle j w trouble

def run (s : Depot) : List Errand → Option Depot
  | [] => some s
  | e :: rest => (s.act e).bind fun s => s.run rest

inductive Step (s : Depot) : Errand → Depot → Prop
  | inside {a : Action} {system : System} (apart : s.system.isInside a = true)
      (step : System.Step s.system a system) : Step s (.inside a) { s with system }
  | denied {e : Errand} {i : Nat} {p : Producer} {c : Call} {f : Failure} {state : Producing}
      (at_ : s.system.producers[i]? = some p)
      (asks : Producing.Asks p.settings p.state c (.error f) state) :
      Step s e { s with
        system := (s.system.record (.asked i c (.error f))).setProducer i (p.goTo state) }
  | faulted {j : Nat} {w : Worker} {d : Delivery} {stage next : Stage} {c : Call} {f : Failure}
      (at_ : s.system.workers[j]? = some w) (busy : w.duty = .busy d stage)
      (asks : Stage.Asks d.chunk stage c (.error f) next) :
      Step s (.fault j f) { s with
        system := (s.system.record (.handled j d c (.error f))).setWorker j
          { w with duty := .busy d next } }
  | published {i : Nat} {p : Producer} {chunk : Chunk} {state : Producing} {trouble : Trouble}
      (at_ : s.system.producers[i]? = some p)
      (asks : Producing.Asks p.settings p.state (.publish chunk) (.ok ()) state) :
      Step s (.publish i trouble) { s with
        system := (s.system.record (.taken i chunk)).setProducer i (p.goTo state)
        table := s.table.insert s.settings.routingKey chunk }
  | claimed {j : Nat} {w : Worker} {d : Delivery} {table : QueueTable} {trouble : Trouble}
      (at_ : s.system.workers[j]? = some w) (idle : w.duty = .idle)
      (claims : (Queue.claim s.settings 1).run (QueueTable.serve s.now trouble) s.table =
        (.ok (some d), table)) :
      Step s (.claim j trouble) { s with
        system := s.system.setWorker j { w with duty := .busy d .loading }
        table }
  | missed {j : Nat} {answer : Outcome (Option Delivery)} {table : QueueTable} {trouble : Trouble}
      (claims : (Queue.claim s.settings 1).run (QueueTable.serve s.now trouble) s.table =
        (answer, table)) (nothing : ∀ d, answer ≠ .ok (some d)) :
      Step s (.claim j trouble) { s with table }
  | settled {j : Nat} {w : Worker} {d : Delivery} {result : Outcome ChunkOutcome}
      {answer : Outcome Unit} {table : QueueTable} {trouble : Trouble}
      (at_ : s.system.workers[j]? = some w) (busy : w.duty = .busy d (.settled result))
      (settles : (Queue.settle d result).run (QueueTable.serve s.now trouble) s.table =
        (answer, table)) :
      Step s (.settle j trouble) { s with
        system := (s.system.record (.settled j d result)).setWorker j ⟨.idle, w.stats.after result⟩
        table }

variable {s s' : Depot} {e : Errand}

theorem step_of_act (h : s.act e = some s') : Step s e s' := by
  cases e with
  | inside a =>
    simp only [act] at h
    split at h
    · obtain ⟨system, hact, rfl⟩ := Option.map_eq_some_iff.mp h
      exact .inside ‹_› (System.step_of_act hact)
    · cases h
  | deny i f =>
    obtain ⟨p, hp, h⟩ := Option.bind_eq_some_iff.mp h
    obtain ⟨at_, -⟩ := Option.filter_eq_some_iff.mp hp
    unfold deny at h
    split at h
    · cases h
      exact .denied at_ (Producing.asks_of_move ‹_› _)
    · cases h
  | fault j f =>
    obtain ⟨w, at_, h⟩ := Option.bind_eq_some_iff.mp h
    unfold fault at h
    split at h
    · split at h
      · cases h
        exact .faulted at_ ‹_› (Stage.asks_of_move ‹_› _)
      · cases h
    · cases h
  | publish i trouble =>
    obtain ⟨p, hp, h⟩ := Option.bind_eq_some_iff.mp h
    obtain ⟨at_, -⟩ := Option.filter_eq_some_iff.mp hp
    unfold publish at h
    split at h
    · rename_i chunk next hmove
      have asks := Producing.asks_of_move hmove
      split at h
      · rename_i hrun
        cases h
        rcases QueueTable.publish_cases hrun with ⟨-, rfl⟩ | ⟨⟨f, hf⟩, -⟩
        · exact .published at_ (asks (.ok ()))
        · cases hf
      · rename_i f _ hrun
        cases h
        rcases QueueTable.publish_cases hrun with ⟨hok, -⟩ | ⟨-, rfl⟩
        · cases hok
        · exact .denied at_ (asks (.error f))
    · cases h
  | claim j trouble =>
    obtain ⟨w, at_, h⟩ := Option.bind_eq_some_iff.mp h
    unfold claim at h
    split at h
    · split at h
      · cases h
        exact .claimed at_ ‹_› ‹_›
      · rename_i answer _ hnone hrun
        cases h
        exact .missed hrun hnone
    · cases h
  | settle j trouble =>
    obtain ⟨w, at_, h⟩ := Option.bind_eq_some_iff.mp h
    unfold settle at h
    split at h
    · cases h
      exact .settled at_ ‹_› rfl
    · cases h

theorem run_cons {rest : List Errand} (h : s.run (e :: rest) = some s') :
    ∃ next, s.act e = some next ∧ next.run rest = some s' := Option.bind_eq_some_iff.mp h

theorem run_append {first second : List Errand} :
    s.run (first ++ second) = (s.run first).bind fun s => s.run second := by
  induction first generalizing s with
  | nil => rfl
  | cons e first ih =>
    simp only [List.cons_append, run, Option.bind_assoc, ih]

theorem run_invariant {P : Depot → Prop}
    (keeps : ∀ {e : Errand} {s s' : Depot}, Step s e s' → P s → P s')
    {errands : List Errand} (h : s.run errands = some s') (hs : P s) : P s' := by
  induction errands generalizing s with
  | nil =>
    cases h
    exact hs
  | cons e rest ih =>
    obtain ⟨next, hact, hrun⟩ := run_cons h
    exact ih hrun (keeps (step_of_act hact) hs)

end Depot

end Concurrency

end CatalogIntake
