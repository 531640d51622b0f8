import CatalogIntake.Simulation.Site

namespace CatalogIntake.Simulation

inductive Progress (α : Type)
  | ready (plan : Plan α)
  /-- In the line of the bus. -/
  | waiting (ticket : Nat) (chunk : Chunk) (next : Outcome Unit → Plan α)
  | sleeping (plan : Plan α)
  | finished (result : α)

namespace Progress

def result? {α : Type} : Progress α → Option α
  | finished a => some a
  | _ => none

def isReady {α : Type} : Progress α → Bool
  | ready _ => true
  | _ => false

def wake {α : Type} : Progress α → Progress α
  | sleeping plan => ready plan
  | p => p

end Progress

/-- What one participant published: attempts, and the chunks that were accepted. -/
structure Record where
  attempts : Nat := 0
  published : List Chunk := []
  deriving Repr

def Record.attempt (r : Record) : Record := { r with attempts := r.attempts + 1 }

def Record.accept (r : Record) (chunk : Chunk) : Record :=
  { r with published := r.published ++ [chunk] }

def advance {α : Type} : Plan α → Site → Record → Progress α × Site × Record
  | .done a, w, r => (.finished a, w, r)
  | .call .pause next, w, r => (.sleeping (next (.ok ())), w, r)
  | .call (.publish chunk) next, w, r =>
    let r := r.attempt
    match w.strike "publish" with
    | (true, w) => advance (next (.fail (.injected "publish"))) w r
    | (false, w) =>
      if w.queued then
        match w.perform (.publish chunk) with
        | (.ok (), w) => advance (next (.ok ())) w (r.accept chunk)
        | (.error f, w) => advance (next (.error f)) w r
      else
        let ticket := w.tickets
        match w.bus.publish ticket chunk with
        | (.refused, _) => advance (next (.fail .busClosed)) w r
        | (.accepted, bus) =>
          advance (next (.ok ())) ({ w with bus }.accepted chunk) (r.accept chunk)
        | (.waiting, bus) => (.waiting ticket chunk next, { w with bus, tickets := ticket + 1 }, r)
  | .call c next, w, r =>
    let (reply, w) := Site.answer c w
    advance (next reply) w r

structure Task (α : Type) where
  progress : Progress α
  record : Record := {}

namespace Task

def step {α : Type} (t : Task α) (w : Site) : Task α × Site :=
  match t.progress with
  | .ready plan =>
    let (progress, w, record) := advance plan w t.record
    (⟨progress, record⟩, w)
  | _ => (t, w)

def holds {α : Type} (t : Task α) (ticket : Nat) : Bool :=
  match t.progress with
  | .waiting own _ _ => own == ticket
  | _ => false

def letIn {α : Type} (t : Task α) (w : Site) : Task α × Site :=
  match t.progress with
  | .waiting _ chunk next =>
    (⟨.ready (next (.ok ())), t.record.accept chunk⟩, w.accepted chunk)
  | _ => (t, w)

def wake {α : Type} (t : Task α) : Task α := { t with progress := t.progress.wake }

end Task

end CatalogIntake.Simulation
