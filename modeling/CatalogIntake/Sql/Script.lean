import CatalogIntake.Failure
import CatalogIntake.Sql.Statement

namespace CatalogIntake.Sql

abbrev Row := List Json

inductive Reply
  | affected (count : Nat)
  | rows (rows : List Row)
  deriving Repr

namespace Reply

def count : Reply → Nat
  | affected n => n
  | rows rs => rs.length

def toRows : Reply → List Row
  | affected _ => []
  | rows rs => rs

def first? (r : Reply) : Option Row := r.toRows.head?

end Reply

abbrev Answer := Except DatabaseError Reply

inductive Script (α : Type)
  | done (result : α)
  | send (statement : Statement) (next : Answer → Script α)

namespace Script

def bind {α β : Type} : Script α → (α → Script β) → Script β
  | done a, f => f a
  | send s next, f => send s fun answer => bind (next answer) f

instance : Monad Script where
  pure := done
  bind := bind

def run {σ α : Type} (answer : Statement → σ → Answer × σ) : Script α → σ → α × σ
  | done a, s => (a, s)
  | send statement next, s =>
    let (reply, s) := answer statement s
    run answer (next reply) s

theorem run_bind {σ α β : Type} (answer : Statement → σ → Answer × σ) (p : Script α)
    (f : α → Script β) (s : σ) :
    run answer (p.bind f) s = run answer (f (run answer p s).1) (run answer p s).2 := by
  induction p generalizing s with
  | done a => rfl
  | send statement next ih => exact ih _ _

def request {α : Type} (attempt : Attempt) (statement : Statement) (read : Reply → Outcome α) :
    Script (Outcome α) :=
  send statement fun
    | .ok reply => done (read reply)
    | .error e => done (.error ⟨[attempt], .database e⟩)

def requestAll (attempt : Attempt) : List Statement → Script (Outcome Unit)
  | [] => done (.ok ())
  | statement :: rest => send statement fun
    | .ok _ => requestAll attempt rest
    | .error e => done (.error ⟨[attempt], .database e⟩)

/-- Statements within a transaction, which is committed if none of them fails. -/
def transaction (attempt commitAttempt : Attempt) (statements : List Statement) :
    Script (Outcome Unit) :=
  send .begin fun
    | .error e => done (.error ⟨[.beginTransaction], .database e⟩)
    | .ok _ => bind (requestAll attempt statements) fun
      | .error f => done (.error f)
      | .ok () => send .commit fun
        | .error e => done (.error ⟨[commitAttempt], .database e⟩)
        | .ok _ => done (.ok ())

end Script

def healthCheck : Script (Except DatabaseError Unit) :=
  .send .ping fun answer => .done (answer.map fun _ => ())

/-- Consecutive slices of at most `size` items, where a size of zero counts as one. -/
def slices {α : Type} (size : Nat) (items : List α) : List (List α) :=
  match items with
  | [] => []
  | item :: rest =>
    let most := max size 1
    (item :: rest).take most :: slices size ((item :: rest).drop most)
termination_by items.length
decreasing_by
  have : 0 < max size 1 := by omega
  simp only [List.length_drop, List.length_cons]
  omega

end CatalogIntake.Sql
