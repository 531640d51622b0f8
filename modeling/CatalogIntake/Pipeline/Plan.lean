import CatalogIntake.Bus
import CatalogIntake.Failure
import CatalogIntake.Job.ErrorEntry
import CatalogIntake.Product.Entry

/-!
What the pipeline asks of its surroundings, and plans: programs that ask, look at the answer and go
on. A plan says nothing about how stores and bus work, nor when other plans run in between.
-/

namespace CatalogIntake

inductive Call
  | createJob (job : Job)
  | getJob (id : JobId)
  | finalizeTotal (id : JobId) (total : Int)
  | increment (id : JobId) (processed failed : Int)
  | completeIfDone (id : JobId)
  | failJob (id : JobId) (reason : String)
  | cancelJob (id : JobId)
  | saveErrors (candidates : List ErrorCandidate)
  | listErrors (id : JobId) (limit offset : Int)
  | countErrors (id : JobId)
  | insertBatch (products : List Product)
  | insertOne (product : Product)
  | publish (chunk : Chunk)
  /-- Waits before the next attempt to publish. -/
  | pause

namespace Call

abbrev Reply : Call → Type
  | createJob _ => Unit
  | getJob _ => Option Job
  | finalizeTotal _ _ => Bool
  | increment _ _ _ => JobCounters
  | completeIfDone _ => Bool
  | failJob _ _ => Bool
  | cancelJob _ => Bool
  | saveErrors _ => Unit
  | listErrors _ _ _ => List ErrorEntry
  | countErrors _ => Int
  | insertBatch _ => Unit
  | insertOne _ => Unit
  | publish _ => Unit
  | pause => Unit

abbrev Answer (c : Call) : Type := Outcome c.Reply

end Call

inductive Plan (α : Type)
  | done (result : α)
  | call (c : Call) (next : c.Answer → Plan α)

namespace Plan

def bind {α β : Type} : Plan α → (α → Plan β) → Plan β
  | done a, f => f a
  | call c next, f => call c fun answer => bind (next answer) f

instance : Monad Plan where
  pure := done
  bind := bind

def ask (c : Call) : Plan c.Answer := call c done

/-- Goes through the plan with every call answered at once by `answer`, which may change `s`. -/
def run {σ α : Type} (answer : (c : Call) → σ → c.Answer × σ) : Plan α → σ → α × σ
  | done a, s => (a, s)
  | call c next, s =>
    let (reply, s) := answer c s
    run answer (next reply) s

theorem bind_done {α : Type} (p : Plan α) : p.bind done = p := by
  induction p with
  | done a => rfl
  | call c next ih => simp [bind, ih]

theorem bind_assoc {α β γ : Type} (p : Plan α) (f : α → Plan β) (g : β → Plan γ) :
    (p.bind f).bind g = p.bind fun a => (f a).bind g := by
  induction p with
  | done a => rfl
  | call c next ih => simp [bind, ih]

instance : LawfulMonad Plan := .mk' Plan bind_done (fun _ _ => rfl) bind_assoc

theorem run_bind {σ α β : Type} (answer : (c : Call) → σ → c.Answer × σ) (p : Plan α)
    (f : α → Plan β) (s : σ) :
    run answer (p.bind f) s = run answer (f (run answer p s).1) (run answer p s).2 := by
  induction p generalizing s with
  | done a => rfl
  | call c next ih => exact ih _ _

end Plan

end CatalogIntake
