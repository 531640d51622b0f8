import CatalogIntake.Proofs.Pipeline.Reading
import Mathlib.Algebra.BigOperators.Group.List.Basic

namespace CatalogIntake

structure Answered where
  call : Call
  answer : call.Answer

namespace Answered

def reported : Answered → List ErrorCandidate
  | ⟨.saveErrors candidates, _⟩ => candidates
  | _ => []

def isUnsaved : Answered → Bool
  | ⟨.saveErrors _, .error _⟩ => true
  | _ => false

def isBooking (a : Answered) : Bool :=
  match a.call with
  | .saveErrors _ | .increment .. => true
  | _ => false

def isPublishing (a : Answered) : Bool :=
  match a.call with
  | .publish _ => true
  | _ => false

def isTotal (a : Answered) : Bool :=
  match a.call with
  | .finalizeTotal .. => true
  | _ => false

def published? (a : Answered) : Option Chunk := a.call.published? a.answer

def saved (a : Answered) : List ErrorCandidate := a.call.saved a.answer

def failed (a : Answered) : Int := a.call.failed a.answer

end Answered

def chunksOf (log : List Answered) : List Chunk := log.filterMap Answered.published?

def errorsOf (log : List Answered) : List ErrorCandidate := log.flatMap Answered.saved

def failedOf (log : List Answered) : Int := (log.map Answered.failed).sum

section Logs

variable {log : List Answered}

theorem chunksOf_append (log more : List Answered) :
    chunksOf (log ++ more) = chunksOf log ++ chunksOf more := List.filterMap_append

theorem errorsOf_append (log more : List Answered) :
    errorsOf (log ++ more) = errorsOf log ++ errorsOf more := List.flatMap_append

theorem failedOf_append (log more : List Answered) :
    failedOf (log ++ more) = failedOf log + failedOf more := by
  unfold failedOf
  rw [List.map_append, List.sum_append]

theorem chunksOf_eq_nil (silent : ∀ a ∈ log, a.isPublishing = false) : chunksOf log = [] := by
  apply List.filterMap_eq_nil_iff.mpr
  intro a ha
  have hsilent := silent a ha
  obtain ⟨c, answer⟩ := a
  cases c <;> first | rfl | cases hsilent

theorem errorsOf_eq_nil (silent : ∀ a ∈ log, a.isBooking = false) : errorsOf log = [] := by
  apply List.flatMap_eq_nil_iff.mpr
  intro a ha
  have hsilent := silent a ha
  obtain ⟨c, answer⟩ := a
  cases c <;> first | rfl | cases hsilent

theorem failedOf_eq_zero (silent : ∀ a ∈ log, a.isBooking = false) : failedOf log = 0 := by
  apply List.sum_eq_zero
  intro amount hamount
  obtain ⟨a, ha, rfl⟩ := List.mem_map.mp hamount
  have hsilent := silent a ha
  obtain ⟨c, answer⟩ := a
  cases c <;> first | rfl | cases hsilent

end Logs

theorem Plan.run_call {σ α : Type} (answer : (c : Call) → σ → c.Answer × σ) (c : Call)
    (next : c.Answer → Plan α) (s : σ) :
    run answer (.call c next) s = run answer (next (answer c s).1) (answer c s).2 := rfl

end CatalogIntake
