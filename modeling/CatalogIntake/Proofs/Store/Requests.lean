import CatalogIntake.Proofs.Store.Jobs

namespace CatalogIntake

inductive JobRequest
  | create (id : JobId) (start : Instant)
  | get (id : JobId)
  | finalizeTotal (id : JobId) (total : Int)
  | increment (id : JobId) (processed failed : Nat)
  | completeIfDone (id : JobId)
  | fail (id : JobId) (reason : String)
  | cancel (id : JobId)
  deriving DecidableEq, Repr

inductive JobReply
  | created
  | found (job : Option Job)
  /-- Whether a conditional request took effect. -/
  | applied (whether : Bool)
  | counted (counters : JobCounters)
  deriving DecidableEq, Repr

namespace JobRequest

def jobId : JobRequest → JobId
  | create id _ | get id | finalizeTotal id _ | increment id _ _ | completeIfDone id | fail id _
  | cancel id => id

def isConditional : JobRequest → Bool
  | finalizeTotal _ _ | completeIfDone _ | fail _ _ | cancel _ => true
  | create _ _ | get _ | increment _ _ _ => false

def effect (now : Instant) : JobRequest → Job → Job
  | finalizeTotal _ total => Job.totalled total
  | increment _ processed failed => Job.counted processed failed
  | completeIfDone _ => Job.checked now
  | fail _ reason => Job.finished .failed (some reason) now
  | cancel _ => Job.finished .cancelled none now
  | create _ _ | get _ => fun job => job

end JobRequest

namespace JobTable

def answer (now : Instant) (table : JobTable) : JobRequest → Outcome JobReply × JobTable
  | .create id start =>
    ((table.create (.started id start)).1.map fun _ => .created,
      (table.create (.started id start)).2)
  | .get id => (.ok (.found (table.get? id)), table)
  | .finalizeTotal id total =>
    (.ok (.applied (table.finalizeTotal id total).1), (table.finalizeTotal id total).2)
  | .increment id processed failed =>
    ((table.increment id processed failed).1.map .counted, (table.increment id processed failed).2)
  | .completeIfDone id =>
    (.ok (.applied (table.completeIfDone id now).1), (table.completeIfDone id now).2)
  | .fail id reason => (.ok (.applied (table.fail id reason now).1), (table.fail id reason now).2)
  | .cancel id => (.ok (.applied (table.cancel id now).1), (table.cancel id now).2)

/-- The requests that fail: a job is created twice, or rows are added to the counters of a job that
is unknown or while counters cannot be updated. -/
def refuses (table : JobTable) : JobRequest → Bool
  | .create id _ => (table.get? id).isSome
  | .increment id _ _ => !table.progressAvailable || (table.get? id).isNone
  | _ => false

variable (table : JobTable) (now : Instant) (request : JobRequest)

/-- What a request leaves behind under an id: the job with its effect, or a new job. -/
def afterwards (id : JobId) : Option Job :=
  match request with
  | .create new start =>
    if id = new ∧ table.get? new = none then some (.started new start) else table.get? id
  | request =>
    if id = request.jobId ∧ table.refuses request = false then
      (table.get? id).map (request.effect now)
    else table.get? id

theorem get?_answer (id : JobId) :
    (table.answer now request).2.get? id = table.afterwards now request id := by
  cases request with
  | create new start => exact get?_create table (.started new start) id
  | get named =>
    show table.get? id = _
    simp only [afterwards, JobRequest.effect, Option.map_id', ite_self]
  | finalizeTotal named total =>
    simpa [answer, afterwards, refuses, JobRequest.jobId, JobRequest.effect] using
      get?_finalizeTotal table named total id
  | increment named processed failed =>
    have hget := get?_increment table named processed failed id
    by_cases hid : id = named
    · subst hid
      cases havailable : table.progressAvailable <;>
        cases hjob : table.get? id <;>
          simpa [answer, afterwards, refuses, JobRequest.jobId, JobRequest.effect, havailable,
            hjob] using hget
    · simpa [answer, afterwards, JobRequest.jobId, hid] using hget
  | completeIfDone named =>
    simpa [answer, afterwards, refuses, JobRequest.jobId, JobRequest.effect] using
      get?_completeIfDone table named now id
  | fail named reason =>
    simpa [answer, afterwards, refuses, JobRequest.jobId, JobRequest.effect, fail] using
      get?_finish table named .failed (some reason) now id
  | cancel named =>
    simpa [answer, afterwards, refuses, JobRequest.jobId, JobRequest.effect, cancel] using
      get?_finish table named .cancelled none now id

/-- A job that is there stays, with or without the effect of the request. -/
theorem get?_answer_of_some {id : JobId} {job : Job} (known : table.get? id = some job) :
    (table.answer now request).2.get? id =
      some (if id = request.jobId ∧ table.refuses request = false then request.effect now job
        else job) := by
  rw [get?_answer]
  cases request with
  | create new start =>
    have hnew : ¬(id = new ∧ table.get? new = none) := by
      rintro ⟨rfl, hnone⟩
      rw [known] at hnone
      cases hnone
    simp only [afterwards, if_neg hnew, known, JobRequest.effect, ite_self]
  | _ =>
    simp only [afterwards, known]
    split <;> rfl

theorem get?_answer_of_none {id : JobId} (unknown : table.get? id = none) :
    (table.answer now request).2.get? id = none ∨
      ∃ start, request = .create id start ∧
        (table.answer now request).2.get? id = some (.started id start) := by
  rw [get?_answer]
  cases request with
  | create new start =>
    by_cases hid : id = new
    · subst hid
      exact .inr ⟨start, rfl, if_pos ⟨rfl, unknown⟩⟩
    · exact .inl ((if_neg fun h => hid h.1).trans unknown)
  | _ =>
    refine .inl ?_
    simp only [afterwards, unknown, Option.map_none, ite_self]

theorem get?_answer_of_ne {id : JobId} (other : id ≠ request.jobId) :
    (table.answer now request).2.get? id = table.get? id := by
  rw [get?_answer]
  cases request with
  | create new start => exact if_neg fun h => other h.1
  | _ => exact if_neg fun h => other h.1

/-- A request fails exactly when it is refused, and then it changes nothing. -/
theorem answer_error_iff :
    ((∃ f, (table.answer now request).1 = .error f) ↔ table.refuses request = true) ∧
      (table.refuses request = true → (table.answer now request).2 = table) := by
  cases request with
  | create id start =>
    have hid : (Job.started id start).id = id := rfl
    simp only [answer, create, refuses, hid]
    cases table.get? id with
    | none => simp [Except.map]
    | some job => simp [Except.map, Outcome.fail]
  | increment id processed failed =>
    simp only [answer, increment, incrementIn, refuses]
    cases table.progressAvailable with
    | false => simp [Except.map, Outcome.fail]
    | true =>
      cases table.get? id with
      | none => simp [Except.map, Outcome.fail]
      | some job => simp [Except.map]
  | _ => simp [answer, refuses]

theorem progressAvailable_answer :
    (table.answer now request).2.progressAvailable = table.progressAvailable := by
  cases request with
  | create id start =>
    simp only [answer, create]
    split <;> rfl
  | get id => rfl
  | increment id processed failed => exact progressAvailable_increment ..
  | _ => exact progressAvailable_changeIf ..

end JobTable

end CatalogIntake
