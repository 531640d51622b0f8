import CatalogIntake.Proofs.Pipeline.Log

namespace CatalogIntake

open ProducerRun

/-- Who answers the calls of a plan; an answer may depend on all calls before. -/
abbrev Respondent := List Answered → (c : Call) → c.Answer

namespace ProducerRun

def due (run : ProducerRun) : List Chunk :=
  if run.window.isEmpty then [] else [⟨run.jobId, run.chunkNumber.toInt, run.window⟩]

theorem due_records (run : ProducerRun) : run.due.flatMap (·.records) = run.window := by
  unfold due
  cases hwindow : run.window with
  | nil => rfl
  | cons first rest => simp

theorem eq_of_mem_due {run : ProducerRun} {chunk : Chunk} (h : chunk ∈ run.due) :
    chunk = ⟨run.jobId, run.chunkNumber.toInt, run.window⟩ ∧ run.window ≠ [] := by
  unfold due at h
  split at h
  · cases h
  · rename_i any
    exact ⟨List.mem_singleton.mp h, fun none => any (List.isEmpty_iff.mpr none)⟩

theorem length_due_le (run : ProducerRun) : run.due.length ≤ 1 := by
  unfold due
  split <;> simp

def emptied (run : ProducerRun) : ProducerRun :=
  { run with
    window := []
    pendingErrors := []
    chunkNumber := run.chunkNumber + .ofNat run.due.length }

end ProducerRun

namespace Respondent

def answer (reply : Respondent) (c : Call) (log : List Answered) : c.Answer × List Answered :=
  (reply log c, log ++ [⟨c, reply log c⟩])

structure Obliging (reply : Respondent) (id : JobId) : Prop where
  succeeds : ∀ log c, ∃ r, reply log c = .ok r
  processing : ∀ log, (∀ a ∈ log, a.isTotal = false) →
    ∃ job, reply log (.getJob id) = .ok (some job) ∧ job.status = .processing

/-- From this run and these calls the step comes to its end with that run and those calls. -/
def Runs {α : Type} (reply : Respondent) (step : Step α) (run : ProducerRun)
    (log : List Answered) (a : α) (run' : ProducerRun) (log' : List Answered) : Prop :=
  Plan.run reply.answer (step run) log = ((.ok a, run'), log')

variable {reply : Respondent} {α β : Type} {x : Step α} {f : α → Step β} {a : α} {b : β}
  {run run' run'' : ProducerRun} {log log' log'' : List Answered}

theorem Runs.bind (first : reply.Runs x run log a run' log')
    (second : reply.Runs (f a) run' log' b run'' log'') :
    reply.Runs (x >>= f) run log b run'' log'' := by
  unfold Runs at *
  rw [Producing.step_bind, Plan.run_bind, first]
  exact second

theorem Runs.lift {q : Plan α} (run : ProducerRun) (h : Plan.run reply.answer q log = (a, log')) :
    reply.Runs (fun s => do return (.ok (← q), s)) run log a run log' := by
  show Plan.run reply.answer (q.bind _) log = _
  rw [Plan.run_bind, h]
  rfl

theorem Runs.ask (c : Call) (run : ProducerRun) (log : List Answered) :
    reply.Runs (ProducerRun.ask c) run log (reply log c) run (log ++ [⟨c, reply log c⟩]) := rfl

theorem Runs.pure (a : α) (run : ProducerRun) (log : List Answered) :
    reply.Runs (Pure.pure a) run log a run log := rfl

theorem Runs.get (run : ProducerRun) (log : List Answered) :
    reply.Runs MonadState.get run log run run log := rfl

theorem Runs.set (run' run : ProducerRun) (log : List Answered) :
    reply.Runs (MonadStateOf.set run') run log PUnit.unit run' log := rfl

theorem Runs.modify (g : ProducerRun → ProducerRun) (run : ProducerRun) (log : List Answered) :
    reply.Runs (modifyThe ProducerRun g) run log PUnit.unit (g run) log := rfl

/-- What these calls have brought onto the bus and saved; what they have saved they have counted,
and they have written no total. -/
structure Leaves (calls : List Answered) (chunks : List Chunk) (errors : List ErrorCandidate) :
    Prop where
  published : chunksOf calls = chunks
  saved : errorsOf calls = errors
  counted : failedOf calls = errors.length
  untotalled : ∀ a ∈ calls, a.isTotal = false
  quiet : errors = [] → ∀ a ∈ calls, a.isBooking = false

namespace Leaves

variable {calls more : List Answered} {chunks chunks' : List Chunk}
  {errors errors' : List ErrorCandidate}

theorem nil : Leaves [] [] [] :=
  ⟨rfl, rfl, rfl, fun _ h => absurd h List.not_mem_nil, fun _ _ h => absurd h List.not_mem_nil⟩

theorem append (first : Leaves calls chunks errors) (second : Leaves more chunks' errors') :
    Leaves (calls ++ more) (chunks ++ chunks') (errors ++ errors') where
  published := by rw [chunksOf_append, first.published, second.published]
  saved := by rw [errorsOf_append, first.saved, second.saved]
  counted := by
    rw [failedOf_append, first.counted, second.counted, List.length_append]
    push_cast
    rfl
  untotalled := List.forall_mem_append.mpr ⟨first.untotalled, second.untotalled⟩
  quiet none := by
    obtain ⟨hfirst, hsecond⟩ := List.append_eq_nil_iff.mp none
    exact List.forall_mem_append.mpr ⟨first.quiet hfirst, second.quiet hsecond⟩

end Leaves

section Steps

variable {id : JobId} (obliging : reply.Obliging id)
include obliging

theorem runs_ask (c : Call) (run : ProducerRun) (log : List Answered) :
    ∃ r, reply.Runs (ProducerRun.ask c) run log (.ok r) run (log ++ [⟨c, .ok r⟩]) := by
  obtain ⟨r, hr⟩ := obliging.succeeds log c
  refine ⟨r, ?_⟩
  rw [← hr]
  exact Runs.ask c run log

theorem runs_ensureProcessing (named : run.jobId = id) (untotalled : ∀ a ∈ log, a.isTotal = false) :
    ∃ calls, reply.Runs ensureProcessing run log () run (log ++ calls) ∧ Leaves calls [] [] := by
  obtain ⟨job, hjob, hstatus⟩ := obliging.processing log untotalled
  have hask := @Runs.ask reply (.getJob id) run log
  rw [hjob] at hask
  refine ⟨[⟨.getJob id, .ok (some job)⟩], ?_, ?_⟩
  · unfold ensureProcessing
    apply (Runs.get run log).bind
    rw [named]
    apply hask.bind
    apply (Runs.pure (some job) run _).bind
    simp only [hstatus]
    exact Runs.pure _ _ _
  · refine ⟨rfl, rfl, rfl, ?_, ?_⟩ <;> simp [Answered.isTotal, Answered.isBooking]

theorem runs_flushRejections (run : ProducerRun) (log : List Answered) :
    ∃ calls, reply.Runs flushRejections run log () { run with pendingErrors := [] } (log ++ calls) ∧
      Leaves calls [] run.pendingErrors := by
  unfold flushRejections
  by_cases none : run.pendingErrors = []
  · refine ⟨[], (Runs.get run log).bind ?_, none ▸ .nil⟩
    obtain ⟨jobId, window, pendingErrors, rest⟩ := run
    cases none
    rw [List.append_nil]
    rfl
  · obtain ⟨_, hsave⟩ := runs_ask obliging (.saveErrors run.pendingErrors)
      { run with pendingErrors := [] } log
    obtain ⟨counters, hcount⟩ := runs_ask obliging
      (.increment run.jobId 0 run.pendingErrors.length) { run with pendingErrors := [] }
      (log ++ [⟨.saveErrors run.pendingErrors, .ok ()⟩])
    rw [List.append_assoc] at hcount
    refine ⟨[⟨.saveErrors run.pendingErrors, .ok ()⟩] ++ [⟨.increment run.jobId 0
      run.pendingErrors.length, .ok counters⟩], (Runs.get run log).bind ?_, ?_⟩
    · rw [if_neg (List.isEmpty_iff.not.mpr none)]
      apply (Runs.set _ _ _).bind
      apply hsave.bind
      apply hcount.bind
      exact (Runs.pure counters _ _).bind (Runs.pure () _ _)
    · refine ⟨rfl, ?_, ?_, ?_, fun h => absurd h none⟩
      · simp [errorsOf, Answered.saved, Call.saved]
      · simp [failedOf, Answered.failed, Call.failed]
      · simp [Answered.isTotal]

theorem runs_publishWithRetry (chunk : Chunk) (retries : Nat) (log : List Answered) :
    Plan.run reply.answer (publishWithRetry chunk 0 retries) log =
      (.ok (), log ++ [⟨.publish chunk, .ok ()⟩]) := by
  obtain ⟨_, hpublish⟩ := obliging.succeeds log (.publish chunk)
  cases retries <;>
  · unfold publishWithRetry
    rw [Plan.run_call]
    simp only [Respondent.answer, hpublish]
    rfl

theorem runs_publishWindow (settings : ImportSettings) (named : run.jobId = id)
    (untotalled : ∀ a ∈ log, a.isTotal = false) :
    ∃ calls, reply.Runs (publishWindow settings) run log () run.emptied (log ++ calls) ∧
      Leaves calls run.due run.pendingErrors := by
  unfold publishWindow
  cases hempty : run.window.isEmpty with
  | true =>
    obtain ⟨calls, hruns, hleaves⟩ := runs_flushRejections obliging run log
    have hemptied : { run with pendingErrors := [] } = run.emptied := by
      simp [emptied, due, List.isEmpty_iff.mp hempty]
    have hdue : run.due = [] := by
      simp [due, hempty]
    refine ⟨calls, (Runs.get run log).bind ?_, hdue ▸ hleaves⟩
    rw [hempty, ← hemptied]
    exact (Runs.pure _ _ _).bind hruns
  | false =>
    have hdue : run.due = [⟨run.jobId, run.chunkNumber.toInt, run.window⟩] := by
      simp [due, hempty]
    obtain ⟨first, hensure, hchecked⟩ := runs_ensureProcessing obliging named untotalled
    have hpublish := runs_publishWithRetry obliging ⟨run.jobId, run.chunkNumber.toInt, run.window⟩
      settings.publishRetries (log ++ first)
    obtain ⟨last, hflush, hflushed⟩ := runs_flushRejections obliging
      { run with window := [], chunkNumber := run.chunkNumber + 1 }
      (log ++ first ++ [⟨.publish ⟨run.jobId, run.chunkNumber.toInt, run.window⟩, .ok ()⟩])
    refine ⟨first ++ ([⟨.publish ⟨run.jobId, run.chunkNumber.toInt, run.window⟩, .ok ()⟩] ++ last),
      (Runs.get run log).bind ?_, ?_⟩
    · rw [hempty, ← List.append_assoc, ← List.append_assoc]
      have hemptied : { run with
          window := [], pendingErrors := [], chunkNumber := run.chunkNumber + 1 } =
          run.emptied := by
        rw [emptied, hdue]
        rfl
      rw [← hemptied]
      apply hensure.bind
      apply (Runs.set _ _ _).bind
      apply (Runs.lift _ hpublish).bind
      apply (Runs.pure () _ _).bind
      apply (Runs.modify _ _ _).bind
      exact hflush
    · rw [hdue]
      have hpublished : Leaves [⟨.publish ⟨run.jobId, run.chunkNumber.toInt, run.window⟩, .ok ()⟩]
          [⟨run.jobId, run.chunkNumber.toInt, run.window⟩] [] := by
        refine ⟨rfl, rfl, rfl, ?_, ?_⟩ <;> simp [Answered.isTotal, Answered.isBooking]
      exact hchecked.append (hpublished.append hflushed)

end Steps

end Respondent

end CatalogIntake
