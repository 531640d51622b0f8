import CatalogIntake.Proofs.Concurrency.Timeliness
import CatalogIntake.Proofs.Producer.Partition

/-!
A respondent of which nothing is known but how a run with it went. If every call of the run has
succeeded and the job was found in progress until its total was written, the run is that with an
obliging respondent, so that the producer has parted its source.
-/

namespace CatalogIntake

open ProducerRun

namespace Answered

/-- The call has succeeded; a look-up of the job before its total is written has found it in
progress. -/
def isGranted (id : JobId) (totalled : Bool) : Answered → Bool
  | ⟨.getJob other, .ok job⟩ => totalled || other ≠ id || job.any (·.status = .processing)
  | ⟨_, .ok _⟩ => true
  | ⟨_, .error _⟩ => false

/-- All of these calls, of which the first comes before or after the total is written. -/
def areGranted (id : JobId) (totalled : Bool) : List Answered → Bool
  | [] => true
  | a :: rest => a.isGranted id totalled && areGranted id (totalled || a.isTotal) rest

theorem exists_of_isGranted {id : JobId} {totalled : Bool} {a : Answered}
    (h : a.isGranted id totalled = true) : ∃ r, a.answer = .ok r := by
  obtain ⟨c, answer⟩ := a
  cases answer with
  | ok r => exact ⟨r, rfl⟩
  | error f => cases c <;> cases h

theorem areGranted_append (id : JobId) (totalled : Bool) (log more : List Answered) :
    areGranted id totalled (log ++ more) =
      (areGranted id totalled log && areGranted id (totalled || log.any isTotal) more) := by
  induction log generalizing totalled with
  | nil => simp [areGranted]
  | cons a rest ih => simp [areGranted, ih, Bool.and_assoc, Bool.or_assoc]

end Answered

def Call.granted : (c : Call) → c.Answer
  | .createJob _ => .ok ()
  | .getJob id => .ok (some (Job.started id ⟨0, 0⟩))
  | .finalizeTotal _ _ => .ok true
  | .increment _ processed failed => .ok ⟨none, processed, failed⟩
  | .completeIfDone _ => .ok true
  | .failJob _ _ => .ok true
  | .cancelJob _ => .ok true
  | .saveErrors _ => .ok ()
  | .listErrors _ _ _ => .ok []
  | .countErrors _ => .ok 0
  | .insertBatch _ => .ok ()
  | .insertOne _ => .ok ()
  | .publish _ => .ok ()
  | .pause => .ok ()

namespace Respondent

variable {reply : Respondent} {id : JobId} {α : Type}

def mended (reply : Respondent) (id : JobId) : Respondent := fun log c =>
  if Answered.isGranted id (log.any Answered.isTotal) ⟨c, reply log c⟩ then reply log c
  else c.granted

theorem mended_of_isGranted {log : List Answered} {c : Call}
    (h : Answered.isGranted id (log.any Answered.isTotal) ⟨c, reply log c⟩ = true) :
    reply.mended id log c = reply log c := if_pos h

theorem mended_obliging (reply : Respondent) (id : JobId) : (reply.mended id).Obliging id where
  succeeds log c := by
    unfold mended
    split
    · exact Answered.exists_of_isGranted ‹_›
    · cases c <;> exact ⟨_, rfl⟩
  processing log untotalled := by
    have hany : log.any Answered.isTotal = false := by simpa using untotalled
    unfold mended
    split
    · rename_i h
      rw [hany] at h
      cases hreply : reply log (.getJob id) with
      | error f =>
        rw [hreply] at h
        cases h
      | ok job =>
        rw [hreply] at h
        obtain ⟨job, rfl, hstatus⟩ : ∃ found, job = some found ∧ found.status = .processing := by
          simpa [Answered.isGranted, Option.any_eq_true] using h
        exact ⟨job, rfl, hstatus⟩
    · exact ⟨_, rfl, rfl⟩

theorem run_appends (reply : Respondent) (p : Plan α) (log : List Answered) :
    log <+: (Plan.run reply.answer p log).2 := by
  induction p generalizing log with
  | done a => exact List.prefix_refl _
  | call c next ih => exact (List.prefix_append _ _).trans (ih _ _)

/-- A run in which everything was granted could not be told from one with the mended respondent. -/
theorem run_mended (p : Plan α) (log : List Answered)
    (granted : Answered.areGranted id false (Plan.run reply.answer p log).2 = true) :
    Plan.run (reply.mended id).answer p log = Plan.run reply.answer p log := by
  -- the log of a whole run begins with the first call, so that one was granted too
  induction p generalizing log with
  | done a => rfl
  | call c next ih =>
    rw [Plan.run_call] at granted
    obtain ⟨more, hmore⟩ := run_appends reply (next (reply.answer c log).1) (reply.answer c log).2
    have hfirst : Answered.isGranted id (log.any Answered.isTotal) ⟨c, reply log c⟩ = true := by
      rw [← hmore] at granted
      simp only [Respondent.answer, Answered.areGranted_append, Answered.areGranted,
        Bool.and_eq_true, Bool.false_or] at granted
      exact granted.1.2.1
    have hanswer : (reply.mended id).answer c log = reply.answer c log := by
      unfold Respondent.answer
      rw [mended_of_isGranted hfirst]
    rw [Plan.run_call, hanswer]
    exact ih _ _ granted

theorem produce_eq_bind (settings : ImportSettings) (id : JobId) (source : List RowEvent)
    (k : Nat) : ∃ next, produce settings id source =
      (stream settings (source.take k) (start id)).bind next := by
  have hstream : stream settings source =
      (do stream settings (source.take k); stream settings (source.drop k)) := by
    rw [← stream_append, List.take_append_drop]
  unfold produce
  show ∃ next, Plan.bind ((do stream settings source; finish settings : Step Unit) (start id)) _ = _
  rw [hstream, bind_assoc, Producing.step_bind, Plan.bind_assoc]
  exact ⟨_, rfl⟩

end Respondent

/-- When every call of a producer succeeds and it finds its job in progress, it parts its source
exactly, and never holds as much as a chunk in a buffer between two rows. -/
theorem produce_partitions {reply : Respondent} {id : JobId} {settings : ImportSettings}
    {source : List RowEvent}
    (granted : Answered.areGranted id false
      (Plan.run reply.answer (produce settings id source) []).2 = true)
    (any : source ≠ []) (genuine : ∀ event ∈ source, event.isFault = false)
    (positive : 1 ≤ settings.chunkSize) :
    let ran := Plan.run reply.answer (produce settings id source) []
    Partitioned reply settings id source ran.1 ran.2 := by
  have hmended := partitioned_of_obliging (reply.mended_obliging id) any genuine positive
  rw [Respondent.run_mended _ _ granted] at hmended
  refine { hmended with bounded := ?_ }
  intro k hk
  obtain ⟨run, calls, hruns, hprefix, hread, hsmall⟩ := hmended.bounded k hk
  refine ⟨run, calls, ?_, hprefix, hread, hsmall⟩
  obtain ⟨next, hnext⟩ := Respondent.produce_eq_bind settings id source k
  have hpart : Answered.areGranted id false (Plan.run reply.answer
      (stream settings (source.take k) (start id)) []).2 = true := by
    rw [hnext, Plan.run_bind] at granted
    obtain ⟨rest, hrest⟩ := Respondent.run_appends reply
      (next (Plan.run reply.answer (stream settings (source.take k) (start id)) []).1)
      (Plan.run reply.answer (stream settings (source.take k) (start id)) []).2
    rw [← hrest, Answered.areGranted_append, Bool.and_eq_true] at granted
    exact granted.1
  exact (Respondent.run_mended _ _ hpart).symm.trans hruns

section Mugs

open Concurrency

/-- The stores in memory, and a bus that takes every chunk. -/
def Concurrency.World.serve : (c : Call) → World → c.Answer × World
  | .publish _, w => (.ok (), w)
  | c, w => w.answer c

def Respondent.ofWorld (w : World) : Respondent := fun log c =>
  (World.serve c (log.foldl (fun w a => (World.serve a.call w).2) w)).1

/-- Two mugs for one chunk and a mug for the next, with rejected rows before, between and behind. -/
def mugsSource : List RowEvent :=
  [.rejected 1 "too few fields" none, .parsed System.mug, .rejected 3 "too few fields" none,
    .parsed System.mug, .parsed System.mug, .rejected 6 "too few fields" none]

def mugsRespondent : Respondent :=
  .ofWorld (.opening ⟨0, 0⟩ (JobTable.empty.create (Job.started ⟨7⟩ ⟨0, 0⟩)).2 .empty .empty 1)

theorem mugs_partitioned :
    Answered.areGranted ⟨7⟩ false (Plan.run mugsRespondent.answer
      (produce { chunkSize := 2 } ⟨7⟩ mugsSource) []).2 = true ∧
    mugsSource ≠ [] ∧ (∀ event ∈ mugsSource, event.isFault = false) ∧
    let ran := Plan.run mugsRespondent.answer (produce { chunkSize := 2 } ⟨7⟩ mugsSource) []
    Partitioned mugsRespondent { chunkSize := 2 } ⟨7⟩ mugsSource ran.1 ran.2 := by
  have granted : Answered.areGranted ⟨7⟩ false (Plan.run mugsRespondent.answer
      (produce { chunkSize := 2 } ⟨7⟩ mugsSource) []).2 = true := by
    decide +kernel
  have any : mugsSource ≠ [] := List.cons_ne_nil _ _
  have genuine : ∀ event ∈ mugsSource, event.isFault = false := by
    decide
  exact ⟨granted, any, genuine, produce_partitions granted any genuine (by decide)⟩

end Mugs

end CatalogIntake
