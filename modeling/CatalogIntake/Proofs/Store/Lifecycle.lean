import CatalogIntake.Proofs.Store.Requests
import Mathlib.Algebra.GroupWithZero.Nat

/-!
The life of a job in memory, whatever is asked of the store and whenever its counters cannot be
updated. A job ends once and stays as it ended, its total is written once, and its counters are the
sums of what has been added to them.
-/

namespace CatalogIntake

namespace Job

structure IsLawful (job : Job) : Prop where
  ended : job.endTime.isSome = true ↔ job.isTerminal = true
  explained : job.failureReason.isSome = true ↔ job.status = .failed
  bounded : ∀ reason, job.failureReason = some reason → reason.length ≤ 1000
  earned : job.IsEarned

structure Precedes (job later : Job) : Prop where
  final : job.isTerminal = true → later.status = job.status ∧ later.endTime = job.endTime ∧
    later.failureReason = job.failureReason
  total : ∀ total, job.totalRows = some total → later.totalRows = some total

variable {job later last : Job}

theorem Precedes.refl (job : Job) : job.Precedes job :=
  ⟨fun _ => ⟨rfl, rfl, rfl⟩, fun _ h => h⟩

theorem Precedes.trans (h : job.Precedes later) (h' : later.Precedes last) :
    job.Precedes last where
  final := by
    intro hterminal
    obtain ⟨hstatus, hend, hreason⟩ := h.final hterminal
    have hlater : later.isTerminal = true := by
      rw [isTerminal, hstatus]
      exact hterminal
    obtain ⟨hstatus', hend', hreason'⟩ := h'.final hlater
    exact ⟨hstatus'.trans hstatus, hend'.trans hend, hreason'.trans hreason⟩
  total := fun total htotal => h'.total total (h.total total htotal)

theorem length_boundedErrorMessage (s : String) : (Text.boundedErrorMessage s).length ≤ 1000 := by
  rw [← String.length_toList, Text.boundedErrorMessage, Text.toList_truncate]
  exact List.length_take_le _ _

theorem isLawful_started (id : JobId) (start : Instant) : (started id start).IsLawful := by
  constructor <;> simp [started, isTerminal, JobStatus.isTerminal, IsEarned]

theorem IsLawful.totalled (h : job.IsLawful) (total : Int) : (job.totalled total).IsLawful := by
  unfold Job.totalled
  split
  · rename_i hnone
    refine ⟨h.ended, h.explained, h.bounded, ?_⟩
    intro hstatus
    obtain ⟨known, hknown, -⟩ := h.earned hstatus
    rw [hknown] at hnone
    cases hnone
  · exact h

theorem IsLawful.counted (h : job.IsLawful) (processed failed : Nat) :
    (job.counted processed failed).IsLawful := by
  refine ⟨h.ended, h.explained, h.bounded, ?_⟩
  intro hstatus
  obtain ⟨total, htotal, hpos, hle⟩ := h.earned hstatus
  refine ⟨total, htotal, hpos, ?_⟩
  simp only [rowsAccounted, Job.counted] at hle ⊢
  omega

theorem IsLawful.checked (h : job.IsLawful) (now : Instant) : (job.checked now).IsLawful := by
  unfold Job.checked
  split
  · rename_i hready
    obtain ⟨hstatus, htotal⟩ := job.isReadyToComplete_iff.mp hready
    have hreason : job.failureReason = none := by
      apply Option.not_isSome_iff_eq_none.mp
      intro hsome
      rw [h.explained.mp hsome] at hstatus
      cases hstatus
    exact ⟨by simp [isTerminal, JobStatus.isTerminal], by simp [hreason], h.bounded,
      fun _ => htotal⟩
  · exact h

theorem IsLawful.finished (h : job.IsLawful) {status : JobStatus} {reason : Option String}
    (now : Instant) (terminal : status.isTerminal = true) (other : status ≠ .completed)
    (explained : reason.isSome = true ↔ status = .failed) :
    (job.finished status reason now).IsLawful := by
  have hearned := h.earned.finished reason now other
  unfold Job.finished at hearned ⊢
  split at hearned
  · rename_i hprocessing
    rw [if_pos hprocessing]
    refine ⟨by simp [isTerminal, terminal], by simpa using explained, ?_, hearned⟩
    intro text htext
    obtain ⟨given, -, rfl⟩ := Option.map_eq_some_iff.mp htext
    exact length_boundedErrorMessage given
  · rename_i hprocessing
    rw [if_neg hprocessing]
    exact h

theorem precedes_totalled (job : Job) (total : Int) : job.Precedes (job.totalled total) := by
  unfold totalled
  split
  · rename_i hnone
    refine ⟨fun _ => ⟨rfl, rfl, rfl⟩, ?_⟩
    intro known hknown
    rw [hknown] at hnone
    cases hnone
  · exact .refl job

theorem not_isTerminal_of_processing (h : job.status = .processing) : job.isTerminal = false := by
  rw [isTerminal, h]
  rfl

theorem precedes_checked (job : Job) (now : Instant) : job.Precedes (job.checked now) := by
  unfold checked
  split
  · rename_i hready
    have hopen := not_isTerminal_of_processing (job.isReadyToComplete_iff.mp hready).1
    refine ⟨?_, fun _ h => h⟩
    intro hterminal
    rw [hopen] at hterminal
    cases hterminal
  · exact .refl job

theorem precedes_finished (job : Job) (status : JobStatus) (reason : Option String)
    (now : Instant) : job.Precedes (job.finished status reason now) := by
  unfold finished
  split
  · rename_i hprocessing
    have hopen := not_isTerminal_of_processing hprocessing
    refine ⟨?_, fun _ h => h⟩
    intro hterminal
    rw [hopen] at hterminal
    cases hterminal
  · exact .refl job

end Job

/-- What can become of a job in one go, when so much is added to its counters. -/
structure Job.Succeeds (job later : Job) (added : List (Nat × Nat)) : Prop where
  lawful : job.IsLawful → later.IsLawful
  precedes : job.Precedes later
  processed : later.processedRows = job.processedRows + ((added.map (·.1)).sum : Nat)
  failed : later.failedRows = job.failedRows + ((added.map (·.2)).sum : Nat)

theorem Job.Succeeds.refl (job : Job) : job.Succeeds job [] where
  lawful := fun h => h
  precedes := .refl job
  processed := by simp
  failed := by simp

namespace JobRequest

variable {job : Job}

def amounts : JobRequest → List (Nat × Nat)
  | increment _ processed failed => [(processed, failed)]
  | _ => []

theorem isLawful_effect (h : job.IsLawful) (now : Instant) (request : JobRequest) :
    (request.effect now job).IsLawful := by
  cases request with
  | finalizeTotal id total => exact h.totalled total
  | increment id processed failed => exact h.counted processed failed
  | completeIfDone id => exact h.checked now
  | fail id reason => exact h.finished now rfl (by decide) (by simp)
  | cancel id => exact h.finished now rfl (by decide) (by simp)
  | create id start => exact h
  | get id => exact h

theorem precedes_effect (job : Job) (now : Instant) (request : JobRequest) :
    job.Precedes (request.effect now job) := by
  cases request with
  | finalizeTotal id total => exact job.precedes_totalled total
  | increment id processed failed => exact ⟨fun _ => ⟨rfl, rfl, rfl⟩, fun _ h => h⟩
  | completeIfDone id => exact job.precedes_checked now
  | fail id reason => exact job.precedes_finished .failed (some reason) now
  | cancel id => exact job.precedes_finished .cancelled none now
  | create id start => exact .refl job
  | get id => exact .refl job

theorem succeeds_effect (job : Job) (now : Instant) (request : JobRequest) :
    job.Succeeds (request.effect now job) request.amounts where
  lawful := fun h => isLawful_effect h now request
  precedes := precedes_effect job now request
  processed := by
    cases request <;> simp [effect, amounts, Job.counted]
  failed := by
    cases request <;> simp [effect, amounts, Job.counted]

end JobRequest

/-- What can happen to the jobs: a request, or their counters cannot be updated from now on, or can
be again. -/
inductive Happening
  | request (now : Instant) (asked : JobRequest)
  | supply (available : Bool)
  deriving DecidableEq, Repr

def Happening.jobId? : Happening → Option JobId
  | request _ asked => some asked.jobId
  | supply _ => none

namespace JobTable

def after (table : JobTable) : Happening → JobTable
  | .request now request => (table.answer now request).2
  | .supply available => { table with progressAvailable := available }

def run (table : JobTable) (history : List Happening) : JobTable := history.foldl after table

def addition (table : JobTable) (id : JobId) : Happening → List (Nat × Nat)
  | .request now request =>
    match (table.answer now request).1 with
    | .ok _ => if id = request.jobId then request.amounts else []
    | .error _ => []
  | .supply _ => []

def additions (id : JobId) : JobTable → List Happening → List (Nat × Nat)
  | _, [] => []
  | table, happening :: rest =>
    table.addition id happening ++ additions id (table.after happening) rest

structure Honest (table : JobTable) (request : JobRequest) (reply : Outcome JobReply)
    (next : JobTable) : Prop where
  conditional : request.isConditional = true → ∃ whether, reply = .ok (.applied whether) ∧
    (whether = true ↔ next.get? request.jobId ≠ table.get? request.jobId)
  unknown : request.isConditional = true → table.get? request.jobId = none →
    reply = .ok (.applied false)
  failed : ∀ f, reply = .error f → next = table

structure Books (table : JobTable) (id : JobId) (added : List (Nat × Nat)) : Prop where
  blank : table.get? id = none → added = []
  lawful : ∀ job, table.get? id = some job → job.IsLawful
  processed : ∀ job, table.get? id = some job →
    job.processedRows = ((added.map (·.1)).sum : Nat)
  failed : ∀ job, table.get? id = some job → job.failedRows = ((added.map (·.2)).sum : Nat)

variable {table : JobTable} {id : JobId} {added : List (Nat × Nat)}

theorem Books.of_none (unknown : table.get? id = none) : Books table id [] where
  blank := fun _ => rfl
  lawful := fun job h => by simp [unknown] at h
  processed := fun job h => by simp [unknown] at h
  failed := fun job h => by simp [unknown] at h

theorem fst_changeIf (table : JobTable) (id : JobId) {change : Job → Option Job}
    (changes : ∀ job changed, change job = some changed → changed.id = job.id ∧ changed ≠ job) :
    ((table.changeIf id change).1 = true ↔
      (table.changeIf id change).2.get? id ≠ table.get? id) ∧
      (table.get? id = none → (table.changeIf id change).1 = false) := by
  unfold changeIf
  cases hget : table.get? id with
  | none => simp [hget]
  | some job =>
    cases hchange : change job with
    | none => simp [hget, hchange]
    | some changed =>
      obtain ⟨hid, hne⟩ := changes job changed hchange
      have hnamed : changed.id = id := hid.trans (id_of_get? hget)
      simp [hget, hchange, get?_set, hnamed, hne]

theorem honest_changeIf (table : JobTable) (request : JobRequest) {change : Job → Option Job}
    (changes : ∀ job changed, change job = some changed → changed.id = job.id ∧ changed ≠ job) :
    Honest table request (.ok (.applied (table.changeIf request.jobId change).1))
      (table.changeIf request.jobId change).2 where
  conditional := fun _ => ⟨_, rfl, (fst_changeIf table request.jobId changes).1⟩
  unknown := by
    intro _ hnone
    rw [(fst_changeIf table request.jobId changes).2 hnone]
  failed := fun f h => by cases h

theorem honest_finish (table : JobTable) (request : JobRequest) {status : JobStatus}
    (other : status ≠ .processing) (reason : Option String) (now : Instant) :
    Honest table request (.ok (.applied (table.finish request.jobId status reason now).1))
      (table.finish request.jobId status reason now).2 := by
  apply honest_changeIf
  intro job changed h
  split at h
  · rename_i hprocessing
    obtain rfl := Option.some.inj h
    refine ⟨rfl, fun heq => ?_⟩
    rw [← heq] at hprocessing
    exact other hprocessing
  · cases h

theorem honest_answer (table : JobTable) (now : Instant) (request : JobRequest) :
    Honest table request (table.answer now request).1 (table.answer now request).2 := by
  have unconditional (h : request.isConditional = false) :
      Honest table request (table.answer now request).1 (table.answer now request).2 := by
    refine ⟨by simp [h], by simp [h], ?_⟩
    intro f hf
    obtain ⟨hrefuses, hsame⟩ := table.answer_error_iff now request
    exact hsame (hrefuses.mp ⟨f, hf⟩)
  cases request with
  | create new start => exact unconditional rfl
  | get named => exact unconditional rfl
  | increment named processed failed => exact unconditional rfl
  | finalizeTotal named total =>
    apply honest_changeIf table (.finalizeTotal named total)
    intro job changed h
    split at h
    · rename_i hnone
      obtain rfl := Option.some.inj h
      refine ⟨rfl, fun heq => ?_⟩
      rw [← heq] at hnone
      cases hnone
    · cases h
  | completeIfDone named =>
    apply honest_changeIf table (.completeIfDone named)
    intro job changed h
    split at h
    · rename_i hready
      have hprocessing := (job.isReadyToComplete_iff.mp hready).1
      obtain rfl := Option.some.inj h
      refine ⟨rfl, fun heq => ?_⟩
      rw [← heq] at hprocessing
      cases hprocessing
    · cases h
  | fail named reason =>
    exact honest_finish table (.fail named reason) (by decide) (some reason) now
  | cancel named => exact honest_finish table (.cancel named) (by decide) none now

theorem get?_after_of_ne (table : JobTable) {happening : Happening} {id : JobId}
    (other : happening.jobId? ≠ some id) : (table.after happening).get? id = table.get? id := by
  cases happening with
  | request now request =>
    apply get?_answer_of_ne
    intro h
    exact other (congrArg some h.symm)
  | supply available => rfl

theorem addition_request (table : JobTable) (id : JobId) (now : Instant) (request : JobRequest) :
    table.addition id (.request now request) =
      if id = request.jobId ∧ table.refuses request = false then request.amounts else [] := by
  have hrefuses := (table.answer_error_iff now request).1
  simp only [addition]
  cases hanswer : (table.answer now request).1 with
  | ok reply =>
    rw [hanswer] at hrefuses
    have haccepted : table.refuses request = false := by
      simpa using hrefuses
    simp only [haccepted, and_true]
  | error f =>
    have hrefused := hrefuses.mp ⟨f, hanswer⟩
    exact (if_neg (by simp [hrefused])).symm

theorem addition_of_none (happening : Happening) (unknown : table.get? id = none) :
    table.addition id happening = [] := by
  rcases happening with ⟨now, request⟩ | available
  · rw [addition_request]
    cases request with
    | increment named processed failed =>
      apply if_neg
      rintro ⟨rfl, hrefuses⟩
      simp [refuses, unknown] at hrefuses
    | _ => exact ite_self _
  · rfl

theorem succeeds_after {job : Job} (known : table.get? id = some job) (happening : Happening) :
    ∃ later, (table.after happening).get? id = some later ∧
      job.Succeeds later (table.addition id happening) := by
  rcases happening with ⟨now, request⟩ | available
  · refine ⟨_, table.get?_answer_of_some now request known, ?_⟩
    rw [addition_request]
    by_cases heffect : id = request.jobId ∧ table.refuses request = false
    · rw [if_pos heffect, if_pos heffect]
      exact request.succeeds_effect job now
    · rw [if_neg heffect, if_neg heffect]
      exact .refl job
  · exact ⟨job, known, .refl job⟩

/-- What is added is what a job gains, and a job that is not there gains nothing. -/
theorem Books.after (h : Books table id added) (happening : Happening) :
    Books (table.after happening) id (added ++ table.addition id happening) := by
  cases hjob : table.get? id with
  | some job =>
    obtain ⟨later, hlater, hsucceeds⟩ := succeeds_after hjob happening
    refine ⟨?_, ?_, ?_, ?_⟩
    · intro hnone
      rw [hlater] at hnone
      cases hnone
    all_goals
      intro job' hjob'
      obtain rfl := Option.some.inj (hlater.symm.trans hjob')
    · exact hsucceeds.lawful (h.lawful job hjob)
    · rw [hsucceeds.processed, h.processed job hjob, List.map_append, List.sum_append,
        Int.natCast_add]
    · rw [hsucceeds.failed, h.failed job hjob, List.map_append, List.sum_append, Int.natCast_add]
  | none =>
    rw [h.blank hjob, addition_of_none happening hjob, List.append_nil]
    rcases happening with ⟨now, request⟩ | available
    · rcases table.get?_answer_of_none now request hjob with hnone | ⟨start, rfl, hstarted⟩
      · exact .of_none hnone
      · refine ⟨fun _ => rfl, ?_, ?_, ?_⟩
        all_goals
          intro job' hjob'
          obtain rfl := Option.some.inj (hstarted.symm.trans hjob')
        · exact Job.isLawful_started id start
        · rfl
        · rfl
    · exact .of_none hjob

theorem Books.run {table : JobTable} {added : List (Nat × Nat)} (h : Books table id added)
    (history : List Happening) :
    Books (table.run history) id (added ++ additions id table history) := by
  induction history generalizing table added with
  | nil => simpa [additions, JobTable.run] using h
  | cons happening rest ih =>
    have hrest := ih (h.after happening)
    rwa [List.append_assoc] at hrest

theorem precedes_run {table : JobTable} {job : Job} (known : table.get? id = some job)
    (history : List Happening) :
    ∃ later, (table.run history).get? id = some later ∧ job.Precedes later := by
  induction history generalizing table job with
  | nil => exact ⟨job, known, .refl job⟩
  | cons happening rest ih =>
    obtain ⟨next, hnext, hsucceeds⟩ := succeeds_after known happening
    obtain ⟨later, hlater, hprecedes⟩ := ih hnext
    exact ⟨later, hlater, hsucceeds.precedes.trans hprecedes⟩

theorem run_append (table : JobTable) (history later : List Happening) :
    table.run (history ++ later) = (table.run history).run later :=
  List.foldl_append

/-- At every moment each job is as its state says, has been counted to the sum of what was added to
it, and keeps for all time its total and, once it has ended, its end. A happening changes only the
job that it names, and whoever asks is told the truth about it. -/
theorem lifecycle (history : List Happening) :
    (∀ id job, (empty.run history).get? id = some job →
      job.IsLawful ∧
      job.processedRows = (((additions id empty history).map (·.1)).sum : Nat) ∧
      job.failedRows = (((additions id empty history).map (·.2)).sum : Nat) ∧
      ∀ further, ∃ later, (empty.run (history ++ further)).get? id = some later ∧
        job.Precedes later) ∧
    (∀ happening id, happening.jobId? ≠ some id →
      ((empty.run history).after happening).get? id = (empty.run history).get? id) ∧
    ∀ now request, Honest (empty.run history) request ((empty.run history).answer now request).1
      ((empty.run history).answer now request).2 := by
  refine ⟨?_, fun _ _ => get?_after_of_ne _, fun now request => honest_answer _ now request⟩
  intro id job hjob
  have hblank : Books empty id [] := .of_none rfl
  have hbooks := hblank.run history
  rw [List.nil_append] at hbooks
  refine ⟨hbooks.lawful job hjob, hbooks.processed job hjob, hbooks.failed job hjob, ?_⟩
  intro further
  rw [run_append]
  exact precedes_run hjob further

/-- A job is completed, and then more rows are reported: first in vain, then one that counts. -/
def reportedLate : List Happening :=
  [.request ⟨0, 0⟩ (.create ⟨0⟩ ⟨0, 0⟩), .request ⟨1, 0⟩ (.increment ⟨0⟩ 1 1),
    .request ⟨2, 0⟩ (.finalizeTotal ⟨0⟩ 2), .request ⟨3, 0⟩ (.completeIfDone ⟨0⟩),
    .supply false, .request ⟨4, 0⟩ (.increment ⟨0⟩ 5 0), .supply true,
    .request ⟨5, 0⟩ (.increment ⟨0⟩ 1 0)]

theorem reportedLate_lifecycle :
    ∃ job, (empty.run reportedLate).get? ⟨0⟩ = some job ∧ job.processedRows = 2 ∧
      ∀ further, ∃ later, (empty.run (reportedLate ++ further)).get? ⟨0⟩ = some later ∧
        later.status = .completed ∧ later.totalRows = some 2 ∧ later.endTime = some ⟨3, 0⟩ := by
  obtain ⟨hjobs, -, -⟩ := lifecycle reportedLate
  obtain ⟨-, hprocessed, -, hlater⟩ := hjobs ⟨0⟩ _ rfl
  refine ⟨_, rfl, hprocessed, ?_⟩
  intro further
  obtain ⟨later, hget, hprecedes⟩ := hlater further
  obtain ⟨hstatus, hend, -⟩ := hprecedes.final rfl
  exact ⟨later, hget, hstatus, hprecedes.total 2 rfl, hend⟩

end JobTable

end CatalogIntake
