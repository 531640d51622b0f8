import CatalogIntake.Proofs.Concurrency.Service
import CatalogIntake.Proofs.Store.Lifecycle
import CatalogIntake.Proofs.Text.Bounded

/-!
A job that has been cancelled while the stores answer. Its producer comes to one more chunk at most,
wherever it was; a worker that loads the job from then on stores nothing, and logs and counts every
row of its chunk as failed; the job stays as it ended, and its counters miss nothing.
-/

namespace CatalogIntake

namespace Job

theorem precedes_after (now : Instant) (c : Call) (answer : c.Answer) (job : Job) :
    job.Precedes (after now c answer job) := by
  cases c with
  | finalizeTotal id total => exact job.precedes_totalled total
  | increment id processed failed =>
    cases answer with
    | error f => exact .refl job
    | ok counters => exact ⟨fun _ => ⟨rfl, rfl, rfl⟩, fun _ h => h⟩
  | completeIfDone id => exact job.precedes_checked now
  | failJob id reason => exact job.precedes_finished .failed (some reason) now
  | cancelJob id => exact job.precedes_finished .cancelled none now
  | _ => exact .refl job

end Job

def Chunk.withdrawn (c : Chunk) : List ErrorCandidate :=
  c.records.map fun record =>
    ⟨c.jobId, record.rowNumber, inactiveMessage .cancelled, some (Text.boundedRowData record.wire)⟩

theorem Stage.inactive_cancelled (chunk : Chunk) :
    inactive .cancelled chunk = ⟨0, chunk.withdrawn, false⟩ := by
  have whole : Text.boundedErrorMessage (inactiveMessage .cancelled) = inactiveMessage .cancelled :=
    Text.truncate_of_le (by decide)
  unfold inactive Chunk.withdrawn ErrorCandidate.ofRecord ErrorCandidate.bounded
  rw [whole]
  rfl

namespace JobTable

theorem get?_of_cancel {table : JobTable} {id : JobId} {now : Instant}
    (h : (table.cancel id now).1 = true) :
    ∃ job, (table.cancel id now).2.get? id = some job ∧ job.status = .cancelled ∧
      job.endTime = some now := by
  rw [cancel, fst_finish, Option.any_eq_true] at h
  obtain ⟨job, hget, hprocessing⟩ := h
  refine ⟨job.finished .cancelled none now, ?_, ?_⟩
  · rw [cancel, get?_finish, if_pos rfl, hget]
    rfl
  · unfold Job.finished
    rw [if_pos (of_decide_eq_true hprocessing)]
    exact ⟨rfl, rfl⟩

end JobTable

namespace Concurrency

namespace System

variable {a : Action} {s s' t : System} {i j : Nat} {p p' : Producer} {job : Job} {d : Delivery}
  {stage : Stage} {id : JobId} {now : Instant}

theorem Step.precedes (step : Step s a s') (known : s.world.jobs.get? id = some job) :
    ∃ job', s'.world.jobs.get? id = some job' ∧ job.Precedes job' := by
  have revision := step.revision id
  generalize s'.world.jobs.get? id = found at revision ⊢
  cases revision with
  | rested => exact ⟨job, known, .refl job⟩
  | started fresh =>
    rw [known] at fresh
    cases fresh
  | @asked _ _ c answer _ _ _ _ | @handled _ _ _ c answer _ _ =>
    rw [known]
    exact ⟨_, rfl, job.precedes_after s.world.now c answer⟩
  | cancelled =>
    rw [known]
    exact ⟨_, rfl, job.precedes_finished .cancelled none s.world.now⟩

/-- The stores have answered all the time, and the job was cancelled at this moment. -/
structure Withdrawn (id : JobId) (ended : Instant) (s : System) : Prop where
  sound : s.Sound
  served : s.Served
  job : ∃ job, s.world.jobs.get? id = some job ∧ job.status = .cancelled ∧
    job.endTime = some ended

theorem Withdrawn.step {ended : Instant} (h : s.Withdrawn id ended) (on : a.isOutage = false)
    (step : Step s a s') : s'.Withdrawn id ended where
  sound := h.sound.step step
  served := h.served.step h.sound on step
  job := by
    obtain ⟨job, known, hstatus, hend⟩ := h.job
    obtain ⟨job', known', precedes⟩ := step.precedes known
    have hterminal : job.isTerminal = true := by
      rw [Job.isTerminal, hstatus]
      rfl
    obtain ⟨hsame, hsameEnd, -⟩ := precedes.final hterminal
    exact ⟨job', known', hsame.trans hstatus, hsameEnd.trans hend⟩

def Patient (s : System) : Prop :=
  ∀ p ∈ s.producers, p.waiting = true → p.state.point.chunk? = none

theorem Patient.setProducer (h : s.Patient) {t : System} (producers : t.producers = s.producers)
    (own : p.waiting = true → p.state.point.chunk? = none) : (t.setProducer i p).Patient := by
  intro q hq
  rcases List.mem_or_eq_of_mem_set hq with hq | rfl
  · exact h q (producers ▸ hq)
  · exact own

theorem Patient.step (h : s.Patient) (step : Step s a s') : s'.Patient := by
  have idle {q : Producer} {state : Producing} (ready : q.waiting = false) :
      (q.goTo state).waiting = true → state.point.chunk? = none := by
    intro hwaiting
    rw [show (q.goTo state).waiting = q.waiting from rfl, ready] at hwaiting
    cases hwaiting
  cases step with
  | @read i p at_ =>
    have hp := h p (List.mem_of_getElem? at_)
    exact h.setProducer rfl hp
  | go _ ready _ => exact h.setProducer rfl (idle ready)
  | refused _ ready _ _ => exact h.setProducer rfl (idle ready)
  | @published i p q chunk state _ bus _ _ _ _ asks moved =>
    refine h.setProducer rfl fun _ => ?_
    rw [moved]
    cases asks
    rfl
  | asked _ ready _ _ _ => exact h.setProducer rfl (idle ready)
  | @received j w d admitted bus _ _ _ =>
    show Patient ((s.setBus bus).letIn admitted)
    unfold letIn
    split
    · exact h
    · split
      · exact h.setProducer rfl fun hwaiting => by cases hwaiting
      · exact h
  | @started settings jobId source _ =>
    intro q hq
    rcases List.mem_append.mp hq with hq | hq
    · exact h q hq
    · rw [List.mem_singleton.mp hq]
      exact fun hwaiting => by cases hwaiting
  | _ => exact h

theorem patient_opening (world : World) (workers : Nat) : (opening world workers).Patient := by
  intro p hp
  cases hp

/-- With its job no longer in progress, a producer publishes at most the chunk that it has in
hand. -/
theorem Turn.offers {b' : Book} (turn : Turn s a s' p p' (s.book p.jobId) b')
    (known : s.world.jobs.get? p.jobId = some job) (stopped : job.status ≠ .processing) :
    b'.published.length + p'.state.point.chunk?.toList.length ≤
      (s.book p.jobId).published.length + p.state.point.chunk?.toList.length := by
  cases turn with
  | rested state =>
    rw [state]
  | went goes =>
    rw [goes.chunk]
    exact Nat.le_add_right _ _
  | @asked c answer asks replies _ =>
    simp only [Book.asked, List.length_append]
    generalize p'.state = next at asks
    cases asks with
    | processing _ _ status =>
      have hfound := replies fun _ h => by cases h
      rw [World.answer_getJob, show p.state.run.jobId = p.jobId from rfl, known] at hfound
      obtain rfl := Option.some.inj (Except.ok.inj hfound)
      exact absurd status stopped
    | published at_ =>
      rw [at_]
      exact Nat.le_refl _
    | publishedAgain at_ | paused at_ =>
      rw [at_]
      exact Nat.le_refl _
    | counted _ =>
      rw [Producing.proceed_chunk]
      exact Nat.le_add_right _ _
    | _ => exact Nat.le_add_right _ _
  | handled state _ _ _ _ _ _ _ =>
    rw [state]
    exact Nat.le_refl _
  | cancelled state _ =>
    rw [state]
    exact Nat.le_refl _

def logs (j : Nat) (d : Delivery) : List Event :=
  if d.chunk.records = [] then [] else [.handled j d (.saveErrors d.chunk.withdrawn) (.ok ())]

def turningAway (j : Nat) (d : Delivery) (job : Job) (counters : JobCounters) : List Event :=
  .handled j d (.getJob d.chunk.jobId) (.ok (some job)) :: logs j d ++
    [.handled j d (.increment d.chunk.jobId 0 d.chunk.records.length) (.ok counters),
      .handled j d (.completeIfDone d.chunk.jobId) (.ok false),
      .settled j d (.ok ⟨d.chunk.jobId, d.chunk.number, 0, d.chunk.records.length, false, false,
        false⟩)]

inductive Passing (j : Nat) (d : Delivery) : Stage → List Event → Prop
  | loading : Passing j d .loading []
  | loaded {job : Job} (cancelled : job.status = .cancelled) :
      Passing j d (.loaded .cancelled) [.handled j d (.getJob d.chunk.jobId) (.ok (some job))]
  | logging {job : Job} (cancelled : job.status = .cancelled) :
      Passing j d (.logging ⟨0, d.chunk.withdrawn, false⟩)
        [.handled j d (.getJob d.chunk.jobId) (.ok (some job))]
  | counting {job : Job} (cancelled : job.status = .cancelled) :
      Passing j d (.counting ⟨0, d.chunk.withdrawn, false⟩)
        (.handled j d (.getJob d.chunk.jobId) (.ok (some job)) :: logs j d)
  | checking {job : Job} {counters : JobCounters} (cancelled : job.status = .cancelled) :
      Passing j d (.checking ⟨0, d.chunk.withdrawn, false⟩)
        (.handled j d (.getJob d.chunk.jobId) (.ok (some job)) :: logs j d ++
          [.handled j d (.increment d.chunk.jobId 0 d.chunk.records.length) (.ok counters)])
  | settled {job : Job} {counters : JobCounters} (cancelled : job.status = .cancelled) :
      Passing j d (.settled (.ok (Stage.outcome d.chunk ⟨0, d.chunk.withdrawn, false⟩ false)))
        (.handled j d (.getJob d.chunk.jobId) (.ok (some job)) :: logs j d ++
          [.handled j d (.increment d.chunk.jobId 0 d.chunk.records.length) (.ok counters),
            .handled j d (.completeIfDone d.chunk.jobId) (.ok false)])

theorem length_withdrawn (c : Chunk) : c.withdrawn.length = c.records.length := List.length_map _

theorem outcome_withdrawn (c : Chunk) :
    Stage.outcome c ⟨0, c.withdrawn, false⟩ false =
      ⟨c.jobId, c.number, 0, c.records.length, false, false, false⟩ := by
  unfold Stage.outcome
  rw [length_withdrawn]

theorem Passing.prefix {events : List Event} (h : Passing j d stage events) :
    ∃ job counters, job.status = .cancelled ∧ events <+: turningAway j d job counters := by
  have unknown : JobCounters := ⟨none, 0, 0⟩
  cases h with
  | loading => exact ⟨{ (default : Job) with status := .cancelled }, unknown, rfl, List.nil_prefix⟩
  | loaded cancelled | logging cancelled => exact ⟨_, unknown, cancelled, _, rfl⟩
  | counting cancelled => exact ⟨_, unknown, cancelled, _, rfl⟩
  | checking cancelled => exact ⟨_, _, cancelled, [_, _], List.append_assoc ..⟩
  | settled cancelled => exact ⟨_, _, cancelled, [_], List.append_assoc ..⟩

def TurnsAway (s t : System) (j : Nat) (d : Delivery) : Prop :=
  ∃ events job counters, t.doings j = s.doings j ++ events ∧ job.status = .cancelled ∧
    (events <+: turningAway j d job counters ∨ turningAway j d job counters <+: events)

def Turning (s t : System) (j : Nat) (d : Delivery) : Prop :=
  ∃ stage events, t.holding j = some (d, stage) ∧ t.doings j = s.doings j ++ events ∧
    Passing j d stage events

def Turned (s t : System) (j : Nat) (d : Delivery) : Prop :=
  ∃ events job counters, t.doings j = s.doings j ++ (turningAway j d job counters ++ events) ∧
    job.status = .cancelled

theorem Passing.goes {events : List Event} {next : Stage} (h : Passing j d stage events)
    (goes : Stage.Goes d.chunk stage next) : Passing j d next events := by
  cases h with
  | loaded cancelled =>
    cases goes with
    | turnedAway _ =>
      rw [Stage.inactive_cancelled]
      exact .logging cancelled
  | @logging job cancelled =>
    cases goes with
    | nothingToLog clean =>
      have hnil : logs j d = [] := if_pos (List.map_eq_nil_iff.mp clean)
      have hcounting := Passing.counting (j := j) (d := d) cancelled
      rw [hnil] at hcounting
      exact hcounting
  | _ => cases goes

theorem Passing.asks {events : List Event} {next : Stage} {c : Call} {answer : c.Answer}
    {ended : Instant} (h : Passing j d stage events) (had : s.holding j = some (d, stage))
    (withdrawn : s.Withdrawn d.chunk.jobId ended) (asks : Stage.Asks d.chunk stage c answer next)
    (replies : (s.world.answer c).1 = answer) :
    Passing j d next (events ++ [.handled j d c answer]) := by
  -- the look-up finds the job cancelled, so no row is stored, and the check finds it closed
  obtain ⟨job, known, hstatus, -⟩ := withdrawn.job
  cases h with
  | loading =>
    cases asks with
    | unloaded => cases replies
    | unknown =>
      rw [World.answer_getJob, known] at replies
      cases replies
    | @found found =>
      rw [World.answer_getJob, known] at replies
      obtain rfl := Option.some.inj (Except.ok.inj replies)
      rw [hstatus]
      exact .loaded hstatus
  | loaded cancelled => cases asks
  | logging cancelled =>
    cases asks with
    | @logged _ answer any =>
      have hok : answer = .ok () := by
        rw [World.answer_saveErrors] at replies
        unfold ErrorLog.save at replies
        rw [if_pos withdrawn.served.available.errors] at replies
        exact replies.symm
      have hlogs : logs j d = [.handled j d (.saveErrors d.chunk.withdrawn) (.ok ())] :=
        if_neg fun hnil => any (List.map_eq_nil_iff.mpr hnil)
      have hcounting := Passing.counting (j := j) (d := d) cancelled
      rw [hlogs] at hcounting
      rw [hok]
      exact hcounting
  | counting cancelled =>
    obtain ⟨w, at_, busy⟩ := busy_of_holding had
    cases asks with
    | uncounted =>
      exact absurd replies (withdrawn.served.increment withdrawn.sound at_ busy rfl _ _ _)
    | counted =>
      rw [length_withdrawn]
      exact .checking cancelled
  | checking cancelled =>
    cases asks with
    | unchecked => cases replies
    | notDone =>
      rw [List.append_assoc]
      exact .settled cancelled
    | completed =>
      rw [World.answer_completeIfDone, JobTable.fst_completeIfDone, known] at replies
      have hready : job.isReadyToComplete = true := Except.ok.inj replies
      rw [(job.isReadyToComplete_iff.mp hready).1] at hstatus
      cases hstatus
  | settled cancelled => cases asks

theorem Turning.step {ended : Instant} (h : Turning s t j d)
    (withdrawn : t.Withdrawn d.chunk.jobId ended) (step : Step t a s') :
    Turning s s' j d ∨ Turned s s' j d := by
  obtain ⟨stage, events, had, hdoings, passing⟩ := h
  cases step.advance had with
  | rested holding doings => exact .inl ⟨stage, events, holding, doings.trans hdoings, passing⟩
  | went goes holding doings =>
    exact .inl ⟨_, events, holding, doings.trans hdoings, passing.goes goes⟩
  | asked asks replies holding doings =>
    refine .inl ⟨_, _, holding, ?_, passing.asks had withdrawn asks replies⟩
    rw [doings, hdoings, List.append_assoc]
  | settled doings =>
    refine .inr ?_
    cases passing with
    | @settled job counters cancelled =>
      refine ⟨[], job, counters, ?_, cancelled⟩
      rw [doings, hdoings, outcome_withdrawn, List.append_nil, List.append_assoc]
      exact congrArg (s.doings j ++ ·) (List.append_assoc ..)

theorem Turned.step (h : Turned s t j d) (step : Step t a s') : Turned s s' j d := by
  obtain ⟨events, job, counters, hdoings, cancelled⟩ := h
  obtain ⟨more, hmore⟩ := step.doings j
  refine ⟨events ++ more, job, counters, ?_, cancelled⟩
  rw [hmore, hdoings, List.append_assoc, List.append_assoc]

theorem turnsAway_of_run {ended : Instant} {later : List Action}
    (withdrawn : s.Withdrawn d.chunk.jobId ended) (had : s.holding j = some (d, .loading))
    (on : ∀ a ∈ later, a.isOutage = false) (run : s.run later = some t) : TurnsAway s t j d := by
  have hend : t.Withdrawn d.chunk.jobId ended ∧ (Turning s t j d ∨ Turned s t j d) := by
    refine run_invariant_of (Q := (·.isOutage = false))
      (P := fun t => t.Withdrawn d.chunk.jobId ended ∧ (Turning s t j d ∨ Turned s t j d)) ?_ on run
      ⟨withdrawn, .inl ⟨.loading, [], had, (List.append_nil _).symm, .loading⟩⟩
    rintro a t t' on step ⟨withdrawn, turning | turned⟩
    · exact ⟨withdrawn.step on step, turning.step withdrawn step⟩
    · exact ⟨withdrawn.step on step, .inr (turned.step step)⟩
  rcases hend.2 with
    ⟨stage, events, -, hdoings, passing⟩ | ⟨events, job, counters, hdoings, cancelled⟩
  · obtain ⟨job, counters, cancelled, hprefix⟩ := passing.prefix
    exact ⟨events, job, counters, hdoings, cancelled, .inl hprefix⟩
  · exact ⟨_, job, counters, hdoings, cancelled, .inr (List.prefix_append _ _)⟩

/-- What a job that was cancelled at the moment `s` has come to in a later system. -/
structure Stopped (s : System) (id : JobId) (t : System) : Prop where
  job : ∃ job, t.world.jobs.get? id = some job ∧ job.status = .cancelled ∧
    job.endTime = some s.world.now
  /-- A chunk that the producer was waiting with is the one more that the bus takes. -/
  published : ∀ {i : Nat} {p : Producer}, s.producers[i]? = some p → p.jobId = id →
    (t.published id).length + (if p.waiting then 1 else 0) ≤ (s.published id).length + 1
  turnedAway : ∀ {j : Nat} {d : Delivery} {later : List Action} {u : System},
    t.holding j = some (d, .loading) → d.chunk.jobId = id →
    (∀ a ∈ later, a.isOutage = false) → t.run later = some u → TurnsAway t u j d
  /-- With the bus drained, whether or not its producer has ended. -/
  accounted : ∀ {i : Nat} {p : Producer} {job : Job}, t.producers[i]? = some p → p.jobId = id →
    t.world.jobs.get? id = some job → t.world.bus.isDrained = true →
    job.processedRows + job.failedRows = Chunk.rowCount (t.published id) + t.flushed id
  within : ∀ {i : Nat} {p : Producer} {job : Job} {total : Int}, t.producers[i]? = some p →
    p.jobId = id → t.world.jobs.get? id = some job → job.totalRows = some total →
    job.processedRows + job.failedRows ≤ total

theorem Withdrawn.accounted {ended : Instant} (h : t.Withdrawn p.jobId ended)
    (at_ : t.producers[i]? = some p) (known : t.world.jobs.get? p.jobId = some job)
    (drained : t.world.bus.isDrained = true) :
    job.rowsAccounted = Chunk.rowCount (t.published p.jobId) + t.flushed p.jobId :=
  h.served.accounted h.sound at_ known drained

/-- The chunks that the bus takes after the cancellation are at most the one in hand. -/
theorem Withdrawn.published {ended : Instant} {later : List Action} (h : s.Withdrawn p.jobId ended)
    (at_ : s.producers[i]? = some p) (on : ∀ a ∈ later, a.isOutage = false)
    (run : s.run later = some t) :
    (t.published p.jobId).length ≤
      (s.published p.jobId).length + p.state.point.chunk?.toList.length := by
  have hend : t.Withdrawn p.jobId ended ∧ ∃ q, t.producers[i]? = some q ∧ q.jobId = p.jobId ∧
      (t.published p.jobId).length + q.state.point.chunk?.toList.length ≤
        (s.published p.jobId).length + p.state.point.chunk?.toList.length := by
    refine run_invariant_of (Q := (·.isOutage = false))
      (P := fun t => t.Withdrawn p.jobId ended ∧ ∃ q, t.producers[i]? = some q ∧
        q.jobId = p.jobId ∧ (t.published p.jobId).length + q.state.point.chunk?.toList.length ≤
          (s.published p.jobId).length + p.state.point.chunk?.toList.length) ?_ on run
      ⟨h, p, at_, rfl, Nat.le_refl _⟩
    rintro a t t' on step ⟨withdrawn, q, hq, hid, hle⟩
    refine ⟨withdrawn.step on step, ?_⟩
    obtain ⟨q', hq', -, -, hid', turn⟩ := step.continues withdrawn.sound.registered hq
    obtain ⟨job, known, hstatus, -⟩ := withdrawn.job
    have hmore := turn.offers (hid ▸ known) (by rw [hstatus]; decide)
    refine ⟨q', hq', hid'.trans hid, ?_⟩
    rw [hid] at hmore
    exact Nat.le_trans hmore hle
  obtain ⟨-, q, -, -, hle⟩ := hend
  omega

/-- With or without a chunk in hand, a producer has room for at most one. -/
theorem Patient.inHand (h : s.Patient) (at_ : s.producers[i]? = some p) :
    p.state.point.chunk?.toList.length + (if p.waiting then 1 else 0) ≤ 1 := by
  cases hwaiting : p.waiting with
  | true =>
    rw [h p (List.mem_of_getElem? at_) hwaiting]
    exact Nat.le_refl _
  | false =>
    cases p.state.point.chunk? with
    | none => exact Nat.zero_le _
    | some chunk => exact Nat.le_refl _

def cancelling (s : System) (id : JobId) : System :=
  { s with world := { s.world with jobs := (s.world.jobs.cancel id s.world.now).2 } }

/-- Whatever the order of steps, and wherever the producers and the workers are when a job is
cancelled; only the stores have to answer. -/
theorem cancellation_stops_import {now : Instant} {jobs : JobTable} {errors : ErrorLog}
    {products : Catalogue} {capacity workers : Nat} {before later : List Action}
    (available : (World.opening now jobs errors products capacity).Available)
    (on : ∀ a ∈ before ++ later, a.isOutage = false)
    (run : (opening (.opening now jobs errors products capacity) workers).run before = some s)
    (cancels : (s.world.jobs.cancel id s.world.now).1 = true)
    (goesOn : s.run (.cancel id :: later) = some t) : Stopped s id t := by
  have onBefore : ∀ a ∈ before, a.isOutage = false := fun a ha => on a (List.mem_append_left _ ha)
  have onLater : ∀ a ∈ later, a.isOutage = false := fun a ha => on a (List.mem_append_right _ ha)
  obtain ⟨sound, served, patient⟩ : s.Sound ∧ s.Served ∧ s.Patient := by
    refine run_invariant_of (Q := (·.isOutage = false))
      (P := fun s => s.Sound ∧ s.Served ∧ s.Patient) ?_ onBefore run
      ⟨sound_opening .., served_opening available workers, patient_opening _ workers⟩
    rintro a s s' on step ⟨sound, served, patient⟩
    exact ⟨sound.step step, served.step sound on step, patient.step step⟩
  have hlater : (s.cancelling id).run later = some t := goesOn
  have step : Step s (.cancel id) (s.cancelling id) := .cancelled id
  have cancelled : (s.cancelling id).Withdrawn id s.world.now :=
    ⟨sound.step step, served.step sound rfl step, JobTable.get?_of_cancel cancels⟩
  have reached : t.Withdrawn id s.world.now :=
    run_invariant_of (Q := (·.isOutage = false)) (fun on step h => h.step on step) onLater hlater
      cancelled
  constructor
  case job => exact reached.job
  case published =>
    rintro i p at_ rfl
    have hpublished := cancelled.published (p := p) at_ onLater hlater
    have hroom := patient.inHand at_
    have hsame : (s.cancelling p.jobId).published p.jobId = s.published p.jobId := rfl
    rw [hsame] at hpublished
    omega
  case turnedAway =>
    rintro j d rest u had rfl onRest hrest
    exact turnsAway_of_run reached had onRest hrest
  case accounted =>
    rintro i p job at_ rfl known drained
    exact reached.accounted at_ known drained
  case within =>
    rintro i p job total at_ rfl known totalled
    have himport := reached.sound.import_of_get at_ known
    rw [(himport.total_eq totalled).2]
    exact himport.rowsAccounted_le reached.sound

section Mug

/-- The second mug is about to be published, and the first is with the worker, which has not looked
up the job. -/
def mugInHand : List Action :=
  [.start { chunkSize := 1 } ⟨7⟩ [.parsed mug, .parsed mug, .parsed mug], .read 0, .read 0,
    .read 0] ++ List.replicate 6 (.produce 0) ++ [.work 0]

def mugWithdrawn : List Action :=
  .produce 0 :: List.replicate 6 (.work 0) ++ List.replicate 4 (.produce 0) ++ .close ::
    List.replicate 8 (.work 0)

theorem mug_cancellation_stops_import : ∃ s t,
    (World.opening ⟨0, 0⟩ .empty .empty .empty 1).Available ∧
      (∀ a ∈ mugInHand ++ mugWithdrawn, a.isOutage = false) ∧
      (opening (.opening ⟨0, 0⟩ .empty .empty .empty 1) 1).run mugInHand = some s ∧
      (s.world.jobs.cancel ⟨7⟩ s.world.now).1 = true ∧
      s.run (.cancel ⟨7⟩ :: mugWithdrawn) = some t ∧ Stopped s ⟨7⟩ t ∧
      t.world.bus.isDrained = true ∧ ∃ job, t.world.jobs.get? ⟨7⟩ = some job ∧
        job.failedRows = 2 ∧ job.totalRows = some 3 := by
  have available : (World.opening ⟨0, 0⟩ .empty .empty .empty 1).Available := ⟨rfl, rfl, rfl⟩
  have on : ∀ a ∈ mugInHand ++ mugWithdrawn, a.isOutage = false := by
    simp [mugInHand, mugWithdrawn, Action.isOutage]
  have hrun : ((opening (.opening ⟨0, 0⟩ .empty .empty .empty 1) 1).run mugInHand).any (fun s =>
      (s.world.jobs.cancel ⟨7⟩ s.world.now).1 &&
        (s.run (.cancel ⟨7⟩ :: mugWithdrawn)).any fun t => t.world.bus.isDrained &&
          (t.world.jobs.get? ⟨7⟩).any fun job => job.failedRows = 2 ∧ job.totalRows = some 3) =
      true := by
    decide +kernel
  obtain ⟨s, hs, hcancel⟩ := (Option.any_eq_true _ _).mp hrun
  obtain ⟨cancels, hlater⟩ := Bool.and_eq_true_iff.mp hcancel
  obtain ⟨t, ht, hend⟩ := (Option.any_eq_true _ _).mp hlater
  obtain ⟨drained, hjob⟩ := Bool.and_eq_true_iff.mp hend
  obtain ⟨job, known, hrows⟩ := (Option.any_eq_true _ _).mp hjob
  exact ⟨s, t, available, on, hs, cancels, ht, cancellation_stops_import available on hs cancels ht,
    drained, job, known, of_decide_eq_true hrows⟩

end Mug

end System

end Concurrency

end CatalogIntake
