import CatalogIntake.Proofs.Concurrency.Registry

/-!
The job of an import against its producer. The total is written once all rows are published or
counted and never before; a job is completed only when its counters have come up to the total. What
the counters say is what has been counted, so that neither can be early.
-/

namespace CatalogIntake

def Call.isFallible : Call → Bool
  | publish _ | saveErrors _ | increment _ _ _ => true
  | _ => false

namespace Point

def isTotalled : Point → Bool
  | completing | confirming | ended .finished | ended .cancelled => true
  | _ => false

def isStopped : Point → Bool
  | stopping | ended .cancelled => true
  | _ => false

def isFailed : Point → Bool
  | ended (.failed _) => true
  | _ => false

end Point

structure Agrees (p : Producing) (job : Job) : Prop where
  total : job.totalRows = if p.point.isTotalled then some p.run.rowsRead else none
  completed : job.status = .completed →
    ∃ total, job.totalRows = some total ∧ 0 < total ∧ total ≤ job.rowsAccounted
  cancelled : p.point.isStopped = true → job.status = .cancelled
  failed : job.status = .failed → p.point.isFailed = true
  pending : job.status ≠ .pending

namespace Agrees

variable {settings : ImportSettings} {p next : Producing} {job : Job}

theorem start (jobId : JobId) (source : List RowEvent) (now : Instant) :
    Agrees (.start jobId source) (Job.started jobId now) where
  total := rfl
  completed := fun h => by cases h
  cancelled := fun h => by cases h
  failed := fun h => by cases h
  pending := fun h => by cases h

theorem counted (h : Agrees p job) (processed failed : Int) (more : 0 ≤ processed + failed) :
    Agrees p (job.counted processed failed) where
  total := h.total
  completed := fun hstatus => by
    obtain ⟨total, htotal, hpos, hle⟩ := h.completed hstatus
    refine ⟨total, htotal, hpos, ?_⟩
    unfold Job.rowsAccounted Job.counted at *
    simp only
    omega
  cancelled := h.cancelled
  failed := h.failed
  pending := h.pending

theorem checked (h : Agrees p job) (now : Instant) : Agrees p (job.checked now) := by
  unfold Job.checked
  split
  · rename_i hready
    obtain ⟨hstatus, total, htotal, hpos, hle⟩ := job.isReadyToComplete_iff.mp hready
    exact
      { total := h.total
        completed := fun _ => ⟨total, htotal, hpos, hle⟩
        cancelled := fun hstop => by
          rw [h.cancelled hstop] at hstatus
          cases hstatus
        failed := fun hfailed => by cases hfailed
        pending := fun hpending => by cases hpending }
  · exact h

theorem cancel (h : Agrees p job) (now : Instant) :
    Agrees p (job.finished .cancelled none now) := by
  unfold Job.finished
  split
  · exact
      { total := h.total
        completed := fun hstatus => by cases hstatus
        cancelled := fun _ => rfl
        failed := fun hstatus => by cases hstatus
        pending := fun hstatus => by cases hstatus }
  · exact h

/-- The producer comes to another point before the total is written. -/
theorem move (h : Agrees p job) (before : p.point.isTotalled = false)
    (after : next.point.isTotalled = false) (stopped : next.point.isStopped = false)
    (failed : p.point.isFailed = false) : Agrees next job where
  total := by
    rw [h.total, before, after]
    rfl
  completed := h.completed
  cancelled := fun hstop => by
    rw [stopped] at hstop
    cases hstop
  failed := fun hfailed => by
    rw [h.failed hfailed] at failed
    cases failed
  pending := h.pending

theorem proceed_point (p : Producing) (atEnd : Bool) :
    (p.proceed atEnd).point.isTotalled = false ∧ (p.proceed atEnd).point.isStopped = false := by
  unfold Producing.proceed
  split
  · split <;> exact ⟨rfl, rfl⟩
  · exact ⟨rfl, rfl⟩

theorem goes (h : Agrees p job) (goes : Producing.Goes settings p next) : Agrees next job := by
  cases goes with
  | sourceEnded at_ _ => exact h.move (by rw [at_]; rfl) rfl rfl (by rw [at_]; rfl)
  | @taken event rest at_ _ =>
    have hpoint : (Producing.onEvent settings p.run rest event).point.isTotalled = false ∧
        (Producing.onEvent settings p.run rest event).point.isStopped = false := by
      cases event with
      | fault fault => exact ⟨rfl, rfl⟩
      | _ =>
        simp only [Producing.onEvent]
        split <;> exact ⟨rfl, rfl⟩
    exact h.move (by rw [at_]; rfl) hpoint.1 hpoint.2 (by rw [at_]; rfl)
  | nothingToPublish at_ _ => exact h.move (by rw [at_]; rfl) rfl rfl (by rw [at_]; rfl)
  | @nothingToFlush atEnd at_ _ =>
    exact h.move (by rw [at_]; rfl) (proceed_point p atEnd).1 (proceed_point p atEnd).2
      (by rw [at_]; rfl)

/-- The producer fails before the total is written; only a store that did not answer, or a job that
is no longer in progress, brings it there. -/
theorem fail (h : Agrees p job) {reason : String} (before : p.point.isTotalled = false)
    (failed : p.point.isFailed = false) : Agrees (p.moveTo (.failing reason)) job :=
  h.move before rfl rfl failed

theorem totalledMove (h : Agrees p job) {q : Point} (before : p.point.isTotalled = true)
    (after : q.isTotalled = true) (stopped : q.isStopped = true → p.point.isStopped = true)
    (failed : p.point.isFailed = false) : Agrees (p.moveTo q) job where
  total := by
    rw [h.total, before]
    show _ = if q.isTotalled then _ else _
    rw [after]
    rfl
  completed := h.completed
  cancelled := fun hstop => h.cancelled (stopped hstop)
  failed := fun hfailed => by
    rw [h.failed hfailed] at failed
    cases failed
  pending := h.pending

/-- The total is written, with the number of rows that have been read. -/
theorem totalled (h : Agrees p job) {q : Point} (before : p.point.isTotalled = false)
    (after : q.isTotalled = true) (stopped : q.isStopped = true → p.point.isStopped = true)
    (failed : p.point.isFailed = false) :
    Agrees (p.moveTo q) (job.totalled p.run.rowsRead) := by
  have hnone : job.totalRows = none := by
    rw [h.total, before]
    rfl
  have htotalled : job.totalled p.run.rowsRead = { job with totalRows := some p.run.rowsRead } := by
    unfold Job.totalled
    rw [hnone]
    rfl
  rw [htotalled]
  exact
    { total := by
        show _ = if q.isTotalled then _ else _
        rw [after]
        rfl
      completed := fun hstatus => by
        obtain ⟨total, htotal, -⟩ := h.completed hstatus
        rw [hnone] at htotal
        cases htotal
      cancelled := fun hstop => h.cancelled (stopped hstop)
      failed := fun hfailed => by
        rw [h.failed hfailed] at failed
        cases failed
      pending := h.pending }

/-- A call of the producer, answered as the stores in memory answer it unless it may fail. -/
theorem asks (h : Agrees p job) {w : Concurrency.World} {c : Call} {answer : c.Answer}
    (asks : Producing.Asks settings p c answer next) (known : w.jobs.get? p.run.jobId = some job)
    (replies : c.isFallible = false → (w.answer c).1 = answer) :
    Agrees next (Job.after w.now c answer job) := by
  cases asks with
  | jobUnavailable _ _ => cases replies rfl
  | jobGone at_ _ => exact h.fail (by rw [at_]; rfl) (by rw [at_]; rfl)
  | processing at_ _ _ => exact h.move (by rw [at_]; rfl) rfl rfl (by rw [at_]; rfl)
  | @cancelled atEnd found at_ _ status =>
    have hanswer := replies rfl
    rw [Concurrency.World.answer_getJob, known] at hanswer
    obtain rfl : job = found := Option.some.inj (Except.ok.inj hanswer)
    exact
      { total := by
          rw [show Job.after _ _ _ job = job from rfl, h.total, at_]
          rfl
        completed := h.completed
        cancelled := fun _ => status
        failed := fun hfailed => by
          rw [show job.status = .failed from hfailed] at status
          cases status
        pending := h.pending }
  | inactive at_ _ _ _ => exact h.fail (by rw [at_]; rfl) (by rw [at_]; rfl)
  | published at_ => exact h.move (by rw [at_]; rfl) rfl rfl (by rw [at_]; rfl)
  | notPublished at_ => exact h.fail (by rw [at_]; rfl) (by rw [at_]; rfl)
  | publishedAgain at_ => exact h.move (by rw [at_]; rfl) rfl rfl (by rw [at_]; rfl)
  | paused at_ => exact h.move (by rw [at_]; rfl) rfl rfl (by rw [at_]; rfl)
  | logged at_ _ => exact h.move (by rw [at_]; rfl) rfl rfl (by rw [at_]; rfl)
  | uncounted at_ => exact h.fail (by rw [at_]; rfl) (by rw [at_]; rfl)
  | @counted atEnd rejected counters at_ =>
    have hcounted := h.counted 0 rejected (by omega)
    exact hcounted.move (by rw [at_]; rfl) (proceed_point p atEnd).1 (proceed_point p atEnd).2
      (by rw [at_]; rfl)
  | notTotalled at_ => cases replies rfl
  | totalled at_ =>
    exact h.totalled (by rw [at_]; rfl) rfl (fun hstop => by cases hstop) (by rw [at_]; rfl)
  | unchecked at_ => cases replies rfl
  | notDone at_ =>
    exact (h.checked w.now).totalledMove (by rw [at_]; rfl) rfl (fun hstop => by cases hstop)
      (by rw [at_]; rfl)
  | completed at_ =>
    exact (h.checked w.now).totalledMove (by rw [at_]; rfl) rfl (fun hstop => by cases hstop)
      (by rw [at_]; rfl)
  | unconfirmed at_ => cases replies rfl
  | confirmed at_ =>
    exact h.totalledMove (by rw [at_]; rfl) rfl (fun hstop => by cases hstop) (by rw [at_]; rfl)
  | stopped at_ =>
    exact h.totalled (by rw [at_]; rfl) rfl (fun _ => by rw [at_]; rfl) (by rw [at_]; rfl)
  | @failed reason answer at_ =>
    have hnone : job.totalRows = none := by
      rw [h.total, at_]
      rfl
    show Agrees _ (job.finished .failed (some _) w.now)
    unfold Job.finished
    split
    · exact
        { total := hnone
          completed := fun hstatus => by cases hstatus
          cancelled := fun hstop => by cases hstop
          failed := fun _ => rfl
          pending := fun hpending => by cases hpending }
    · exact
        { total := hnone
          completed := h.completed
          cancelled := fun hstop => by cases hstop
          failed := fun _ => rfl
          pending := h.pending }

theorem handled (h : Agrees p job) {chunk : Chunk} {stage next : Stage} {c : Call}
    {answer : c.Answer} (now : Instant) (fits : stage.Fits chunk)
    (asks : Stage.Asks chunk stage c answer next) : Agrees p (Job.after now c answer job) := by
  cases asks with
  | counted =>
    refine h.counted _ _ ?_
    have hsum := fits.2
    have hpos := fits.1
    omega
  | unchecked => exact h.checked now
  | notDone => exact h.checked now
  | completed => exact h.checked now
  | _ => exact h

end Agrees

namespace Concurrency

structure Import (p : Producer) (b : Book) (job : Job) : Prop where
  here : b.job = some job
  reads : Reads p.settings p.source b.published b.flushed p.state
  accounted : job.rowsAccounted = Chunk.rowCount b.counted + b.flushed
  agrees : Agrees p.state job

namespace Import

variable {a : Action} {s s' : System} {p p' : Producer} {job : Job}

theorem start (settings : ImportSettings) (jobId : JobId) (source : List RowEvent)
    (now : Instant) :
    Import (.start settings jobId source) ⟨some (Job.started jobId now), [], [], 0⟩
      (Job.started jobId now) where
  here := rfl
  reads := .start settings jobId source
  accounted := rfl
  agrees := .start jobId source now

theorem rowCount_append (a b : List Chunk) :
    Chunk.rowCount (a ++ b) = Chunk.rowCount a + Chunk.rowCount b := by
  unfold Chunk.rowCount
  rw [List.map_append, List.sum_append]

theorem counters_after (job : Job) (now : Instant) (c : Call) (answer : c.Answer) :
    (Job.after now c answer job).processedRows = job.processedRows + c.processed answer ∧
      (Job.after now c answer job).failedRows = job.failedRows + c.failed answer := by
  have unchanged {job' : Job} (same : job'.processedRows = job.processedRows ∧
      job'.failedRows = job.failedRows) :
      job'.processedRows = job.processedRows + 0 ∧ job'.failedRows = job.failedRows + 0 :=
    ⟨same.1.trans (Int.add_zero _).symm, same.2.trans (Int.add_zero _).symm⟩
  cases c with
  | finalizeTotal id total => exact unchanged (Job.totalled_rows total job)
  | increment id processed failed =>
    cases answer with
    | error f => exact unchanged ⟨rfl, rfl⟩
    | ok counters => exact ⟨rfl, rfl⟩
  | completeIfDone id => exact unchanged (Job.checked_rows now job)
  | failJob id reason => exact unchanged (Job.finished_rows _ _ now job)
  | cancelJob id => exact unchanged (Job.finished_rows _ _ now job)
  | _ => exact unchanged ⟨rfl, rfl⟩

theorem rowsAccounted_after (job : Job) (now : Instant) (c : Call) (answer : c.Answer) :
    (Job.after now c answer job).rowsAccounted = job.rowsAccounted + c.rows answer := by
  obtain ⟨hprocessed, hfailed⟩ := counters_after job now c answer
  unfold Job.rowsAccounted Call.rows
  omega

section Accounted

variable {b : Book} (h : job.rowsAccounted = Chunk.rowCount b.counted + b.flushed)
include h

theorem accounted_asked (now : Instant) (c : Call) (answer : c.Answer) :
    (Job.after now c answer job).rowsAccounted =
      Chunk.rowCount (b.asked now c answer).counted + (b.asked now c answer).flushed := by
  rw [rowsAccounted_after, h]
  exact Int.add_assoc ..

theorem accounted_handled {chunk : Chunk} {stage next : Stage} {c : Call} {answer : c.Answer}
    (now : Instant) (fits : stage.Fits chunk) (asks : Stage.Asks chunk stage c answer next) :
    (Job.after now c answer job).rowsAccounted =
      Chunk.rowCount (b.handled now chunk c answer).counted +
        (b.handled now chunk c answer).flushed := by
  rw [rowsAccounted_after, h, fits.rows asks]
  unfold Book.handled
  rw [rowCount_append]
  cases c.counts answer with
  | true =>
    simp [Chunk.rowCount]
    omega
  | false => simp [Chunk.rowCount]

theorem accounted_cancelled (now : Instant) :
    (job.finished .cancelled none now).rowsAccounted =
      Chunk.rowCount (b.cancelled now).counted + (b.cancelled now).flushed := by
  obtain ⟨hprocessed, hfailed⟩ := Job.finished_rows .cancelled none now job
  refine Eq.trans ?_ h
  unfold Job.rowsAccounted
  rw [hprocessed, hfailed]

end Accounted

theorem turn {b' : Book} (h : Import p (s.book p.jobId) job) (settings : p'.settings = p.settings)
    (source : p'.source = p.source) (turn : System.Turn s a s' p p' (s.book p.jobId) b')
    (fitting : s.Fitting) : ∃ job', Import p' b' job' := by
  have known : s.world.jobs.get? p.state.run.jobId = some job := h.here
  cases turn with
  | rested state =>
    refine ⟨job, h.here, ?_, h.accounted, ?_⟩
    · rw [settings, source, state]
      exact h.reads
    · rw [state]
      exact h.agrees
  | went goes =>
    refine ⟨job, h.here, ?_, h.accounted, h.agrees.goes goes⟩
    rw [settings, source]
    exact h.reads.goes goes
  | @asked c answer asks replies _ =>
    refine ⟨Job.after s.world.now c answer job, congrArg (Option.map _) h.here, ?_,
      accounted_asked h.accounted _ c answer, h.agrees.asks asks known fun h => replies ?_⟩
    · rw [settings, source]
      exact h.reads.asks asks
    · rintro chunk rfl
      cases h
  | @handled j w _ d stage next c answer state at_ busy own asks replies _ _ =>
    have fits := fitting at_ busy
    refine ⟨Job.after s.world.now c answer job, congrArg (Option.map _) h.here, ?_,
      accounted_handled h.accounted _ fits asks, ?_⟩
    · rw [settings, source, state]
      exact h.reads
    · rw [state]
      exact h.agrees.handled s.world.now fits asks
  | cancelled state _ =>
    refine ⟨job.finished .cancelled none s.world.now, congrArg (Option.map _) h.here, ?_,
      accounted_cancelled h.accounted _, ?_⟩
    · rw [settings, source, state]
      exact h.reads
    · rw [state]
      exact h.agrees.cancel s.world.now

end Import

namespace System

section Open

variable {a : Action} {s s' : System} {chunk : Chunk} {id : JobId}

def openFor (s : System) (id : JobId) : List Chunk :=
  (s.offered ++ s.uncounted ++ s.dropped ++ s.ignored).filter (·.jobId = id)

theorem Balanced.published_perm (h : s.Balanced) (id : JobId) :
    (s.published id).Perm (s.countedFor id ++ s.openFor id) := by
  have htaken : s.taken.Perm
      (s.counted ++ (s.offered ++ s.uncounted ++ s.dropped ++ s.ignored)) := by
    rw [List.perm_iff_count]
    intro c
    have hc := h.chunks c
    simp only [List.count_append]
    omega
  have hfilter := htaken.filter (fun chunk : Chunk => decide (chunk.jobId = id))
  rw [List.filter_append] at hfilter
  exact hfilter

theorem rowCount_perm {a b : List Chunk} (h : a.Perm b) : Chunk.rowCount a = Chunk.rowCount b :=
  (h.map _).sum_nat

theorem Balanced.rowCount_published (h : s.Balanced) (id : JobId) :
    Chunk.rowCount (s.published id) =
      Chunk.rowCount (s.countedFor id) + Chunk.rowCount (s.openFor id) := by
  rw [rowCount_perm (h.published_perm id), Import.rowCount_append]

theorem Registered.known_of_open (h : s.Registered) (balanced : s.Balanced)
    (hchunk : chunk ∈ s.openFor id) : (s.world.jobs.get? id).isSome = true := by
  rw [Option.isSome_iff_ne_none]
  intro hnone
  have hpublished : s.published id = [] := congrArg Book.published (h.blank hnone)
  have hmem : chunk ∈ s.published id :=
    (balanced.published_perm id).mem_iff.mpr (List.mem_append_right _ hchunk)
  rw [hpublished] at hmem
  cases hmem

theorem mem_openFor_of_busy {j : Nat} {w : Worker} {d : Delivery} {stage : Stage}
    (at_ : s.workers[j]? = some w) (busy : w.duty = .busy d stage)
    (uncounted_ : stage.isCounted = false) : d.chunk ∈ s.openFor d.chunk.jobId := by
  have hduty : w.duty.uncounted? = some d.chunk := by
    simp [busy, Duty.uncounted?, uncounted_]
  have hmem : d.chunk ∈ s.uncounted :=
    List.mem_filterMap.mpr ⟨w, List.mem_of_getElem? at_, hduty⟩
  unfold openFor
  rw [List.mem_filter]
  exact ⟨by simp [hmem], by simp⟩

structure Attended (s : System) : Prop where
  ignored : s.ignored = []
  outcome : ∀ {j : Nat} {w : Worker} {d : Delivery} {outcome : ChunkOutcome},
    s.workers[j]? = some w → w.duty = .busy d (.settled (.ok outcome)) → outcome.dropped = false

theorem ignored_of_step (step : Step s a s') (attended : s.Attended) : s'.ignored = [] := by
  refine (step.keeps fun e records => ?_).trans attended.ignored
  cases records with
  | @settled j w d result at_ busy =>
    cases result with
    | error f => rfl
    | ok outcome =>
      show (if outcome.dropped then some d.chunk else none) = none
      rw [attended.outcome at_ busy]
      rfl
  | _ => rfl

theorem Attended.step (h : s.Attended) (balanced : s.Balanced) (registered : s.Registered)
    (step : Step s a s') : s'.Attended where
  ignored := ignored_of_step step h
  outcome := by
    intro j v d outcome at_ busy
    cases step.comes at_ busy with
    | stays at_ busy => exact h.outcome at_ busy
    | goes _ _ goes => cases goes
    | asks hw hbusy asks replies _ =>
      cases asks with
      | unknown =>
        have hknown := registered.known_of_open balanced (mem_openFor_of_busy hw hbusy rfl)
        rw [World.answer_getJob] at replies
        rw [Except.ok.inj replies] at hknown
        cases hknown
      | _ => rfl

theorem attended_opening (world : World) (workers : Nat) : (opening world workers).Attended where
  ignored := rfl
  outcome := by
    intro j w d outcome at_ busy
    rw [duty_opening at_] at busy
    cases busy

end Open

structure Sound (s : System) : Prop where
  balanced : s.Balanced
  registered : s.Registered
  fitting : s.Fitting
  attended : s.Attended
  imports : ∀ {i : Nat} {p : Producer}, s.producers[i]? = some p →
    ∃ job, Import p (s.book p.jobId) job

theorem Sound.step {a : Action} {s s' : System} (h : s.Sound) (step : Step s a s') : s'.Sound where
  balanced := h.balanced.step step
  registered := h.registered.step step
  fitting := Fitting.step h.fitting step
  attended := h.attended.step h.balanced h.registered step
  imports := by
    refine (step.passage h.registered).imports (P := fun p b => ∃ job, Import p b job)
      h.registered ?_ ?_ h.imports
    · exact fun settings jobId source now => ⟨_, .start settings jobId source now⟩
    · rintro i p p' b' - ⟨job, himport⟩ settings source turn
      exact himport.turn settings source turn h.fitting

theorem sound_opening (now : Instant) (jobs : JobTable) (errors : ErrorLog) (products : Catalogue)
    (capacity workers : Nat) :
    (opening (.opening now jobs errors products capacity) workers).Sound where
  balanced := balanced_opening _ workers rfl rfl
  registered := registered_opening _ workers
  fitting := fitting_opening _ workers
  attended := attended_opening _ workers
  imports := fun hp => by simp [opening] at hp

end System

end Concurrency

end CatalogIntake
