import CatalogIntake.Proofs.Concurrency.Timeliness

/-!
Completion is not lost. Whenever the counters of a job have come up to its total, whichever of the
two was written last, somebody is about to check: the producer that has written the total, or a
worker that has counted. Hence a job whose producer has finished and whose chunks are all counted
is completed.
-/

namespace CatalogIntake

theorem Job.checked_not_ready (job : Job) (now : Instant) :
    (job.checked now).isReadyToComplete = false := by
  unfold Job.checked
  split
  · rw [Bool.eq_false_iff]
    intro hready
    obtain ⟨hstatus, -⟩ := (Job.isReadyToComplete_iff _).mp hready
    cases hstatus
  · exact Bool.eq_false_iff.mpr ‹_›

theorem Producing.Goes.untotalled {settings : ImportSettings} {p next : Producing}
    (h : Producing.Goes settings p next) : p.point.isTotalled = false := by
  cases h with
  | sourceEnded at_ _ | taken at_ _ | nothingToPublish at_ _ | nothingToFlush at_ _ =>
    rw [at_]
    rfl

namespace Concurrency

variable {a : Action} {s s' : System} {i : Nat} {p p' : Producer} {job : Job} {id : JobId}

namespace System

def Checks (s : System) (id : JobId) : Prop :=
  ∃ (j : Nat) (w : Worker) (d : Delivery) (stored : Storing), s.workers[j]? = some w ∧
    w.duty = .busy d (.checking stored) ∧ d.chunk.jobId = id

def Followed (s : System) : Prop :=
  ∀ {i : Nat} {p : Producer} {job : Job}, s.producers[i]? = some p →
    s.world.jobs.get? p.jobId = some job → job.isReadyToComplete = true →
      p.state.point = .completing ∨ s.Checks p.jobId

theorem Step.checks (step : Step s a s') (h : s.Checks id) :
    s'.Checks id ∨
      s'.world.jobs.get? id = (s.world.jobs.get? id).map (Job.checked s.world.now) := by
  obtain ⟨j, w, d, stored, hw, hbusy, hid⟩ := h
  -- a step of a worker at another stage leaves this one where it is
  have other {t : System} {k : Nat} {v v' : Worker} (workers : t.workers = s.workers)
      (hv : s.workers[k]? = some v) (hstage : v.duty ≠ w.duty) :
      (t.setWorker k v').Checks id := by
    have hkj : ¬j = k := by
      intro hjk
      subst hjk
      exact hstage (congrArg Worker.duty (Option.some.inj (hv.symm.trans hw)))
    refine ⟨j, w, d, stored, ?_, hbusy, hid⟩
    have hat : t.workers[k]? = some v := by
      rw [workers]
      exact hv
    rw [getElem?_setWorker hat, if_neg hkj, workers]
    exact hw
  cases step with
  | received hv hidle _ =>
    exact .inl (other (workers_letIn _ _) hv (by rw [hidle, hbusy]; exact fun h => nomatch h))
  | left hv hidle _ => exact .inl (other rfl hv (by rw [hidle, hbusy]; exact fun h => nomatch h))
  | settled hv hsettled =>
    exact .inl (other rfl hv (by rw [hsettled, hbusy]; exact fun h => nomatch h))
  | thought hv hv' goes =>
    refine .inl (other rfl hv ?_)
    rw [hv', hbusy]
    intro h
    cases h
    cases goes
  | @handled k v e stage next c answer world hv hv' replies asks =>
    by_cases hduty : v.duty = w.duty
    · rw [hv', hbusy] at hduty
      cases hduty
      have hchecked (hc : c = .completeIfDone d.chunk.jobId) :
          world.jobs.get? id = (s.world.jobs.get? id).map (Job.checked s.world.now) := by
        subst hc
        subst hid
        exact (get?_of_answer replies rfl d.chunk.jobId).trans (if_pos rfl)
      cases asks <;> exact .inr (hchecked rfl)
    · exact .inl (other rfl hv hduty)
  | hired =>
    refine .inl ⟨j, w, d, stored, ?_, hbusy, hid⟩
    exact (List.getElem?_append_left (List.getElem?_eq_some_iff.mp hw).1).trans hw
  | _ => exact .inl ⟨j, w, d, stored, hw, hbusy, hid⟩

theorem Followed.step (h : s.Followed) (sound : s.Sound) (step : Step s a s') : s'.Followed := by
  intro i p' job' hp' hjob' hready
  have hcheck {old : Job} (now : Instant) : job' ≠ old.checked now := by
    intro heq
    rw [heq, Job.checked_not_ready] at hready
    cases hready
  have himport' := (sound.step step).import_of_get hp' hjob'
  have htotalled : p'.state.point.isTotalled = true := by
    obtain ⟨-, total, htotal, -⟩ := job'.isReadyToComplete_iff.mp hready
    exact (himport'.total_eq htotal).1
  have hprocessing : job'.status = .processing := (job'.isReadyToComplete_iff.mp hready).1
  rcases step.origin hp' with ⟨p, hp⟩ | ⟨-, settings, id, source, rfl, -⟩
  · obtain ⟨q, hq, -, -, hid, turn⟩ := step.continues sound.registered hp
    obtain rfl : q = p' := Option.some.inj (hq.symm.trans hp')
    rw [hid] at hjob' ⊢
    have hbook : (s'.book p.jobId).job = some job' := hjob'
    generalize s'.book p.jobId = b' at turn hbook
    obtain ⟨job, himport⟩ := sound.imports hp
    -- as long as the job stays the same, a worker that is about to check it stays
    have same (hsame : job = job') (hpoint : p.state.point = .completing →
        q.state.point = .completing) : q.state.point = .completing ∨ s'.Checks p.jobId := by
      subst hsame
      rcases h hp himport.here hready with hcompleting | hchecks
      · exact .inl (hpoint hcompleting)
      · rcases step.checks hchecks with hchecks | hchecked
        · exact .inr hchecks
        · rw [hjob', show s.world.jobs.get? p.jobId = some job from himport.here] at hchecked
          exact absurd (Option.some.inj hchecked) (hcheck s.world.now)
    have after {f : Job → Job} (hmap : (s.book p.jobId).job.map f = some job') : f job = job' := by
      rw [himport.here] at hmap
      exact Option.some.inj hmap
    cases turn with
    | rested state =>
      refine same (Option.some.inj (himport.here.symm.trans hbook)) ?_
      rw [state]
      exact fun hpoint => hpoint
    | went goes =>
      have htotal := himport.agrees.total
      rw [goes.untotalled] at htotal
      obtain rfl := Option.some.inj (himport.here.symm.trans hbook)
      obtain ⟨-, total, hsome, -⟩ := job.isReadyToComplete_iff.mp hready
      rw [hsome] at htotal
      cases htotal
    | asked asks _ _ =>
      have hafter := after hbook
      have hstopped := himport'.agrees.cancelled
      generalize q.state = next at asks htotalled hstopped same ⊢
      cases asks with
      | counted _ =>
        rw [(Agrees.proceed_point _ _).1] at htotalled
        cases htotalled
      | totalled _ => exact .inl rfl
      | notDone _ => exact absurd hafter.symm (hcheck _)
      | completed _ => exact absurd hafter.symm (hcheck _)
      | confirmed at_ =>
        refine same hafter ?_
        rw [at_]
        exact fun hpoint => nomatch hpoint
      | stopped _ =>
        rw [hstopped rfl] at hprocessing
        cases hprocessing
      | _ => cases htotalled
    | handled state _ _ own asks _ next_ busy' =>
      have hafter := after hbook
      have hpoint : p.state.point = .completing → q.state.point = .completing := by
        rw [state]
        exact fun hpoint => hpoint
      cases asks with
      | counted => exact .inr ⟨_, _, _, _, next_, busy', own⟩
      | unchecked => exact absurd hafter.symm (hcheck _)
      | notDone => exact absurd hafter.symm (hcheck _)
      | completed => exact absurd hafter.symm (hcheck _)
      | _ => exact same hafter hpoint
    | cancelled _ _ =>
      have hafter := after hbook
      rw [← hafter] at hprocessing
      unfold Job.finished at hprocessing
      split at hprocessing
      · cases hprocessing
      · exact absurd hprocessing ‹_›
  · cases htotalled

theorem followed_opening (world : World) (workers : Nat) : (opening world workers).Followed := by
  intro i p job hp
  simp [opening] at hp

theorem followed_of_run {now : Instant} {jobs : JobTable} {errors : ErrorLog} {products : Catalogue}
    {capacity workers : Nat} {schedule : List Action}
    (run : (opening (.opening now jobs errors products capacity) workers).run schedule = some s) :
    s.Sound ∧ s.Followed := by
  refine run_invariant (P := fun s => s.Sound ∧ s.Followed) ?_ run
    ⟨sound_opening .., followed_opening _ workers⟩
  rintro a t t' step ⟨sound, followed⟩
  exact ⟨sound.step step, Followed.step followed sound step⟩

theorem held_of_drained (balanced : s.Balanced) (drained : s.world.bus.isDrained = true) :
    s.offered = [] ∧ s.held = [] := by
  have hzero := (Bus.isDrained_iff.mp drained).2
  have hsum := balanced.outstanding
  have hdeliveries : s.world.bus.deliveries = [] := List.length_eq_zero_iff.mp (by omega)
  refine ⟨?_, List.length_eq_zero_iff.mp (by omega)⟩
  unfold offered
  rw [hdeliveries]
  rfl

theorem not_busy_of_held (held_ : s.held = []) {j : Nat} {w : Worker} {d : Delivery} {stage : Stage}
    (at_ : s.workers[j]? = some w) : w.duty ≠ .busy d stage := by
  intro hbusy
  have hmem : d ∈ s.held :=
    List.mem_filterMap.mpr ⟨w, List.mem_of_getElem? at_, by rw [hbusy]; rfl⟩
  rw [held_] at hmem
  cases hmem

theorem uncounted_of_held (held_ : s.held = []) : s.uncounted = [] := by
  unfold uncounted
  rw [List.filterMap_eq_nil_iff]
  intro w hw
  obtain ⟨j, hj⟩ := List.mem_iff_getElem?.mp hw
  cases hduty : w.duty with
  | busy d stage => exact absurd hduty (not_busy_of_held held_ hj)
  | _ => rfl

/-- With the bus drained, what is not counted has been dropped. -/
theorem openFor_of_drained (sound : s.Sound) (drained : s.world.bus.isDrained = true)
    (delivered : ∀ chunk ∈ s.dropped, chunk.jobId ≠ id) : s.openFor id = [] := by
  obtain ⟨hoffered, hheld⟩ := held_of_drained sound.balanced drained
  unfold openFor
  rw [hoffered, uncounted_of_held hheld, sound.attended.ignored]
  rw [List.filter_eq_nil_iff]
  intro chunk hchunk
  have hdropped : chunk ∈ s.dropped := by simpa using hchunk
  simpa using delivered chunk hdropped

/-- At the end of a finished import with nothing open, all rows but the rejected ones that do not
count are accounted for. -/
theorem rowsAccounted_of_finished (sound : s.Sound) (himport : Import p (s.book p.jobId) job)
    (final : p.state.point.isFinal = true) (closed : s.openFor p.jobId = []) :
    job.rowsAccounted = (RowEvent.records p.source).length + p.settings.counted p.source ∧
      p.rowsRead = (RowEvent.records p.source).length + RowEvent.rejections p.source := by
  obtain ⟨hrecords, hflushed, hrows, -⟩ := himport.reads.final final
  have hcount : Chunk.rowCount (s.book p.jobId).published =
      Chunk.rowCount (s.book p.jobId).counted + Chunk.rowCount (s.openFor p.jobId) :=
    sound.balanced.rowCount_published p.jobId
  have hlength := congrArg List.length hrecords
  rw [List.length_flatMap] at hlength
  rw [closed, show Chunk.rowCount [] = 0 from rfl] at hcount
  unfold Chunk.rowCount at hcount
  refine ⟨?_, hrows⟩
  rw [himport.accounted, hflushed]
  unfold Chunk.rowCount
  omega

/-- With nobody left who would check, a job whose rows are all accounted for is completed. -/
theorem Followed.completed_of_accounted (followed : s.Followed)
    (himport : Import p (s.book p.jobId) job) (at_ : s.producers[i]? = some p)
    (finished : p.state.point = .ended .finished) (held_ : s.held = [])
    (kept : job.status ≠ .cancelled) (all : p.rowsRead ≤ job.rowsAccounted) :
    job.status = .completed := by
  have hfinal : p.state.point.isFinal = true := by
    rw [finished]
    rfl
  have hpositive : p.rowsRead ≠ 0 := himport.reads.rows hfinal
  have hrows : p.rowsRead = (RowEvent.records p.source).length + RowEvent.rejections p.source :=
    (himport.reads.final hfinal).2.2.1
  have htotal : job.totalRows = some p.rowsRead := by
    rw [himport.agrees.total, finished]
    rfl
  cases hstatus : job.status with
  | completed => rfl
  | pending => exact absurd hstatus himport.agrees.pending
  | processing =>
    have hready : job.isReadyToComplete = true :=
      job.isReadyToComplete_iff.mpr ⟨hstatus, _, htotal, by omega, all⟩
    rcases followed at_ himport.here hready with hcompleting | ⟨j, w, d, stored, hw, hbusy, -⟩
    · rw [finished] at hcompleting
      cases hcompleting
    · exact absurd hbusy (not_busy_of_held held_ hw)
  | failed =>
    have hfailed := himport.agrees.failed hstatus
    rw [finished] at hfailed
    cases hfailed
  | cancelled => exact absurd hstatus kept

theorem rejections_eq_zero_iff (events : List RowEvent) :
    RowEvent.rejections events = 0 ↔ ∀ event ∈ events, event.isRejected = false := by
  unfold RowEvent.rejections
  rw [List.countP_eq_zero]
  simp

/-- The job of a producer that has finished, with nothing left that could be counted. -/
theorem Followed.completed (followed : s.Followed) (sound : s.Sound)
    (at_ : s.producers[i]? = some p) (finished : p.outcome? = some .finished)
    (known : s.world.jobs.get? p.jobId = some job) (kept : job.status ≠ .cancelled)
    (drained : s.world.bus.isDrained = true)
    (delivered : ∀ chunk ∈ s.dropped, chunk.jobId ≠ p.jobId) :
    (p.settings.parseFailures = .count → job.status = .completed ∧
      job.totalRows = some (job.processedRows + job.failedRows)) ∧
    (p.settings.parseFailures = .logOnly →
      (job.status = .completed ↔ ∀ event ∈ p.source, event.isRejected = false)) := by
  have himport := sound.import_of_get at_ known
  have hpoint : p.state.point = .ended .finished := by
    unfold Producer.outcome? at finished
    split at finished
    · rename_i outcome hpoint
      rw [hpoint, Option.some.inj finished]
    · cases finished
  have hfinal : p.state.point.isFinal = true := by
    rw [hpoint]
    rfl
  obtain ⟨haccounted, hrows⟩ := rowsAccounted_of_finished sound himport hfinal
    (openFor_of_drained sound drained delivered)
  have htotal : job.totalRows = some p.rowsRead := by
    rw [himport.agrees.total, hpoint]
    rfl
  have hcompleted (all : p.rowsRead ≤ job.rowsAccounted) : job.status = .completed :=
    Followed.completed_of_accounted followed himport at_ hpoint
      (held_of_drained sound.balanced drained).2 kept all
  constructor
  · intro hcount
    have hall : job.rowsAccounted = p.rowsRead := by
      rw [haccounted, hrows]
      unfold ImportSettings.counted
      rw [hcount]
    refine ⟨hcompleted (Int.le_of_eq hall.symm), ?_⟩
    rw [htotal, ← hall]
    rfl
  · intro hlog
    have hcounted : p.settings.counted p.source = 0 := by
      unfold ImportSettings.counted
      rw [hlog]
    rw [← rejections_eq_zero_iff]
    constructor
    · intro hstatus
      have hsum := (himport.of_completed sound hstatus).1
      rw [htotal] at hsum
      have heq := Option.some.inj hsum
      omega
    · intro hzero
      exact hcompleted (by omega)

/-- The job of a producer that has finished, on a closed bus that has drained and dropped no chunk
of it: completed if all rejected rows count, and else unless there are any. -/
theorem completion_never_lost {now : Instant} {jobs : JobTable} {errors : ErrorLog}
    {products : Catalogue} {capacity workers : Nat} {schedule : List Action}
    (run : (opening (.opening now jobs errors products capacity) workers).run schedule = some s)
    (at_ : s.producers[i]? = some p) (finished : p.outcome? = some .finished)
    (known : s.world.jobs.get? p.jobId = some job) (kept : job.status ≠ .cancelled)
    (drained : s.world.bus.isDrained = true)
    (delivered : ∀ chunk ∈ s.dropped, chunk.jobId ≠ p.jobId) :
    (p.settings.parseFailures = .count → job.status = .completed ∧
      job.totalRows = some (job.processedRows + job.failedRows)) ∧
    (p.settings.parseFailures = .logOnly →
      (job.status = .completed ↔ ∀ event ∈ p.source, event.isRejected = false)) := by
  obtain ⟨sound, followed⟩ := followed_of_run run
  exact Followed.completed followed sound at_ finished known kept drained delivered

/-- The import of the mug, until its worker is told that nothing more will come. -/
def mugToTheEnd : List Action := mugSchedule ++ .close :: List.replicate 3 (.work 0)

theorem mug_import_completed : ∃ s p job,
    (opening (.opening ⟨0, 0⟩ .empty .empty .empty 1) 1).run mugToTheEnd = some s ∧
      s.producers[0]? = some p ∧ s.world.jobs.get? p.jobId = some job ∧
      job.status = .completed ∧ job.totalRows = some (job.processedRows + job.failedRows) := by
  have hend : ((opening (.opening ⟨0, 0⟩ .empty .empty .empty 1) 1).run mugToTheEnd).any (fun s =>
      s.dropped.isEmpty && s.world.bus.isDrained && s.producers[0]?.any fun p =>
        p.outcome? = some .finished && p.settings.parseFailures = .count &&
          (s.world.jobs.get? p.jobId).any (·.status ≠ .cancelled)) = true := by decide
  obtain ⟨s, hs, hend⟩ := (Option.any_eq_true _ _).mp hend
  rw [Bool.and_eq_true, Bool.and_eq_true] at hend
  obtain ⟨⟨hdropped, hdrained⟩, hend⟩ := hend
  obtain ⟨p, hp, hend⟩ := (Option.any_eq_true _ _).mp hend
  rw [Bool.and_eq_true, Bool.and_eq_true] at hend
  obtain ⟨⟨hfinished, hcount⟩, hend⟩ := hend
  obtain ⟨job, hjob, hkept⟩ := (Option.any_eq_true _ _).mp hend
  have hdelivered : ∀ chunk ∈ s.dropped, chunk.jobId ≠ p.jobId := by
    rw [List.isEmpty_iff.mp hdropped]
    exact fun chunk hchunk => by cases hchunk
  exact ⟨s, p, job, hs, hp, hjob, (completion_never_lost hs hp (of_decide_eq_true hfinished) hjob
    (of_decide_eq_true hkept) hdrained hdelivered).1 (of_decide_eq_true hcount)⟩

end System

end Concurrency

end CatalogIntake
