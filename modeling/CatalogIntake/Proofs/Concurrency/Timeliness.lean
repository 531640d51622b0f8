import CatalogIntake.Proofs.Concurrency.Accounts

/-!
A job is never completed early. Its counters do not run ahead of its producer, its total is what the
producer has read in the end, and once it is completed nothing that was published for it is still to
be counted, so that no worker finds it completed with rows of it in hand.
-/

namespace CatalogIntake.Concurrency

variable {a : Action} {s s' : System} {i : Nat} {p p' : Producer} {job : Job}

namespace Import

theorem rowsAccounted_le (h : Import p (s.book p.jobId) job) (sound : s.Sound) :
    job.rowsAccounted ≤ p.rowsRead := by
  have hcount : Chunk.rowCount (s.book p.jobId).published =
      Chunk.rowCount (s.book p.jobId).counted + Chunk.rowCount (s.openFor p.jobId) :=
    sound.balanced.rowCount_published p.jobId
  calc job.rowsAccounted
      = Chunk.rowCount (s.book p.jobId).counted + (s.book p.jobId).flushed := h.accounted
    _ ≤ Chunk.rowCount (s.book p.jobId).published + (s.book p.jobId).flushed := by omega
    _ ≤ p.rowsRead := h.reads.rows_le

theorem total_eq {total : Int} {b : Book} (h : Import p b job)
    (known : job.totalRows = some total) :
    p.state.point.isTotalled = true ∧ total = p.rowsRead := by
  have htotal := h.agrees.total
  rw [known] at htotal
  split at htotal
  · rename_i hpoint
    exact ⟨hpoint, Option.some.inj htotal⟩
  · cases htotal

/-- When the counters have come up to the number of rows read, nothing is open. -/
theorem open_of_accounted (h : Import p (s.book p.jobId) job) (sound : s.Sound)
    (all : p.rowsRead ≤ job.rowsAccounted) : s.openFor p.jobId = [] := by
  have hle := h.reads.rows_le
  have hcount : Chunk.rowCount (s.book p.jobId).published =
      Chunk.rowCount (s.book p.jobId).counted + Chunk.rowCount (s.openFor p.jobId) :=
    sound.balanced.rowCount_published p.jobId
  have hzero : Chunk.rowCount (s.openFor p.jobId) = 0 := by
    rw [h.accounted] at all
    unfold Producer.rowsRead at all
    omega
  rw [List.eq_nil_iff_forall_not_mem]
  intro chunk hchunk
  have hpublished : chunk ∈ s.published p.jobId :=
    (sound.balanced.published_perm _).mem_iff.mpr (List.mem_append_right _ hchunk)
  have hlength : chunk.records.length = 0 :=
    List.sum_eq_zero_iff_forall_eq_nat.mp hzero _ (List.mem_map_of_mem hchunk)
  have hnil : chunk.records = [] := List.length_eq_zero_iff.mp hlength
  exact h.reads.nonempty chunk hpublished hnil

theorem of_completed (h : Import p (s.book p.jobId) job) (sound : s.Sound)
    (completed : job.status = .completed) :
    job.totalRows = some job.rowsAccounted ∧ s.openFor p.jobId = [] := by
  obtain ⟨total, htotal, -, hle⟩ := h.agrees.completed completed
  obtain ⟨-, rfl⟩ := h.total_eq htotal
  have hge := h.rowsAccounted_le sound
  refine ⟨?_, h.open_of_accounted sound hle⟩
  rw [htotal, Int.le_antisymm hle hge]

end Import

theorem System.Sound.import_of_get (sound : s.Sound) (at_ : s.producers[i]? = some p)
    (known : s.world.jobs.get? p.jobId = some job) : Import p (s.book p.jobId) job := by
  obtain ⟨job', himport⟩ := sound.imports at_
  obtain rfl : job' = job := Option.some.inj (himport.here.symm.trans known)
  exact himport

namespace System

def Prompt (s : System) : Prop :=
  ∀ {j : Nat} {w : Worker} {d : Delivery} {i : Nat} {p : Producer}, s.workers[j]? = some w →
    s.producers[i]? = some p → d.chunk.jobId = p.jobId → w.duty ≠ .busy d (.loaded .completed)

theorem Prompt.step (h : s.Prompt) (sound : s.Sound) (step : Step s a s') : s'.Prompt := by
  intro j v d i p' at_ hp' hid busy
  have hcomes := step.comes at_ busy
  rcases step.origin hp' with ⟨p, hp⟩ | ⟨-, _, id, _, rfl, fresh, -⟩
  · obtain ⟨q, hq, -, -, hjob, -⟩ := step.continues sound.registered hp
    obtain rfl : q = p' := Option.some.inj (hq.symm.trans hp')
    rw [hjob] at hid
    generalize hstage : Stage.loaded JobStatus.completed = stage at hcomes
    cases hcomes with
    | stays hw hbusy => exact h hw hp hid (hstage ▸ hbusy)
    | received _ => cases hstage
    | goes _ _ goes => cases goes <;> cases hstage
    | asks hw hbusy asks replies _ =>
      cases asks with
      | @found job =>
        have hstatus := Stage.loaded.inj hstage
        rw [World.answer_getJob] at replies
        have hknown : s.world.jobs.get? p.jobId = some job := by
          rw [← hid]
          exact Except.ok.inj replies
        -- a completed job has nothing open, but this chunk was
        have hnil := ((sound.import_of_get hp hknown).of_completed sound hstatus.symm).2
        have hopen := mem_openFor_of_busy hw hbusy rfl
        rw [hid, hnil] at hopen
        cases hopen
      | _ => cases hstage
  · -- the chunk in hand is of a known job, and this one is fresh
    have hknown : (s.world.jobs.get? d.chunk.jobId).isSome = true := by
      generalize hstage : Stage.loaded JobStatus.completed = stage at hcomes
      cases hcomes with
      | stays hw hbusy =>
        exact sound.registered.known_of_open sound.balanced
          (mem_openFor_of_busy hw hbusy (hstage ▸ rfl))
      | received _ => cases hstage
      | goes _ _ goes => cases goes <;> cases hstage
      | asks hw hbusy asks _ _ =>
        cases asks with
        | found =>
          exact sound.registered.known_of_open sound.balanced (mem_openFor_of_busy hw hbusy rfl)
        | _ => cases hstage
    rw [hid, show (Producer.start _ id _).jobId = id from rfl, fresh] at hknown
    cases hknown

theorem prompt_opening (world : World) (workers : Nat) : (opening world workers).Prompt := by
  intro j w d i p _ hp
  simp [opening] at hp

theorem sound_of_run {now : Instant} {jobs : JobTable} {errors : ErrorLog} {products : Catalogue}
    {capacity workers : Nat} {schedule : List Action}
    (run : (opening (.opening now jobs errors products capacity) workers).run schedule = some s) :
    s.Sound ∧ s.Prompt := by
  refine run_invariant (P := fun s => s.Sound ∧ s.Prompt) ?_ run
    ⟨sound_opening .., prompt_opening _ workers⟩
  rintro a t t' step ⟨sound, prompt⟩
  exact ⟨sound.step step, Prompt.step prompt sound step⟩

theorem totalRows_after {total : Int} (h : job.totalRows = some total) (now : Instant) (c : Call)
    (answer : c.Answer) : (Job.after now c answer job).totalRows = some total := by
  cases c with
  | finalizeTotal id rows =>
    show (job.totalled rows).totalRows = some total
    unfold Job.totalled
    rw [h]
    exact h
  | increment id processed failed => cases answer <;> exact h
  | completeIfDone id => exact (job.checked_totalRows now).trans h
  | failJob id reason => exact (job.finished_totalRows _ _ now).trans h
  | cancelJob id => exact (job.finished_totalRows _ _ now).trans h
  | _ => exact h

theorem Turn.totalRows {b b' : Book} {total : Int} (turn : Turn s a s' p p' b b')
    (here : b.job = some job) (h : job.totalRows = some total) :
    ∃ job', b'.job = some job' ∧ job'.totalRows = some total := by
  cases turn with
  | rested _ => exact ⟨job, here, h⟩
  | went _ => exact ⟨job, here, h⟩
  | @asked c answer _ _ _ =>
    exact ⟨_, congrArg (Option.map _) here, totalRows_after h s.world.now c answer⟩
  | @handled j _ _ d _ _ c answer _ _ _ _ _ _ _ _ =>
    exact ⟨_, congrArg (Option.map _) here, totalRows_after h s.world.now c answer⟩
  | cancelled _ _ =>
    exact ⟨_, congrArg (Option.map _) here, (job.finished_totalRows _ _ s.world.now).trans h⟩

/-- In every later system the total is the same, and it is the number of rows that the producer has
read. -/
theorem total_stays {later : List Action} {total : Int} (sound : s.Sound)
    (at_ : s.producers[i]? = some p) (known : s.world.jobs.get? p.jobId = some job)
    (totalled : job.totalRows = some total) (run : s.run later = some s') :
    ∃ p' job', s'.producers[i]? = some p' ∧ p'.jobId = p.jobId ∧
      s'.world.jobs.get? p.jobId = some job' ∧ job'.totalRows = some total ∧
      p'.rowsRead = total := by
  have hstays : s'.Sound ∧ ∃ p' job', s'.producers[i]? = some p' ∧ p'.jobId = p.jobId ∧
      (s'.book p'.jobId).job = some job' ∧ job'.totalRows = some total := by
    refine run_invariant (P := fun s' => s'.Sound ∧ ∃ p' job', s'.producers[i]? = some p' ∧
      p'.jobId = p.jobId ∧ (s'.book p'.jobId).job = some job' ∧ job'.totalRows = some total)
      ?_ run ⟨sound, p, job, at_, rfl, known, totalled⟩
    rintro a t t' step ⟨tsound, q, qjob, hq, hid, hjob, htotal⟩
    obtain ⟨q', hq', -, -, hid', turn⟩ := step.continues tsound.registered hq
    obtain ⟨qjob', hjob', htotal'⟩ := turn.totalRows hjob htotal
    refine ⟨tsound.step step, q', qjob', hq', hid'.trans hid, ?_, htotal'⟩
    rw [hid']
    exact hjob'
  obtain ⟨sound', p', job', hp', hid, hjob, htotal⟩ := hstays
  have himport := sound'.import_of_get hp' hjob
  refine ⟨p', job', hp', hid, hid ▸ hjob, htotal, ?_⟩
  exact (himport.total_eq htotal).2.symm

/-- The job of the producer at `i` is neither over-counted nor completed early. -/
structure InTime (s : System) (i : Nat) (p : Producer) (job : Job) : Prop where
  counters : job.processedRows + job.failedRows ≤ p.rowsRead
  /-- The total is what the producer has read in the end. -/
  total : ∀ {total : Int} {later : List Action} {s' : System}, job.totalRows = some total →
    s.run later = some s' → ∃ p' job', s'.producers[i]? = some p' ∧ p'.jobId = p.jobId ∧
      s'.world.jobs.get? p.jobId = some job' ∧ job'.totalRows = some total ∧ p'.rowsRead = total
  completed : job.status = .completed →
    job.totalRows = some (job.processedRows + job.failedRows) ∧
      (s.published p.jobId).Perm (s.countedFor p.jobId)
  /-- No worker finds the job completed, so that no row is refused for that. -/
  prompt : ∀ {j : Nat} {w : Worker} {d : Delivery}, s.workers[j]? = some w →
    d.chunk.jobId = p.jobId → w.duty ≠ .busy d (.loaded .completed)

/-- Producers, workers, outages, cancellations and the closing of the bus may come in any order. -/
theorem import_never_early {now : Instant} {jobs : JobTable} {errors : ErrorLog}
    {products : Catalogue} {capacity workers : Nat} {schedule : List Action}
    (run : (opening (.opening now jobs errors products capacity) workers).run schedule = some s)
    (at_ : s.producers[i]? = some p) :
    ∃ job, s.world.jobs.get? p.jobId = some job ∧ InTime s i p job := by
  obtain ⟨sound, prompt⟩ := sound_of_run run
  obtain ⟨job, himport⟩ := sound.imports at_
  refine ⟨job, himport.here, ?_⟩
  constructor
  · exact himport.rowsAccounted_le sound
  · intro total later s' htotal hlater
    exact total_stays sound at_ himport.here htotal hlater
  · intro hcompleted
    obtain ⟨htotal, hopen⟩ := himport.of_completed sound hcompleted
    have hperm := sound.balanced.published_perm p.jobId
    rw [hopen, List.append_nil] at hperm
    exact ⟨htotal, hperm⟩
  · intro j w d hw hid
    exact prompt hw at_ hid

section Mug

def mug : ProductRecord where
  rowNumber := some 1
  internalId := "M1"
  name := "Mug"
  description := ""
  brand := ""
  category := ""
  price := ⟨5, 0⟩
  currency := "EUR"
  stock := 3
  ean := ""
  color := ""
  size := ""
  availability := ""

/-- A mug and a row that gives no record. The mug is counted before the total is written. -/
def mugSchedule : List Action :=
  [.start { chunkSize := 1 } ⟨7⟩ [.parsed mug, .rejected 2 "too few fields" none],
    .read 0, .read 0] ++
  List.replicate 10 (.produce 0) ++ List.replicate 6 (.work 0) ++ List.replicate 3 (.produce 0)

theorem mug_import_in_time : ∃ s p,
    (opening (.opening ⟨0, 0⟩ .empty .empty .empty 1) 1).run mugSchedule = some s ∧
      s.producers[0]? = some p ∧
      ∃ job, s.world.jobs.get? p.jobId = some job ∧ InTime s 0 p job := by
  obtain ⟨s, hs⟩ : ∃ s, (opening (.opening ⟨0, 0⟩ .empty .empty .empty 1) 1).run mugSchedule =
      some s := Option.isSome_iff_exists.mp (by decide)
  obtain ⟨p, hp⟩ : ∃ p, s.producers[0]? = some p := by
    have hsome : (((opening (.opening ⟨0, 0⟩ .empty .empty .empty 1) 1).run mugSchedule).bind
        (·.producers[0]?)).isSome = true := by decide
    rw [hs] at hsome
    exact Option.isSome_iff_exists.mp hsome
  exact ⟨s, p, hs, hp, import_never_early hs hp⟩

end Mug

end System

end CatalogIntake.Concurrency
