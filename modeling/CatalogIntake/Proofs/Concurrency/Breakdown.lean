import CatalogIntake.Proofs.Concurrency.Cancellation
import CatalogIntake.Proofs.Concurrency.Diagnostics
import CatalogIntake.Proofs.Concurrency.Evidence
import CatalogIntake.Proofs.Concurrency.Progress
import CatalogIntake.Proofs.Concurrency.Refusals

/-!
Imports that break off. Whatever the order of steps, a source with a fault is published up to the
last full chunk before it, and a chunk that the bus refuses too often is the first that is not
published; the job has failed then, and of the records that were not published nothing gets into
the stores.
-/

namespace CatalogIntake

namespace Job

theorem status_after_ne_cancelled {now : Instant} {c : Call} {answer : c.Answer} {job : Job}
    (kept : job.status ≠ .cancelled) (cancels : ∀ id, c ≠ .cancelJob id) :
    (after now c answer job).status ≠ .cancelled := by
  cases c with
  | finalizeTotal id total =>
    simp only [after, totalled]
    split <;> exact kept
  | increment id processed failed => cases answer <;> exact kept
  | completeIfDone id =>
    simp only [after, checked]
    split
    · exact fun h => by cases h
    · exact kept
  | failJob id reason =>
    simp only [after, finished]
    split
    · exact fun h => by cases h
    · exact kept
  | cancelJob id => exact absurd rfl (cancels id)
  | _ => exact kept

end Job

/-- Until the total is written or the job failed, a job that nobody cancels is in progress. -/
theorem Agrees.processing {p : Producing} {job : Job} (h : Agrees p job)
    (kept : job.status ≠ .cancelled) (untotalled : p.point.isTotalled = false)
    (unfailed : p.point.isFailed = false) : job.status = .processing := by
  cases hstatus : job.status with
  | processing => rfl
  | pending => exact absurd hstatus h.pending
  | completed =>
    obtain ⟨total, htotal, -⟩ := h.completed hstatus
    rw [h.total, untotalled] at htotal
    cases htotal
  | failed =>
    rw [h.failed hstatus] at unfailed
    cases unfailed
  | cancelled => exact absurd hstatus kept

namespace Concurrency

structure Straight (p : Producer) (b : Book) (refused : Nat → Nat) (job : Job) : Prop where
  here : b.job = some job
  kept : job.status ≠ .cancelled
  failed : ∀ reason, p.state.point = .ended (.failed reason) → job.status = .failed ∧
    job.endTime.isSome = true ∧ job.failureReason = some reason
  cuts : Cuts p.settings p.source b.published b.flushed refused p.state

namespace Straight

variable {a : Action} {s s' : System} {p p' : Producer} {b b' : Book} {job : Job}
  {refused refused' : Nat → Nat} {settings : ImportSettings}

theorem start (jobId : JobId) (source : List RowEvent) (now : Instant)
    (size : 1 ≤ settings.chunkSize) :
    Straight (.start settings jobId source) ⟨some (Job.started jobId now), [], [], 0⟩ (fun _ => 0)
      (Job.started jobId now) where
  here := rfl
  kept := fun h => by cases h
  failed := fun _ h => by cases h
  cuts := .start jobId size

theorem failed_of_asks {next : Producing} {c : Call} {answer : c.Answer} {reason : String}
    (himport : Import p b job) (kept : job.status ≠ .cancelled)
    (asks : Producing.Asks p.settings p.state c answer next) (now : Instant)
    (point : next.point = .ended (.failed reason)) :
    (Job.after now c answer job).status = .failed ∧
      (Job.after now c answer job).endTime.isSome = true ∧
      (Job.after now c answer job).failureReason = some reason := by
  cases asks with
  | @failed full outcome at_ =>
    have hprocessing := himport.agrees.processing kept (by rw [at_]; rfl) (by rw [at_]; rfl)
    obtain rfl := ProducerOutcome.failed.inj (Point.ended.inj point)
    have hafter : Job.after now (.failJob p.state.run.jobId (Text.boundedErrorMessage full)) outcome
        job = { job with
          status := .failed
          endTime := some now
          failureReason :=
            some (Text.boundedErrorMessage (Text.boundedErrorMessage full)) } := if_pos hprocessing
    rw [hafter]
    exact ⟨rfl, rfl, congrArg some (Text.boundedErrorMessage_boundedErrorMessage full)⟩
  | counted _ => exact absurd point (Producing.proceed_ne_ended _ _)
  | _ => cases point

theorem turn (h : Straight p (s.book p.jobId) refused job)
    (available : s.world.Available) (size : 1 ≤ p.settings.chunkSize)
    (himport : Import p (s.book p.jobId) job) (settings : p'.settings = p.settings)
    (source : p'.source = p.source) (uncancelled : a ≠ .cancel p.jobId)
    (turn : System.Turn s a s' p p' (s.book p.jobId) b')
    (hears : p.state.point.Hears p'.state.point (placeBehind s.taken) refused refused') :
    ∃ job', Straight p' b' refused' job' := by
  have known : s.world.jobs.get? p.state.run.jobId = some job := h.here
  -- the refusals grow only where the producer hears of one
  cases turn with
  | rested state =>
    rw [hears.quiet (by rw [state]; exact Point.refusal?_self _)]
    refine ⟨job, h.here, h.kept, ?_, ?_⟩
    · rw [state]
      exact h.failed
    · rw [settings, source, state]
      exact h.cuts
  | went goes =>
    rw [hears.quiet goes.silent]
    refine ⟨job, h.here, h.kept, ?_, ?_⟩
    · intro reason hpoint
      exact absurd hpoint (goes.next_ne_ended _)
    · rw [settings, source]
      exact h.cuts.goes himport.reads size goes
  | @asked c answer asks replies _ =>
    refine ⟨Job.after s.world.now c answer job, congrArg (Option.map _) h.here, ?_, ?_, ?_⟩
    · refine Job.status_after_ne_cancelled h.kept ?_
      rintro id rfl
      cases asks
    · exact fun reason hpoint => failed_of_asks himport h.kept asks s.world.now hpoint
    · rw [settings, source]
      refine h.cuts.asks himport.reads size asks available known ?_ replies hears ?_
      · exact himport.agrees.processing h.kept
      · intro chunk own
        rw [placeBehind, own]
        rfl
  | @handled j w _ d stage next c answer state at_ busy own asks replies _ _ =>
    rw [hears.quiet (by rw [state]; exact Point.refusal?_self _)]
    refine ⟨Job.after s.world.now c answer job, congrArg (Option.map _) h.here, ?_, ?_, ?_⟩
    · refine Job.status_after_ne_cancelled h.kept ?_
      rintro id rfl
      cases asks
    · intro reason hpoint
      rw [state] at hpoint
      obtain ⟨hstatus, hend, hreason⟩ := h.failed reason hpoint
      have hterminal : job.isTerminal = true := by
        rw [Job.isTerminal, hstatus]
        rfl
      obtain ⟨hstatus', hend', hreason'⟩ :=
        (job.precedes_after s.world.now c answer).final hterminal
      exact ⟨hstatus'.trans hstatus, by rw [hend', hend], hreason'.trans hreason⟩
    · rw [settings, source, state]
      exact h.cuts
  | cancelled _ action => exact absurd action uncancelled

/-- Short of the last window, what has been published is a beginning of the records. -/
theorem records_published (h : Straight p b refused job)
    (within : p.state.point.isBeyond = false) :
    b.published.flatMap (·.records) =
      (RowEvent.records p.source).take (b.published.length * p.settings.chunkSize) :=
  (congrArg (List.flatMap (·.records)) (h.cuts.slices within)).trans Chunk.flatMap_slices

/-- A source that is read to its end is clean, and the bus has not refused any of its chunks too
often; where the producer does not come to its end, there is a reason. -/
theorem breaksOff {outcome : ProducerOutcome} (h : Straight p b refused job)
    (himport : Import p b job) (ended : p.state.point = .ended outcome) :
    (RowEvent.firstFault? p.source = none ∧ ∀ n, refused n ≤ p.settings.publishRetries) ∨
      ∃ reason, p.state.point = .ended (.failed (Text.boundedErrorMessage reason)) ∧
        BreakOff p.settings p.source refused b.published.length reason := by
  cases outcome with
  | finished =>
    left
    have hlasts : p.state.point.isFailing = false := by
      rw [ended]
      rfl
    obtain ⟨read, hsource, hclean⟩ := h.cuts.clean hlasts
    rw [himport.reads.unread (by rw [ended]; rfl)] at hsource
    refine ⟨?_, (h.cuts.refusals hlasts).1⟩
    rw [hsource]
    exact RowEvent.firstFault?_append hclean
  | cancelled =>
    have hstopped := h.cuts.stopped
    rw [ended] at hstopped
    cases hstopped
  | failed kept =>
    right
    obtain ⟨reason, rfl, breaks⟩ := h.cuts.reason kept (by rw [ended]; rfl)
    exact ⟨reason, ended, breaks⟩

end Straight

namespace System

variable {a : Action} {s s' : System} {i : Nat} {p : Producer} {job : Job} {id : JobId}
  {jobs : JobTable} {errors : ErrorLog}

/-- What workers have stored for a job comes from records that have been published for it. -/
def Sourced (s : System) (id : JobId) : Prop :=
  ∀ product ∈ s.insertedFor id, ∃ record ∈ (s.published id).flatMap (·.records),
    Product.ofRecord record = .ok product

theorem Sourced.step (h : s.Sourced id) (sound : s.Sound) (traceable : s.Traceable)
    (step : Step s a s') : s'.Sourced id := by
  have of_published {chunk : Chunk} {record : ProductRecord} (published : chunk ∈ s.published id)
      (member : record ∈ chunk.records) : record ∈ (s'.published id).flatMap (·.records) :=
    List.mem_flatMap.mpr ⟨chunk, step.mem_published published, member⟩
  have kept (product : Product) (stored : product ∈ s.insertedFor id) :
      ∃ record ∈ (s'.published id).flatMap (·.records), Product.ofRecord record = .ok product := by
    obtain ⟨record, hrecord, maps⟩ := h product stored
    obtain ⟨chunk, published, member⟩ := List.mem_flatMap.mp hrecord
    exact ⟨record, of_published published member, maps⟩
  intro product stored
  cases step.bearing id with
  | nothing _ _ inserted _ _ | asked _ _ _ _ inserted _ _ =>
    rw [inserted] at stored
    exact kept product stored
  | handled at_ busy own asks _ inserted _ _ =>
    rw [inserted] at stored
    rcases List.mem_append.mp stored with stored | stored
    · exact kept product stored
    · obtain ⟨uncounted_, record, member, maps⟩ := (traceable.duties at_ busy).inserted asks stored
      have htaken := taken_of_busy sound.balanced at_ busy uncounted_
      exact ⟨record, of_published (List.mem_filter.mpr ⟨htaken, decide_eq_true own⟩) member, maps⟩

/-- From this log, the stores have answered so far and nobody has cancelled the job. -/
structure Direct (id : JobId) (jobs : JobTable) (errors : ErrorLog) (s : System) : Prop where
  sound : s.Sound
  served : s.Served
  unrefused : s.Unrefused
  traceable : s.Traceable
  bounded : s.Bounded jobs errors
  sourced : s.Sourced id
  straight : ∀ {i : Nat} {p : Producer}, s.producers[i]? = some p → p.jobId = id →
    1 ≤ p.settings.chunkSize → ∃ job, Straight p (s.book p.jobId) (s.refusals i) job

theorem Direct.step (h : s.Direct id jobs errors) (on : a.isOutage = false)
    (uncancelled : a ≠ .cancel id) (step : Step s a s') : s'.Direct id jobs errors where
  sound := h.sound.step step
  served := h.served.step h.sound on step
  unrefused := Unrefused.step h.unrefused step
  traceable := h.traceable.step h.sound step
  bounded := h.bounded.step h.traceable h.sound step
  sourced := h.sourced.step h.sound h.traceable step
  straight := by
    intro i p' at' own size
    rcases step.origin at' with ⟨p, at_⟩ | ⟨rfl, settings, jobId, source, rfl, fresh, history, jobs⟩
    · obtain ⟨q, hq, settings, source, jobId, turn⟩ := step.continues h.sound.registered at_
      obtain rfl : q = p' := Option.some.inj (hq.symm.trans at')
      rw [settings] at size
      rw [jobId] at own ⊢
      obtain ⟨job, straight⟩ := h.straight at_ own size
      exact straight.turn h.served.available size (h.sound.import_of_get at_ straight.here) settings
        source (own ▸ uncancelled) turn (step.hears at_ at')
    · have hrefusals : s'.refusals s.producers.length = fun _ => 0 := by
        funext n
        have absent : s.producers[s.producers.length]? = none :=
          List.getElem?_eq_none (Nat.le_refl _)
        exact (refusals_congr history).trans (h.unrefused absent n)
      refine ⟨Job.started jobId s.world.now, ?_⟩
      show Straight (.start settings jobId source) (s'.book jobId) _ _
      rw [h.sound.registered.book_started fresh history jobs, hrefusals]
      exact .start jobId source s.world.now size

theorem direct_opening {now : Instant} {products : Catalogue} {capacity : Nat}
    (available : (World.opening now jobs errors products capacity).Available) (workers : Nat) :
    (opening (.opening now jobs errors products capacity) workers).Direct id jobs errors where
  sound := sound_opening ..
  served := served_opening available workers
  unrefused := unrefused_opening _ workers
  traceable := traceable_opening _ workers
  bounded := ⟨⟨[], (List.append_nil _).symm, fun e he => by cases he⟩,
    fun known given => .inl ⟨_, known, given⟩⟩
  sourced := fun _ stored => by cases stored
  straight := fun at_ => by simp [opening] at at_

/-- The entry is about a row that gave no record, or about one of the first records. -/
inductive Concerns (source : List RowEvent) (count : Nat) (e : ErrorEntry) : Prop
  | rejected {rowNumber : Int} {message : String} {raw : Option String}
      (row : .rejected rowNumber message raw ∈ source) (number : e.rowNumber = some rowNumber) :
      Concerns source count e
  | refused {record : ProductRecord} (member : record ∈ (RowEvent.records source).take count)
      (number : e.rowNumber = record.rowNumber) : Concerns source count e

/-- Where rows have their numbers to themselves, it is not about a later record. -/
theorem Concerns.rowNumber_ne {source : List RowEvent} {count : Nat} {e : ErrorEntry}
    (h : Concerns source count e) (numbered : RowEvent.IsNumbered source) {record : ProductRecord}
    (later : record ∈ (RowEvent.records source).drop count) : e.rowNumber ≠ record.rowNumber := by
  cases h with
  | rejected row number =>
    rw [number]
    exact (numbered.rejected row (List.mem_of_mem_drop later)).symm
  | refused member number =>
    have hdistinct := numbered.records
    rw [← List.take_append_drop count (RowEvent.records source)] at hdistinct
    rw [number]
    exact (List.pairwise_append.mp hdistinct).2.2 _ member _ later

/-- What comes of an import that breaks off for this reason with so many chunks published. -/
structure BrokenOff (errors : ErrorLog) (s : System) (p : Producer) (job : Job) (chunks : Nat)
    (reason : String) : Prop where
  published : s.published p.jobId =
    Chunk.slices p.jobId p.settings.chunkSize (RowEvent.records p.source) chunks
  full : ∀ chunk ∈ s.published p.jobId, chunk.records.length = p.settings.chunkSize
  outcome : p.outcome? = some (.failed (Text.boundedErrorMessage reason))
  status : job.status = .failed
  endTime : job.endTime.isSome = true
  totalRows : job.totalRows = none
  failureReason : job.failureReason = some (Text.boundedErrorMessage reason)
  /-- The rejected rows that count are flushed, but for those that were pending and those that
  were not read. -/
  flushed : s.flushed p.jobId + p.state.run.pendingErrors.length +
    p.settings.counted p.state.unread = p.settings.counted p.source
  accounted : s.world.bus.isDrained = true → job.processedRows + job.failedRows =
    Chunk.rowCount (s.published p.jobId) + s.flushed p.jobId
  stored : ∀ product ∈ s.insertedFor p.jobId,
    ∃ record ∈ (RowEvent.records p.source).take (chunks * p.settings.chunkSize),
      Product.ofRecord record = .ok product
  logged : ∃ added, s.world.errors.entries = errors.entries ++ added ∧
    ∀ e ∈ added, e.jobId = p.jobId → Concerns p.source (chunks * p.settings.chunkSize) e
  /-- Of a file, no record behind the published ones is in the log. -/
  discarded : ∀ path found, p.source = RowEvent.ofPath path found →
    ∃ added, s.world.errors.entries = errors.entries ++ added ∧ ∀ e ∈ added, e.jobId = p.jobId →
      ∀ record ∈ (RowEvent.records p.source).drop (chunks * p.settings.chunkSize),
        e.rowNumber ≠ record.rowNumber

/-- What a job has got logged is about rejected rows and published records. -/
theorem Direct.logged {count : Nat} (h : s.Direct p.jobId jobs errors)
    (at_ : s.producers[i]? = some p)
    (published : (s.published p.jobId).flatMap (·.records) =
      (RowEvent.records p.source).take count) :
    ∃ added, s.world.errors.entries = errors.entries ++ added ∧
      ∀ e ∈ added, e.jobId = p.jobId → Concerns p.source count e := by
  obtain ⟨added, hentries, hadded⟩ := h.bounded.entries
  refine ⟨added, hentries, ?_⟩
  intro e he own
  cases hadded e he with
  | rejected at' own' row number _ _ =>
    have hsame := h.sound.registered.distinct at_ at' (own'.trans own).symm
    subst hsame
    obtain rfl := Option.some.inj (at_.symm.trans at')
    exact .rejected row number
  | @refused chunk _ _ _ sent member _ number _ _ _ _ =>
    rw [own] at sent
    refine .refused ?_ number
    rw [← published]
    exact List.mem_flatMap.mpr ⟨chunk, sent, member⟩

theorem Direct.brokenOff {refused : Nat → Nat} {kept reason : String}
    (h : s.Direct p.jobId jobs errors) (at_ : s.producers[i]? = some p)
    (straight : Straight p (s.book p.jobId) refused job)
    (ended : p.state.point = .ended (.failed kept))
    (bounded : kept = Text.boundedErrorMessage reason) :
    BrokenOff errors s p job (s.published p.jobId).length reason := by
  have himport := h.sound.import_of_get at_ straight.here
  have hbeyond : p.state.point.isBeyond = false := by
    rw [ended]
    rfl
  have hslices := straight.cuts.slices hbeyond
  have htake : (s.published p.jobId).flatMap (·.records) = (RowEvent.records p.source).take
      ((s.published p.jobId).length * p.settings.chunkSize) :=
    straight.records_published hbeyond
  obtain ⟨hstatus, hend, hreason⟩ := straight.failed kept ended
  constructor
  case published => exact hslices
  case full => exact straight.cuts.full hbeyond
  case outcome =>
    unfold Producer.outcome?
    rw [ended, bounded]
  case status => exact hstatus
  case endTime => exact hend
  case totalRows =>
    rw [himport.agrees.total, ended]
    rfl
  case failureReason => rw [hreason, bounded]
  case flushed =>
    have hrejections := straight.cuts.rejections
    rw [ended] at hrejections
    show s.flushed p.jobId + p.state.run.pendingErrors.length + _ = _
    rw [← hrejections]
    exact congrArg (· + _ + _) (Int.add_zero _).symm
  case accounted => exact h.served.accounted h.sound at_ straight.here
  case stored =>
    rw [← htake]
    exact h.sourced
  case logged => exact h.logged at_ htake
  case discarded =>
    rintro path found source
    obtain ⟨added, hentries, hadded⟩ := h.logged at_ htake
    refine ⟨added, hentries, ?_⟩
    intro e he own record later
    have numbered : RowEvent.IsNumbered p.source := by
      rw [source]
      exact RowEvent.isNumbered_ofPath path found
    exact (hadded e he own).rowNumber_ne numbered later

section Ends

variable {outcome : ProducerOutcome} (h : s.Direct p.jobId jobs errors)
  (at_ : s.producers[i]? = some p)
  (straight : Straight p (s.book p.jobId) (s.refusals i) job)
  (ended : p.state.point = .ended outcome)

include h at_ straight ended

theorem Direct.brokenOff_of_fault {fault : SourceFault}
    (first : RowEvent.firstFault? p.source = some fault)
    (few : ∀ n, s.refusals i n ≤ p.settings.publishRetries) :
    BrokenOff errors s p job
      ((RowEvent.records (RowEvent.beforeFault p.source)).length / p.settings.chunkSize)
      fault.text := by
  have himport := h.sound.import_of_get at_ straight.here
  rcases straight.breaksOff himport ended with ⟨clean, -⟩ | ⟨reason, failed, breaks⟩
  · rw [first] at clean
    cases clean
  · have broken := h.brokenOff at_ straight failed rfl
    cases breaks with
    | fault first' count _ =>
      obtain rfl := Option.some.inj (first.symm.trans first')
      rw [← count]
      exact broken
    | refused all _ =>
      have hfew := few (s.book p.jobId).published.length
      rw [all] at hfew
      exact absurd hfew (Nat.not_succ_le_self _)
    | noRows clean _ =>
      rw [first] at clean
      cases clean

theorem Direct.brokenOff_of_refusals {n : Nat}
    (all : s.refusals i n = p.settings.publishRetries + 1) :
    BrokenOff errors s p job n (Chunk.refusalText n (p.settings.publishRetries + 1)) := by
  have himport := h.sound.import_of_get at_ straight.here
  have many : ¬s.refusals i n ≤ p.settings.publishRetries := by
    rw [all]
    exact Nat.not_succ_le_self _
  rcases straight.breaksOff himport ended with ⟨-, few⟩ | ⟨reason, failed, breaks⟩
  · exact absurd (few n) many
  · have broken := h.brokenOff at_ straight failed rfl
    cases breaks with
    | fault _ _ few | noRows _ few => exact absurd (few n) many
    | refused _ few =>
      obtain rfl : n = (s.book p.jobId).published.length := by
        by_contra hn
        exact many (few n hn)
      exact broken

end Ends

/-- Whatever the order of steps, with other imports beside it, and with the bus closed at any
moment: the import comes to its end, and a fault in its source, or a chunk that the bus refuses once
more than it is tried again, breaks it off there. -/
theorem broken_import_fails {now : Instant} {jobs : JobTable} {errors : ErrorLog}
    {products : Catalogue} {capacity workers : Nat} {schedule : List Action}
    (available : (World.opening now jobs errors products capacity).Available)
    (on : ∀ a ∈ schedule, a.isOutage = false)
    (run : (opening (.opening now jobs errors products capacity) workers).run schedule = some s)
    (at_ : s.producers[i]? = some p) (uncancelled : ∀ a ∈ schedule, a ≠ .cancel p.jobId)
    (size : 1 ≤ p.settings.chunkSize) :
    (workers ≠ 0 → Ending schedule s i p) ∧
      (p.outcome?.isSome = true → ∃ job, s.world.jobs.get? p.jobId = some job ∧
        (∀ fault, RowEvent.firstFault? p.source = some fault →
          (∀ n, s.refusals i n ≤ p.settings.publishRetries) →
          BrokenOff errors s p job
              ((RowEvent.records (RowEvent.beforeFault p.source)).length / p.settings.chunkSize)
              fault.text ∧
            ∀ path found, p.source = RowEvent.ofPath path found →
              ((RowEvent.beforeFault p.source).length : Int) = fault.rowsBefore) ∧
        ∀ n : Nat, s.refusals i n = p.settings.publishRetries + 1 →
          BrokenOff errors s p job n (Chunk.refusalText n (p.settings.publishRetries + 1))) := by
  refine ⟨fun any => ending_of_run any run at_, ?_⟩
  intro hended
  have direct : s.Direct p.jobId jobs errors := by
    refine run_invariant_of (Q := fun a => a.isOutage = false ∧ a ≠ .cancel p.jobId)
      (fun kind step h => h.step kind.1 kind.2 step) (fun a ha => ⟨on a ha, uncancelled a ha⟩) run
      (direct_opening available workers)
  obtain ⟨job, straight⟩ := direct.straight at_ rfl size
  obtain ⟨outcome, ended⟩ : ∃ outcome, p.state.point = .ended outcome := by
    unfold Producer.outcome? at hended
    split at hended
    · exact ⟨_, ‹_›⟩
    · cases hended
  refine ⟨job, straight.here, ?_, fun n => direct.brokenOff_of_refusals at_ straight ended⟩
  intro fault first few
  refine ⟨direct.brokenOff_of_fault at_ straight ended first few, ?_⟩
  rintro path found source
  rw [source] at first ⊢
  exact RowEvent.length_beforeFault_ofPath first

section Torn

def tornRows : List (List String) :=
  [["M1", "Mug", "", "", "", "5", "EUR", "3", "", "", "", ""], ["T1"],
    ["K1", "Kettle", "", "", "", "20", "EUR", "1", "", "", "", ""],
    ["P1", "Pot", "", "", "", "10", "EUR", "2", "", "", "", ""]]

/-- A mug, a row that is too short, a kettle and a pot; the next row is no text. -/
def torn : List UInt8 :=
  (String.intercalate "\n" ((shelfHeaders :: tornRows).map rawRow)).toUTF8.toList ++ [10, 255]

/-- The file is published up to the kettle. Beside it three mugs are imported; the bus is closed
while the second of them is in its line, so that it does not take the third. -/
def tornRun : List Action :=
  [.start { chunkSize := 2, publishRetries := 1 } ⟨7⟩
      (RowEvent.ofPath "torn.csv" (.ok (.file torn))),
    .start { chunkSize := 1, publishRetries := 1 } ⟨8⟩ [.parsed mug, .parsed mug, .parsed mug]] ++
  List.replicate 5 (.read 0) ++ List.replicate 3 (.read 1) ++
  List.replicate 10 (.produce 0) ++ List.replicate 7 (.produce 1) ++ .close ::
  List.replicate 7 (.work 0) ++ List.replicate 7 (.produce 1) ++ List.replicate 14 (.work 0)

theorem torn_and_refused_imports_fail : ∃ s p q,
    (World.opening ⟨0, 0⟩ .empty .empty .empty 2).Available ∧
      (∀ a ∈ tornRun, a.isOutage = false) ∧
      (opening (.opening ⟨0, 0⟩ .empty .empty .empty 2) 1).run tornRun = some s ∧
      s.world.bus.isDrained = true ∧
      s.producers[0]? = some p ∧ (∀ a ∈ tornRun, a ≠ .cancel p.jobId) ∧ 1 ≤ p.settings.chunkSize ∧
      s.producers[1]? = some q ∧ (∀ a ∈ tornRun, a ≠ .cancel q.jobId) ∧ 1 ≤ q.settings.chunkSize ∧
      (∃ job fault, s.world.jobs.get? p.jobId = some job ∧
        RowEvent.firstFault? p.source = some fault ∧ fault.rowsBefore = 4 ∧
        BrokenOff .empty s p job 1 fault.text) ∧
      ∃ job, s.world.jobs.get? q.jobId = some job ∧
        BrokenOff .empty s q job 2 (Chunk.refusalText 2 2) := by
  have hrun : ((opening (.opening ⟨0, 0⟩ .empty .empty .empty 2) 1).run tornRun).any (fun s =>
      (s.world.bus.isDrained && (refusedPlaces 0 [] s.history).isEmpty) &&
        ((s.producers[0]?).any fun p => p.outcome?.isSome && decide (
          (p.settings.chunkSize = 2 ∧ p.settings.publishRetries = 1) ∧
          (RowEvent.records (RowEvent.beforeFault p.source)).length = 3 ∧
          (RowEvent.firstFault? p.source).map (·.rowsBefore) = some 4)) &&
        (s.producers[1]?).any fun q => q.outcome?.isSome && decide (
          q.settings.chunkSize = 1 ∧ q.settings.publishRetries = 1 ∧ s.refusals 1 2 = 2)) =
      true := by
    decide +kernel
  have available : (World.opening ⟨0, 0⟩ .empty .empty .empty 2).Available := ⟨rfl, rfl, rfl⟩
  have on : ∀ a ∈ tornRun, a.isOutage = false := by
    simp [tornRun, Action.isOutage]
  have uncancelled (id : JobId) : ∀ a ∈ tornRun, a ≠ .cancel id := by
    simp [tornRun]
  obtain ⟨s, hs, hends⟩ := (Option.any_eq_true _ _).mp hrun
  obtain ⟨hends, hsecond⟩ := Bool.and_eq_true_iff.mp hends
  obtain ⟨hbus, hfirst⟩ := Bool.and_eq_true_iff.mp hends
  obtain ⟨drained, hnone⟩ := Bool.and_eq_true_iff.mp hbus
  obtain ⟨p, hp, hfirst⟩ := (Option.any_eq_true _ _).mp hfirst
  obtain ⟨q, hq, hsecond⟩ := (Option.any_eq_true _ _).mp hsecond
  obtain ⟨pended, hfirst⟩ := Bool.and_eq_true_iff.mp hfirst
  obtain ⟨qended, hsecond⟩ := Bool.and_eq_true_iff.mp hsecond
  obtain ⟨⟨psize, pretries⟩, hcount, hfault⟩ := of_decide_eq_true hfirst
  obtain ⟨qsize, qretries, hall⟩ := of_decide_eq_true hsecond
  obtain ⟨fault, first, before⟩ := Option.map_eq_some_iff.mp hfault
  have psize' : 1 ≤ p.settings.chunkSize := by omega
  have qsize' : 1 ≤ q.settings.chunkSize := by omega
  have few (n : Nat) : s.refusals 0 n ≤ p.settings.publishRetries := by
    unfold refusals
    rw [List.isEmpty_iff.mp hnone]
    exact Nat.zero_le _
  refine ⟨s, p, q, available, on, hs, drained, hp, uncancelled _, psize', hq, uncancelled _, qsize',
    ?_, ?_⟩
  · obtain ⟨job, known, broken, -⟩ :=
      (broken_import_fails available on hs hp (uncancelled _) psize').2 pended
    have hbroken := (broken fault first few).1
    rw [hcount, psize] at hbroken
    exact ⟨job, fault, known, first, before, hbroken⟩
  · obtain ⟨job, known, -, broken⟩ :=
      (broken_import_fails available on hs hq (uncancelled _) qsize').2 qended
    have hbroken := broken 2 (by rw [qretries]; exact hall)
    rw [qretries] at hbroken
    exact ⟨job, known, hbroken⟩

end Torn

end System

end Concurrency

end CatalogIntake
