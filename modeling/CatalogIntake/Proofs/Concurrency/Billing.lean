import CatalogIntake.Proofs.Concurrency.Redelivery
import CatalogIntake.Proofs.Concurrency.Timeliness

namespace CatalogIntake

def Point.isOver : Point → Bool
  | completing | confirming | failing _ | ended _ => true
  | _ => false

namespace Producing

variable {settings : ImportSettings} {p next : Producing}

theorem Goes.not_over (h : Goes settings p next) : p.point.isOver = false := by
  cases h with
  | sourceEnded at_ _ | taken at_ _ | nothingToPublish at_ _ | nothingToFlush at_ _ =>
    rw [at_]
    rfl

theorem Asks.rowsRead {c : Call} {answer : c.Answer} (h : Asks settings p c answer next) :
    next.run.rowsRead = p.run.rowsRead := by
  cases h with
  | counted _ =>
    unfold proceed
    split
    · split <;> rfl
    · rfl
  | _ => rfl

theorem Asks.stays_over {c : Call} {answer : c.Answer} (h : Asks settings p c answer next)
    (hover : p.point.isOver = true) : next.point.isOver = true := by
  cases h with
  | unchecked _ | notDone _ | completed _ | unconfirmed _ | confirmed _ | failed _ => rfl
  | notTotalled _ | totalled _ | stopped _ => rfl
  | jobUnavailable at_ _ | jobGone at_ _ | processing at_ _ _ | cancelled at_ _ _
  | inactive at_ _ _ _ | published at_ | notPublished at_ | publishedAgain at_ | paused at_
  | logged at_ _ | uncounted at_ | counted at_ =>
    rw [at_] at hover
    cases hover

theorem Asks.total {answer : Outcome Bool} {id : JobId} {total : Int}
    (h : Asks settings p (.finalizeTotal id total) answer next) :
    total = p.run.rowsRead ∧ next.point.isOver = true := by
  cases h <;> exact ⟨rfl, rfl⟩

theorem Asks.rows_nonneg {c : Call} {answer : c.Answer} (h : Asks settings p c answer next) :
    0 ≤ c.rows answer := by
  cases h with
  | @counted _ rejected _ _ =>
    show (0 : Int) ≤ 0 + rejected
    omega
  | _ => exact Int.le_refl 0

end Producing

theorem Call.rows_error (c : Call) (f : Failure) : c.rows (.error f) = 0 := by
  cases c <;> rfl

theorem Call.published?_error (c : Call) (f : Failure) : c.published? (.error f) = none := by
  cases c <;> rfl

namespace Job

variable {job : Job}

theorem IsEarned.after (h : job.IsEarned) (now : Instant) (c : Call) (answer : c.Answer)
    (more : 0 ≤ c.rows answer) : (Job.after now c answer job).IsEarned := by
  cases c with
  | finalizeTotal id total =>
    show (job.totalled total).IsEarned
    unfold Job.totalled
    split
    · rename_i hnone
      intro hstatus
      obtain ⟨known, hknown, -⟩ := h hstatus
      rw [hknown] at hnone
      cases hnone
    · exact h
  | increment id processed failed =>
    cases answer with
    | error f => exact h
    | ok counters =>
      intro hstatus
      obtain ⟨total, htotal, hpos, hle⟩ := h hstatus
      refine ⟨total, htotal, hpos, Int.le_trans hle ?_⟩
      have hrows : 0 ≤ processed + failed := more
      show job.processedRows + job.failedRows ≤
        job.processedRows + processed + (job.failedRows + failed)
      omega
  | completeIfDone id =>
    show (job.checked now).IsEarned
    unfold Job.checked
    split
    · rename_i hready
      exact fun _ => (job.isReadyToComplete_iff.mp hready).2
    · exact h
  | failJob id reason => exact h.finished _ now (by decide)
  | cancelJob id => exact h.finished _ now (by decide)
  | _ => exact h

theorem totalRows_of_after {now : Instant} {c : Call} {answer : c.Answer} {total : Int}
    (h : (Job.after now c answer job).totalRows = some total) :
    job.totalRows = some total ∨ ∃ id, c = .finalizeTotal id total := by
  cases c with
  | finalizeTotal id rows =>
    have hrows : (job.totalled rows).totalRows = some total := h
    unfold Job.totalled at hrows
    split at hrows
    · exact .inr ⟨id, by rw [Option.some.inj hrows]⟩
    · exact .inl hrows
  | increment id processed failed =>
    cases answer with
    | error f => exact .inl h
    | ok counters => exact .inl h
  | completeIfDone id => exact .inl ((checked_totalRows now job).symm.trans h)
  | failJob id reason => exact .inl ((finished_totalRows _ _ now job).symm.trans h)
  | cancelJob id => exact .inl ((finished_totalRows _ _ now job).symm.trans h)
  | _ => exact .inl h

end Job

namespace Concurrency

/-- What the counters of a job say, in any order of failures and redeliveries. -/
structure Billed (p : Producer) (b : Book) (job : Job) : Prop where
  here : b.job = some job
  reads : Reads p.settings p.source b.published b.flushed p.state
  accounted : job.rowsAccounted = Chunk.rowCount b.counted + b.flushed
  total : ∀ total, job.totalRows = some total → p.state.point.isOver = true ∧ total = p.rowsRead
  earned : job.IsEarned

/-- A turn as the bus allows it, or a call of the producer that failed without effect. -/
inductive Turned (s s' : System) (p p' : Producer) (b b' : Book) : Prop
  | of {a : Action} (turn : System.Turn s a s' p p' b b')
  | denied {c : Call} {f : Failure}
      (asks : Producing.Asks p.settings p.state c (.error f) p'.state) (same : b' = b)

namespace Billed

variable {s s' : System} {p p' : Producer} {job : Job}

theorem start (settings : ImportSettings) (jobId : JobId) (source : List RowEvent)
    (now : Instant) :
    Billed (.start settings jobId source) ⟨some (Job.started jobId now), [], [], 0⟩
      (Job.started jobId now) where
  here := rfl
  reads := .start settings jobId source
  accounted := rfl
  total := fun _ h => by cases h
  earned := fun h => by cases h

theorem turn {a : Action} {b' : Book} (h : Billed p (s.book p.jobId) job)
    (settings : p'.settings = p.settings) (source : p'.source = p.source)
    (turn : System.Turn s a s' p p' (s.book p.jobId) b') (fitting : s.Fitting) :
    ∃ job', Billed p' b' job' := by
  cases turn with
  | rested state =>
    refine ⟨job, h.here, ?_, h.accounted, ?_, h.earned⟩
    · rw [settings, source, state]
      exact h.reads
    · unfold Producer.rowsRead
      rw [state]
      exact h.total
  | went goes =>
    refine ⟨job, h.here, ?_, h.accounted, ?_, h.earned⟩
    · rw [settings, source]
      exact h.reads.goes goes
    · intro total htotal
      have hover := (h.total total htotal).1
      rw [goes.not_over] at hover
      cases hover
  | @asked c answer asks _ _ =>
    refine ⟨Job.after s.world.now c answer job, congrArg (Option.map _) h.here, ?_,
      Import.accounted_asked h.accounted _ c answer, ?_,
      h.earned.after _ c answer asks.rows_nonneg⟩
    · rw [settings, source]
      exact h.reads.asks asks
    · intro total htotal
      unfold Producer.rowsRead
      rw [asks.rowsRead]
      rcases Job.totalRows_of_after htotal with htotal | ⟨id, rfl⟩
      · obtain ⟨hover, hrows⟩ := h.total total htotal
        exact ⟨asks.stays_over hover, hrows⟩
      · obtain ⟨hrows, hover⟩ := asks.total
        exact ⟨hover, hrows⟩
  | @handled j w _ d stage next c answer state at_ busy own asks _ _ _ =>
    have fits := fitting at_ busy
    refine ⟨Job.after s.world.now c answer job, congrArg (Option.map _) h.here, ?_,
      Import.accounted_handled h.accounted _ fits asks, ?_, h.earned.after _ c answer ?_⟩
    · rw [settings, source, state]
      exact h.reads
    · intro total htotal
      unfold Producer.rowsRead
      rw [state]
      rcases Job.totalRows_of_after htotal with htotal | ⟨id, rfl⟩
      · exact h.total total htotal
      · cases asks
    · rw [fits.rows asks]
      split
      · exact Int.natCast_nonneg _
      · exact Int.le_refl 0
  | cancelled state _ =>
    refine ⟨job.finished .cancelled none s.world.now, congrArg (Option.map _) h.here, ?_,
      Import.accounted_cancelled h.accounted _, ?_, h.earned.finished none _ (by decide)⟩
    · rw [settings, source, state]
      exact h.reads
    · intro total htotal
      rw [Job.finished_totalRows] at htotal
      unfold Producer.rowsRead
      rw [state]
      exact h.total total htotal

theorem turned {b' : Book} (h : Billed p (s.book p.jobId) job)
    (settings : p'.settings = p.settings) (source : p'.source = p.source)
    (turned : Turned s s' p p' (s.book p.jobId) b') (fitting : s.Fitting) :
    ∃ job', Billed p' b' job' := by
  cases turned with
  | of turn => exact h.turn settings source turn fitting
  | @denied c f asks same =>
    subst same
    refine ⟨job, h.here, ?_, h.accounted, ?_, h.earned⟩
    · have hreads := h.reads.asks asks
      rw [Call.published?_error, Call.rows_error, Option.toList_none, List.append_nil,
        Int.add_zero] at hreads
      rw [settings, source]
      exact hreads
    · intro total htotal
      obtain ⟨hover, hrows⟩ := h.total total htotal
      unfold Producer.rowsRead
      rw [asks.rowsRead]
      exact ⟨asks.stays_over hover, hrows⟩

end Billed

namespace System

variable {s s' : System} {i j : Nat} {p : Producer} {w w' : Worker}

theorem Passage.mono {T T' : Producer → Producer → Book → Book → Prop} (h : Passage T s s')
    (weaker : ∀ {p p' : Producer} {b b' : Book}, T p p' b b' → T' p p' b b') :
    Passage T' s s' where
  continues := by
    intro i p at_
    obtain ⟨p', at', settings, source, jobId, turn⟩ := h.continues at_
    exact ⟨p', at', settings, source, jobId, weaker turn⟩
  origin := h.origin
  known := h.known
  blank := h.blank

theorem turned_rested (p : Producer) (b : Book) : Turned s s' p p b b :=
  .of (a := .hire) (.rested rfl)

theorem passage_of_workers (registered : s.Registered) (producers : s'.producers = s.producers)
    (world : s'.world = s.world) (book : ∀ id, s'.book id = s.book id) :
    Passage (Turned s s') s s' where
  continues := fun at_ => continues_of_same turned_rested (producers ▸ at_) (book _)
  origin := fun at_ => .inl ⟨_, producers ▸ at_⟩
  known := by
    rw [world]
    exact id
  blank := by
    intro id hnone
    rw [world] at hnone
    exact (book id).trans (registered.blank hnone)

theorem passage_of_producer {q' : Producer} (registered : s.Registered)
    (at_ : s.producers[i]? = some p)
    (producers : ∀ k, s'.producers[k]? = if k = i then some q' else s.producers[k]?)
    (settings : q'.settings = p.settings) (source : q'.source = p.source)
    (jobId : q'.jobId = p.jobId) (world : s'.world = s.world)
    (turn : Turned s s' p q' (s.book p.jobId) (s'.book p.jobId))
    (others : ∀ id, p.jobId ≠ id → s'.book id = s.book id) : Passage (Turned s s') s s' where
  continues := fun hk =>
    continues_of_producer turned_rested registered at_ hk producers settings source jobId turn
      others
  origin := by
    intro k p' hk
    rw [producers] at hk
    split at hk
    · rename_i hki
      exact .inl ⟨p, hki ▸ at_⟩
    · exact .inl ⟨p', hk⟩
  known := by
    rw [world]
    exact id
  blank := by
    intro id hnone
    rw [world] at hnone
    refine (others id fun hid => ?_).trans (registered.blank hnone)
    have hknown := registered.known at_
    rw [hid, hnone] at hknown
    cases hknown

theorem Fitting.setWorker (h : s.Fitting) {t : System} (workers : t.workers = s.workers)
    (at_ : s.workers[j]? = some w)
    (own : ∀ {d : Delivery} {stage : Stage}, w'.duty = .busy d stage → stage.Fits d.chunk) :
    (t.setWorker j w').Fitting := by
  intro k v d stage hk busy
  rw [getElem?_setWorker (workers ▸ at_), workers] at hk
  split at hk
  · obtain rfl := Option.some.inj hk
    exact own busy
  · exact h hk busy

end System

namespace Depot

variable {s s' : Depot} {e : Errand}

theorem Step.passage (step : Step s e s') (registered : s.system.Registered) :
    System.Passage (Turned s.system s'.system) s.system s'.system := by
  cases step with
  | inside _ step => exact (step.passage registered).mono .of
  | @denied _ i p c f state at_ asks =>
    have hbook (id : JobId) : (s.system.record (.asked i c (.error f))).book id =
        s.system.book id := by
      refine System.book_record_of_other (fun _ h => by cases h) (fun _ h => by cases h) ?_
      show (if c.jobId? = some id then c.rows (.error f) else 0) = 0
      rw [Call.rows_error, ite_self]
    exact System.passage_of_producer registered at_ (System.getElem?_setProducer at_) rfl rfl
      asks.jobId rfl (.denied asks (hbook _)) fun id _ => hbook id
  | @faulted j w d stage next c f at_ busy asks =>
    refine System.passage_of_workers registered rfl rfl fun id => ?_
    refine System.book_record_of_other (s := s.system) (e := .handled j d c (.error f))
      (fun _ h => by cases h) (fun chunk h => ?_) rfl
    simp [Event.counted?, Call.counts_error] at h
  | @published i p chunk state trouble at_ asks =>
    have hown : chunk.jobId = p.jobId := by
      cases asks with
      | published hpoint => exact registered.own at_ (by rw [hpoint]; rfl)
    have hbook (id : JobId) :
        ((s.system.record (.taken i chunk)).setProducer i (p.goTo state)).book id =
          if chunk.jobId = id then
            (s.system.book id).asked s.system.world.now (.publish chunk) (.ok ())
          else s.system.book id := by
      show ((s.system.setBus s.system.world.bus).record (.taken i chunk)).book id = _
      exact System.book_of_published
    refine System.passage_of_producer registered at_ (System.getElem?_setProducer at_) rfl rfl
      asks.jobId rfl ?_ ?_
    · refine .of (a := .produce i) ?_
      rw [hbook, if_pos hown]
      exact .asked asks (fun hc => absurd rfl (hc chunk)) fun _ _ => rfl
    · intro id hid
      exact (hbook id).trans (if_neg (by rw [hown]; exact hid))
  | claimed at_ _ _ => exact System.passage_of_workers registered rfl rfl fun _ => rfl
  | missed _ _ => exact System.passage_of_workers registered rfl rfl fun _ => rfl
  | @settled j w d result _ _ _ _ _ _ =>
    refine System.passage_of_workers registered rfl rfl fun id => ?_
    exact System.book_record_of_other (s := s.system) (e := .settled j d result)
      (fun _ h => by cases h) (fun _ h => by cases h) rfl

theorem fitting_step (fitting : s.system.Fitting) (step : Step s e s') : s'.system.Fitting := by
  cases step with
  | inside _ step => exact System.Fitting.step fitting step
  | denied _ _ => exact fitting
  | faulted at_ busy asks =>
    refine System.Fitting.setWorker fitting rfl at_ fun h => ?_
    cases h
    exact (fitting at_ busy).asks asks
  | published _ _ => exact fitting
  | claimed at_ _ _ =>
    refine System.Fitting.setWorker fitting rfl at_ fun h => ?_
    cases h
    trivial
  | missed _ _ => exact fitting
  | settled at_ _ _ => exact System.Fitting.setWorker fitting rfl at_ fun h => by cases h

structure Sound (s : Depot) : Prop where
  registered : s.system.Registered
  fitting : s.system.Fitting
  posted : s.Posted
  recorded : s.system.Recorded
  bills : ∀ {i : Nat} {p : Producer}, s.system.producers[i]? = some p →
    ∃ job, Billed p (s.system.book p.jobId) job

theorem Turned.chunk {s s' : System} {p p' : Producer} {b b' : Book} {chunk : Chunk}
    (turned : Turned s s' p p' b b') (hchunk : p'.state.point.chunk? = some chunk) :
    p.state.point.chunk? = some chunk ∨ chunk.jobId = p.jobId := by
  cases turned with
  | of turn => exact turn.chunk hchunk
  | denied asks _ => exact asks.chunk hchunk

theorem Sound.step (h : s.Sound) (step : Step s e s') : s'.Sound where
  registered := h.registered.pass (step.passage h.registered) Turned.chunk
  fitting := fitting_step h.fitting step
  posted := h.posted.shift step.shift
  recorded := recorded_shift h.recorded step.shift
  bills := by
    refine (step.passage h.registered).imports (P := fun p b => ∃ job, Billed p b job)
      h.registered ?_ ?_ h.bills
    · exact fun settings jobId source now => ⟨_, .start settings jobId source now⟩
    · rintro i p p' b' - ⟨job, hbilled⟩ settings source turned
      exact hbilled.turned settings source turned h.fitting

theorem sound_opening (world : World) (workers : Nat) (settings : QueueSettings) :
    (opening world workers settings).Sound where
  registered := System.registered_opening world workers
  fitting := System.fitting_opening world workers
  posted := posted_opening world workers settings
  recorded := (single_opening world workers).2
  bills := fun hp => by simp [opening, System.opening] at hp

theorem sound_of_run {world : World} {workers : Nat} {settings : QueueSettings}
    {errands : List Errand} (run : (opening world workers settings).run errands = some s) :
    s.Sound :=
  run_invariant (fun step h => Sound.step h step) run (sound_opening world workers settings)

end Depot

end Concurrency

end CatalogIntake
