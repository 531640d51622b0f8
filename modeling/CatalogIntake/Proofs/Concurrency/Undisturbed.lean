import CatalogIntake.Proofs.Concurrency.Completion
import CatalogIntake.Proofs.Store.Errors
import CatalogIntake.Proofs.Store.Products

/-!
Imports that nothing disturbs: the stores answer, nobody cancels, the sources hold rows and no
fault, and the bus is not closed before the producers have ended. Then no producer fails and no
chunk is returned, whatever the order of steps.
-/

namespace CatalogIntake

def RowEvent.isFault : RowEvent → Bool
  | fault _ => true
  | _ => false

theorem RowEvent.length_eq {events : List RowEvent} (clean : ∀ e ∈ events, e.isFault = false) :
    (records events).length + rejections events = events.length := by
  induction events with
  | nil => rfl
  | cons e rest ih =>
    have hrest := ih fun e' he' => clean e' (List.mem_cons_of_mem e he')
    have he := clean e List.mem_cons_self
    unfold records rejections at hrest ⊢
    cases e with
    | parsed record =>
      simp only [record?, isRejected, List.filterMap_cons, List.countP_cons, List.length_cons]
      simp only [Bool.false_eq_true, if_false]
      omega
    | rejected rowNumber message raw =>
      simp only [record?, isRejected, List.filterMap_cons, List.countP_cons, List.length_cons,
        if_true]
      omega
    | fault fault => cases he

theorem Producing.Goes.not_ended {settings : ImportSettings} {p next : Producing}
    (h : Producing.Goes settings p next) (outcome : ProducerOutcome) :
    p.point ≠ .ended outcome := by
  intro hended
  cases h <;> simp_all

theorem Producing.Asks.not_ended {settings : ImportSettings} {p next : Producing} {c : Call}
    {answer : c.Answer} (h : Producing.Asks settings p c answer next)
    (outcome : ProducerOutcome) : p.point ≠ .ended outcome := by
  intro hended
  cases h <;> simp_all

namespace Concurrency

namespace World

/-- All three stores answer. -/
structure Available (w : World) : Prop where
  products : w.products.available = true
  errors : w.errors.available = true
  progress : w.jobs.progressAvailable = true

theorem Available.answer {w : World} (h : w.Available) (c : Call) : (w.answer c).2.Available := by
  have progress := (w.progressAvailable_answer c).trans h.progress
  cases c with
  | saveErrors candidates =>
    refine ⟨h.products, ?_, progress⟩
    rw [answer_saveErrors, ErrorLog.available_save]
    exact h.errors
  | insertBatch batch =>
    refine ⟨?_, h.errors, progress⟩
    rw [answer_insertBatch, Catalogue.available_insertBatch]
    exact h.products
  | insertOne product =>
    refine ⟨?_, h.errors, progress⟩
    rw [answer_insertOne, Catalogue.available_insertOne]
    exact h.products
  | _ => exact ⟨h.products, h.errors, progress⟩

theorem Available.increment {w : World} (h : w.Available) {id : JobId} {job : Job}
    (known : w.jobs.get? id = some job) (processed failed : Int) (f : Failure) :
    (w.answer (.increment id processed failed)).1 ≠ .error f := by
  rw [answer_increment, JobTable.fst_increment, h.progress, known]
  exact fun herror => by cases herror

end World

/-- Steps of the readers, producers and workers themselves, and the passing of time. -/
def Action.isCalm : Action → Bool
  | read _ | produce _ | work _ | wait _ => true
  | _ => false

def Action.isOutage : Action → Bool
  | supply _ false => true
  | _ => false

theorem Action.isOutage_of_calm {a : Action} (calm : a.isCalm = true) : a.isOutage = false := by
  cases a <;> first | rfl | cases calm

namespace System

variable {a : Action} {s s' : System} {i : Nat} {p p' : Producer} {job : Job}

structure Undisturbed (s : System) : Prop where
  available : s.world.Available
  dropped : s.dropped = []
  owned : ∀ {chunk : Chunk}, chunk ∈ s.taken →
    ∃ (i : Nat) (p : Producer), s.producers[i]? = some p ∧ chunk.jobId = p.jobId
  closed : s.world.bus.closed = true → ∀ {i : Nat} {p : Producer}, s.producers[i]? = some p →
    ∃ outcome, p.state.point = .ended outcome
  sources : ∀ {i : Nat} {p : Producer}, s.producers[i]? = some p →
    p.source ≠ [] ∧ ∀ e ∈ p.source, e.isFault = false
  smooth : ∀ {i : Nat} {p : Producer}, s.producers[i]? = some p →
    p.state.point.isFailing = false ∧ p.state.point.isStopped = false
  status : ∀ {i : Nat} {p : Producer} {job : Job}, s.producers[i]? = some p →
    s.world.jobs.get? p.jobId = some job → job.status = .processing ∨ job.status = .completed
  duties : ∀ {j : Nat} {w : Worker} {d : Delivery} {stage : Stage}, s.workers[j]? = some w →
    w.duty = .busy d stage →
      (∀ f, stage ≠ .settled (.error f)) ∧ ∀ status, stage = .loaded status → status = .processing

theorem Step.turn_of_calm (step : Step s a s') (calm : a.isCalm = true) (registered : s.Registered)
    (at_ : s'.producers[i]? = some p') :
    ∃ p, s.producers[i]? = some p ∧ p'.settings = p.settings ∧ p'.source = p.source ∧
      p'.jobId = p.jobId ∧ Turn s a s' p p' (s.book p.jobId) (s'.book p.jobId) := by
  have hold : ∃ p, s.producers[i]? = some p := by
    have hlt := (List.getElem?_eq_some_iff.mp at_).1
    have hlength : s'.producers.length = s.producers.length := by
      cases step with
      | started _ => cases calm
      | hired => cases calm
      | cancelled _ => cases calm
      | supplied _ _ => cases calm
      | closed => cases calm
      | received _ _ _ =>
        simp only [setWorker]
        unfold letIn
        split
        · rfl
        · split
          · exact List.length_set ..
          · rfl
      | read _ | go _ _ _ | refused _ _ _ _ | published _ _ _ _ _ _ | asked _ _ _ _ _ =>
        exact List.length_set ..
      | _ => rfl
    rw [hlength] at hlt
    exact ⟨_, List.getElem?_eq_getElem hlt⟩
  obtain ⟨p, hp⟩ := hold
  obtain ⟨q, hq, hsettings, hsource, hid, turn⟩ := step.continues registered hp
  obtain rfl : q = p' := Option.some.inj (hq.symm.trans at_)
  exact ⟨p, hp, hsettings, hsource, hid, turn⟩

theorem Turn.state_of_ended {b b' : Book} {outcome : ProducerOutcome}
    (turn : Turn s a s' p p' b b') (ended : p.state.point = .ended outcome) :
    p'.state = p.state := by
  cases turn with
  | rested state => exact state
  | went goes => exact absurd ended (goes.not_ended outcome)
  | asked asks _ _ => exact absurd ended (asks.not_ended outcome)
  | handled state _ _ _ _ _ _ _ => exact state
  | cancelled state _ => exact state

theorem rowsRead_ne_zero {b : Book} (himport : Import p b job) (rows : p.source ≠ [])
    (clean : ∀ e ∈ p.source, e.isFault = false) (unread : p.state.unread = []) :
    p.state.run.rowsRead ≠ 0 := by
  have hrows := himport.reads.rowsRead
  have hlength := RowEvent.length_eq clean
  have hpos := List.length_pos_iff.mpr rows
  rw [unread] at hrows
  simp only [RowEvent.records, RowEvent.rejections, List.filterMap_nil, List.countP_nil,
    List.length_nil] at hrows hlength
  omega

theorem proceed_smooth {q : Producing} {atEnd : Bool}
    (rows : atEnd = true → q.run.rowsRead ≠ 0) :
    (q.proceed atEnd).point.isFailing = false ∧ (q.proceed atEnd).point.isStopped = false := by
  unfold Producing.proceed
  split
  · rename_i hend
    rw [if_neg (rows hend)]
    exact ⟨rfl, rfl⟩
  · exact ⟨rfl, rfl⟩

theorem Undisturbed.goes (h : s.Undisturbed) (at_ : s.producers[i]? = some p) {b : Book}
    {next : Producing} (himport : Import p b job)
    (goes : Producing.Goes p.settings p.state next) :
    next.point.isFailing = false ∧ next.point.isStopped = false := by
  obtain ⟨rows, clean⟩ := h.sources at_
  cases goes with
  | @taken event rest _ unread =>
    have hmem : event ∈ p.source := by
      refine himport.reads.suffix.subset ?_
      rw [unread]
      exact List.mem_cons_self
    cases event with
    | fault fault => cases clean _ hmem
    | _ =>
      simp only [Producing.onEvent]
      split <;> exact ⟨rfl, rfl⟩
  | nothingToFlush at_ _ =>
    refine proceed_smooth fun hend => rowsRead_ne_zero himport rows clean ?_
    exact himport.reads.unread (by rw [at_]; exact hend)
  | _ => exact ⟨rfl, rfl⟩

theorem Undisturbed.asks (h : s.Undisturbed) (at_ : s.producers[i]? = some p)
    {next : Producing} (himport : Import p (s.book p.jobId) job) {c : Call} {answer : c.Answer}
    (asks : Producing.Asks p.settings p.state c answer next)
    (replies : (∀ chunk, c ≠ .publish chunk) → (s.world.answer c).1 = answer)
    (taken_ : (∃ chunk, c = .publish chunk) → s.world.bus.closed = false →
      (c.published? answer).isSome = true) :
    next.point.isFailing = false ∧ next.point.isStopped = false := by
  obtain ⟨rows, clean⟩ := h.sources at_
  obtain ⟨hfailing, hstopped⟩ := h.smooth at_
  have known : s.world.jobs.get? p.state.run.jobId = some job := himport.here
  have hstatus := h.status at_ himport.here
  -- the job of a producer that is not at its last points is in progress
  have hprocessing (hpoint : p.state.point.isTotalled = false) : job.status = .processing := by
    rcases hstatus with hstatus | hstatus
    · exact hstatus
    · obtain ⟨total, htotal, -⟩ := himport.agrees.completed hstatus
      rw [himport.agrees.total, hpoint] at htotal
      cases htotal
  cases asks with
  | jobUnavailable _ _ => cases replies fun _ h => by cases h
  | jobGone _ _ =>
    have hanswer := replies fun _ h => by cases h
    rw [World.answer_getJob, known] at hanswer
    cases hanswer
  | cancelled at_ _ status =>
    have hanswer := replies fun _ h => by cases h
    rw [World.answer_getJob, known] at hanswer
    obtain rfl := Option.some.inj (Except.ok.inj hanswer)
    rw [hprocessing (by rw [at_]; rfl)] at status
    cases status
  | inactive at_ _ processing _ =>
    have hanswer := replies fun _ h => by cases h
    rw [World.answer_getJob, known] at hanswer
    obtain rfl := Option.some.inj (Except.ok.inj hanswer)
    exact absurd (hprocessing (by rw [at_]; rfl)) processing
  | notPublished hpoint =>
    have hopen : s.world.bus.closed = false := by
      rw [Bool.eq_false_iff]
      intro hclosed
      obtain ⟨outcome, hended⟩ := h.closed hclosed at_
      rw [hpoint] at hended
      cases hended
    cases taken_ ⟨_, rfl⟩ hopen
  | uncounted _ =>
    have hanswer := replies fun _ h => by cases h
    exact absurd hanswer (h.available.increment known _ _ _)
  | counted at_ =>
    refine proceed_smooth fun hend => rowsRead_ne_zero himport rows clean ?_
    exact himport.reads.unread (by rw [at_]; exact hend)
  | notTotalled _ => cases replies fun _ h => by cases h
  | unchecked _ => cases replies fun _ h => by cases h
  | unconfirmed _ => cases replies fun _ h => by cases h
  | stopped at_ =>
    rw [at_] at hstopped
    cases hstopped
  | failed at_ =>
    rw [at_] at hfailing
    cases hfailing
  | _ => exact ⟨rfl, rfl⟩

/-- A call that neither fails nor cancels a job leaves its status or completes it. -/
theorem status_after (job : Job) (now : Instant) {c : Call} (answer : c.Answer)
    (fails : ∀ id reason, c ≠ .failJob id reason) (cancels : ∀ id, c ≠ .cancelJob id) :
    (Job.after now c answer job).status = job.status ∨
      (Job.after now c answer job).status = .completed := by
  cases c with
  | finalizeTotal id total =>
    left
    show (job.totalled total).status = job.status
    unfold Job.totalled
    split <;> rfl
  | increment id processed failed => cases answer <;> exact .inl rfl
  | completeIfDone id =>
    show (job.checked now).status = _ ∨ (job.checked now).status = _
    unfold Job.checked
    split
    · exact .inr rfl
    · exact .inl rfl
  | failJob id reason => exact absurd rfl (fails id reason)
  | cancelJob id => exact absurd rfl (cancels id)
  | _ => exact .inl rfl

theorem Undisturbed.turn_status (h : s.Undisturbed) (calm : a.isCalm = true)
    (at_ : s.producers[i]? = some p) (known : (s.book p.jobId).job = some job) {b' : Book}
    (turn : Turn s a s' p p' (s.book p.jobId) b') {job' : Job} (known' : b'.job = some job') :
    job'.status = .processing ∨ job'.status = .completed := by
  have hstatus := h.status at_ known
  have same (hsame : (s.book p.jobId).job = some job') :
      job'.status = .processing ∨ job'.status = .completed := by
    rw [known] at hsame
    rw [← Option.some.inj hsame]
    exact hstatus
  have after {c : Call} {answer : c.Answer}
      (hafter : (s.book p.jobId).job.map (Job.after s.world.now c answer) = some job')
      (fails : ∀ id reason, c ≠ .failJob id reason) (cancels : ∀ id, c ≠ .cancelJob id) :
      job'.status = .processing ∨ job'.status = .completed := by
    rw [known] at hafter
    rw [← Option.some.inj hafter]
    rcases status_after job s.world.now answer fails cancels with hsame | hcompleted
    · rw [hsame]
      exact hstatus
    · exact .inr hcompleted
  cases turn with
  | rested _ => exact same known'
  | went _ => exact same known'
  | asked asks _ _ =>
    refine after known' ?_ ?_
    · intro id reason hc
      subst hc
      generalize p'.state = next at asks
      cases asks with
      | failed hpoint =>
        have hfailing := (h.smooth at_).1
        rw [hpoint] at hfailing
        cases hfailing
    · intro id hc
      subst hc
      cases asks
  | handled _ _ _ _ asks _ _ _ =>
    refine after known' ?_ ?_
    · intro id reason hc
      subst hc
      cases asks
    · intro id hc
      subst hc
      cases asks
  | cancelled _ action =>
    rw [action] at calm
    cases calm

/-- A chunk in hand that is not counted belongs to the job of a producer. -/
theorem Undisturbed.owner_of_busy (h : s.Undisturbed) (balanced : s.Balanced) {j : Nat} {w : Worker}
    {d : Delivery} {stage : Stage} (at_ : s.workers[j]? = some w) (busy : w.duty = .busy d stage)
    (uncounted_ : stage.isCounted = false) :
    ∃ (i : Nat) (p : Producer), s.producers[i]? = some p ∧ d.chunk.jobId = p.jobId := by
  have hopen := mem_openFor_of_busy at_ busy uncounted_
  have hpublished : d.chunk ∈ s.published d.chunk.jobId :=
    (balanced.published_perm _).mem_iff.mpr (List.mem_append_right _ hopen)
  exact h.owned (List.mem_of_mem_filter hpublished)

theorem Undisturbed.turn_duty (h : s.Undisturbed) (sound : s.Sound) {j : Nat} {d : Delivery}
    {stage : Stage} (comes : Comes s s' j d stage) :
    (∀ f, stage ≠ .settled (.error f)) ∧
      ∀ status, stage = .loaded status → status = .processing := by
  cases comes with
  | stays hw hbusy => exact h.duties hw hbusy
  | received _ => exact ⟨fun f h => (by cases h), fun status h => (by cases h)⟩
  | goes _ _ goes =>
    cases goes <;> exact ⟨fun f h => (by cases h), fun status h => (by cases h)⟩
  | asks hw hbusy asks replies _ =>
    cases asks with
    | unloaded => cases replies
    | @found job =>
      refine ⟨fun f h => (by cases h), ?_⟩
      intro status hstage
      rw [← Stage.loaded.inj hstage]
      obtain ⟨i, p, hp, hid⟩ := h.owner_of_busy sound.balanced hw hbusy rfl
      rw [World.answer_getJob, hid] at replies
      have hknown : s.world.jobs.get? p.jobId = some job := Except.ok.inj replies
      rcases h.status hp hknown with hprocessing | hcompleted
      · exact hprocessing
      · have hnil := ((sound.import_of_get hp hknown).of_completed sound hcompleted).2
        have hopen := mem_openFor_of_busy hw hbusy rfl
        rw [hid, hnil] at hopen
        cases hopen
    | uncounted =>
      obtain ⟨i, p, hp, hid⟩ := h.owner_of_busy sound.balanced hw hbusy rfl
      obtain ⟨job, himport⟩ := sound.imports hp
      have hknown : s.world.jobs.get? d.chunk.jobId = some job := by
        rw [hid]
        exact himport.here
      exact absurd replies (h.available.increment hknown _ _ _)
    | _ => exact ⟨fun f h => (by cases h), fun status h => (by cases h)⟩

theorem Step.closed_of_calm (step : Step s a s') (calm : a.isCalm = true) :
    s'.world.bus.closed = s.world.bus.closed := by
  cases step with
  | published _ _ enters taken_ _ _ =>
    rcases Bus.publish_cases enters with ⟨hrefused, -⟩ | ⟨-, hopen, hnext, -⟩
    · exact absurd hrefused taken_
    · exact hnext.trans hopen.symm
  | @asked _ _ c _ world _ _ _ _ replies _ =>
    have hbus := congrArg (fun r => r.2.bus.closed) replies
    rw [World.answer_bus] at hbus
    exact hbus.symm
  | received _ _ leaves =>
    obtain ⟨-, -, -, -, hclosed⟩ := Bus.receive_delivery leaves
    simp only [setWorker, world_letIn]
    exact hclosed
  | @handled _ _ _ _ _ c _ world _ _ replies _ =>
    have hbus := congrArg (fun r => r.2.bus.closed) replies
    rw [World.answer_bus] at hbus
    exact hbus.symm
  | settled _ _ => exact Bus.closed_settleWith _
  | started _ => cases calm
  | hired => cases calm
  | cancelled _ => cases calm
  | supplied _ _ => cases calm
  | closed => cases calm
  | _ => rfl

theorem Step.available (step : Step s a s') (on : a.isOutage = false)
    (h : s.world.Available) : s'.world.Available := by
  have answered {c : Call} {answer : c.Answer} {world : World}
      (replies : s.world.answer c = (answer, world)) : world.Available := by
    have hanswer := h.answer c
    rw [replies] at hanswer
    exact hanswer
  have same {w : World} (products : w.products = s.world.products)
      (errors : w.errors = s.world.errors)
      (jobs : w.jobs.progressAvailable = s.world.jobs.progressAvailable) : w.Available := by
    refine ⟨?_, ?_, ?_⟩
    · rw [products]
      exact h.products
    · rw [errors]
      exact h.errors
    · rw [jobs]
      exact h.progress
  cases step with
  | asked _ _ _ replies _ => exact answered replies
  | handled _ _ replies _ => exact answered replies
  | received _ _ _ =>
    simp only [setWorker, world_letIn]
    exact same rfl rfl rfl
  | @started settings jobId source _ =>
    exact same rfl rfl (s.world.progressAvailable_answer (.createJob (Job.started jobId _)))
  | cancelled id => exact same rfl rfl (s.world.progressAvailable_answer (.cancelJob id))
  | supplied supply value =>
    cases value with
    | true =>
      cases supply with
      | products => exact ⟨rfl, h.errors, h.progress⟩
      | errors => exact ⟨h.products, rfl, h.progress⟩
      | progress => exact ⟨h.products, h.errors, rfl⟩
    | false => cases on
  | _ => exact same rfl rfl rfl

/-- A chunk is dropped only by a worker that has failed with it. -/
theorem Step.dropped (step : Step s a s') (h : s.dropped = [])
    (unfailed : ∀ {j : Nat} {w : Worker} {d : Delivery} {f : Failure}, s.workers[j]? = some w →
      w.duty ≠ .busy d (.settled (.error f))) : s'.dropped = [] := by
  refine (step.keeps fun e records => ?_).trans h
  cases records with
  | @settled j w d result at_ busy =>
    cases result with
    | error f => exact absurd busy (unfailed at_)
    | ok outcome => rfl
  | _ => rfl

/-- Only a publish adds to what the bus has taken, and only a chunk of its producer's job. -/
theorem taken_of_step (step : Step s a s') (registered : s.Registered) :
    s'.taken = s.taken ∨ ∃ (i : Nat) (p : Producer) (chunk : Chunk), s.producers[i]? = some p ∧
      chunk.jobId = p.jobId ∧ s'.taken = s.taken ++ [chunk] := by
  rcases step.history with history | ⟨e, history, records⟩
  · exact .inl (congrArg (List.filterMap Event.taken?) history)
  · have htaken : s'.taken = s.taken ++ e.taken?.toList := by
      unfold taken
      rw [history, filterMap_concat]
    cases records with
    | @taken i p chunk _ at_ asks =>
      refine .inr ⟨i, p, chunk, at_, ?_, htaken⟩
      cases asks with
      | published hpoint => exact registered.own at_ (by rw [hpoint]; rfl)
    | _ => exact .inl (htaken.trans (List.append_nil _))

theorem Undisturbed.step (h : s.Undisturbed) (sound : s.Sound) (calm : a.isCalm = true)
    (step : Step s a s') : s'.Undisturbed := by
  constructor
  case available => exact step.available (Action.isOutage_of_calm calm) h.available
  case dropped => exact step.dropped h.dropped fun at_ busy => (h.duties at_ busy).1 _ rfl
  case owned =>
    intro chunk hchunk
    have howned : ∃ (i : Nat) (p : Producer), s.producers[i]? = some p ∧
        chunk.jobId = p.jobId := by
      rcases taken_of_step step sound.registered with hsame | ⟨i, p, new, hp, hid, hnew⟩
      · rw [hsame] at hchunk
        exact h.owned hchunk
      · rw [hnew] at hchunk
        rcases List.mem_append.mp hchunk with hchunk | hchunk
        · exact h.owned hchunk
        · rw [List.mem_singleton.mp hchunk]
          exact ⟨i, p, hp, hid⟩
    obtain ⟨i, p, hp, hid⟩ := howned
    obtain ⟨p', hp', -, -, hid', -⟩ := step.continues sound.registered hp
    exact ⟨i, p', hp', hid.trans hid'.symm⟩
  case closed =>
    intro hclosed i p' hp'
    rw [step.closed_of_calm calm] at hclosed
    obtain ⟨p, hp, -, -, -, turn⟩ := step.turn_of_calm calm sound.registered hp'
    obtain ⟨outcome, hended⟩ := h.closed hclosed hp
    refine ⟨outcome, ?_⟩
    rw [turn.state_of_ended hended]
    exact hended
  case sources =>
    intro i p' hp'
    obtain ⟨p, hp, -, hsource, -⟩ := step.turn_of_calm calm sound.registered hp'
    rw [hsource]
    exact h.sources hp
  case smooth =>
    intro i p' hp'
    obtain ⟨p, hp, -, -, -, turn⟩ := step.turn_of_calm calm sound.registered hp'
    obtain ⟨job, himport⟩ := sound.imports hp
    generalize s'.book p.jobId = b' at turn
    cases turn with
    | went goes => exact h.goes hp himport goes
    | asked asks replies taken_ => exact h.asks hp himport asks replies taken_
    | rested state | handled state _ _ _ _ _ _ _ | cancelled state _ =>
      rw [state]
      exact h.smooth hp
  case status =>
    intro i p' job' hp' hjob'
    obtain ⟨p, hp, -, -, hid, turn⟩ := step.turn_of_calm calm sound.registered hp'
    obtain ⟨job, himport⟩ := sound.imports hp
    rw [hid] at hjob'
    exact h.turn_status calm hp himport.here turn hjob'
  case duties =>
    intro j w d stage hw hbusy
    exact h.turn_duty sound (step.comes hw hbusy)

end System

end Concurrency

end CatalogIntake
