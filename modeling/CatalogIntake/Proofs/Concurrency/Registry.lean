import CatalogIntake.Proofs.Concurrency.Book

namespace CatalogIntake

theorem Producing.proceed_chunk (p : Producing) (atEnd : Bool) :
    (p.proceed atEnd).point.chunk? = none := by
  unfold proceed
  split
  · split <;> rfl
  · rfl

/-- A chunk that comes into the hands of a producer is for its own job. -/
theorem Producing.Asks.chunk {settings : ImportSettings} {p next : Producing} {c : Call}
    {answer : c.Answer} {chunk : Chunk} (h : Producing.Asks settings p c answer next)
    (hchunk : next.point.chunk? = some chunk) :
    p.point.chunk? = some chunk ∨ chunk.jobId = p.run.jobId := by
  cases h with
  | processing _ _ _ =>
    obtain rfl := Option.some.inj hchunk
    exact .inr rfl
  | publishedAgain at_ =>
    rw [at_]
    exact .inl hchunk
  | paused at_ =>
    rw [at_]
    exact .inl hchunk
  | counted _ =>
    rw [proceed_chunk] at hchunk
    cases hchunk
  | _ => cases hchunk

theorem Producing.Goes.chunk {settings : ImportSettings} {p next : Producing}
    (h : Producing.Goes settings p next) : next.point.chunk? = none := by
  cases h with
  | @taken event rest _ _ =>
    cases event with
    | fault fault => rfl
    | _ =>
      simp only [onEvent]
      split <;> rfl
  | nothingToFlush _ _ => exact proceed_chunk p _
  | _ => rfl

namespace Concurrency.System

variable {a : Action} {s s' : System} {i : Nat} {p p' : Producer} {id : JobId}

theorem Turn.jobId {b b' : Book} (turn : Turn s a s' p p' b b') : p'.jobId = p.jobId := by
  cases turn with
  | went goes => exact goes.jobId
  | asked asks _ _ => exact asks.jobId
  | rested state | handled state _ _ _ _ _ _ _ | cancelled state _ =>
    unfold Producer.jobId
    rw [state]

theorem Turn.chunk {b b' : Book} {chunk : Chunk} (turn : Turn s a s' p p' b b')
    (hchunk : p'.state.point.chunk? = some chunk) :
    p.state.point.chunk? = some chunk ∨ chunk.jobId = p.jobId := by
  cases turn with
  | went goes =>
    rw [goes.chunk] at hchunk
    cases hchunk
  | asked asks _ _ => exact asks.chunk hchunk
  | rested state | handled state _ _ _ _ _ _ _ | cancelled state _ =>
    rw [state] at hchunk
    exact .inl hchunk

inductive Revision (s : System) (id : JobId) : Option Job → Prop
  | rested : Revision s id (s.world.jobs.get? id)
  | started (fresh : s.world.jobs.get? id = none) :
      Revision s id (some (Job.started id s.world.now))
  | asked {i : Nat} {p : Producer} {c : Call} {answer : c.Answer} {next : Producing}
      (at_ : s.producers[i]? = some p) (asks : Producing.Asks p.settings p.state c answer next)
      (own : c.jobId? = some id) :
      Revision s id ((s.world.jobs.get? id).map (Job.after s.world.now c answer))
  | handled {d : Delivery} {stage next : Stage} {c : Call} {answer : c.Answer}
      (asks : Stage.Asks d.chunk stage c answer next) (own : c.jobId? = some id) :
      Revision s id ((s.world.jobs.get? id).map (Job.after s.world.now c answer))
  | cancelled :
      Revision s id ((s.world.jobs.get? id).map (Job.finished .cancelled none s.world.now))

theorem Step.revision (step : Step s a s') (id : JobId) :
    Revision s id (s'.world.jobs.get? id) := by
  cases step with
  | @asked _ _ _ _ world _ at_ _ _ replies asks =>
    show Revision s id (world.jobs.get? id)
    rw [get?_of_answer replies asks.callJobId.2]
    split
    · exact .asked at_ asks ‹_›
    · exact .rested
  | @handled _ _ _ _ _ _ _ world _ _ replies asks =>
    show Revision s id (world.jobs.get? id)
    rw [get?_of_answer replies asks.jobId.2.1]
    split
    · exact .handled asks ‹_›
    · exact .rested
  | received _ _ _ =>
    simp only [setWorker, world_letIn]
    exact .rested
  | @started settings jobId source fresh =>
    show Revision s id ((s.world.jobs.create _).2.get? id)
    by_cases hid : id = jobId
    · subst hid
      rw [get?_started_self fresh]
      exact .started fresh
    · rw [get?_started hid]
      exact .rested
  | cancelled id' =>
    show Revision s id ((s.world.jobs.cancel id' _).2.get? id)
    rw [JobTable.cancel, JobTable.get?_finish]
    split
    · exact .cancelled
    · exact .rested
  | supplied supply value => cases supply <;> exact .rested
  | _ => exact .rested

theorem Step.known (step : Step s a s') (h : (s.world.jobs.get? id).isSome = true) :
    (s'.world.jobs.get? id).isSome = true := by
  have revision := step.revision id
  generalize s'.world.jobs.get? id = found at revision ⊢
  cases revision with
  | rested => exact h
  | started _ => rfl
  | asked _ _ _ | handled _ _ | cancelled =>
    rw [Option.isSome_map]
    exact h

/-- A producer has been there before, or it has just started on a fresh job. -/
theorem Step.origin (step : Step s a s') (at_ : s'.producers[i]? = some p') :
    (∃ p, s.producers[i]? = some p) ∨
      i = s.producers.length ∧ ∃ settings jobId source, p' = .start settings jobId source ∧
        s.world.jobs.get? jobId = none ∧ s'.history = s.history ∧
        s'.world.jobs = (s.world.jobs.create (Job.started jobId s.world.now)).2 := by
  have old (length : s'.producers.length = s.producers.length) :
      ∃ p, s.producers[i]? = some p := by
    have hlt := (List.getElem?_eq_some_iff.mp at_).1
    exact ⟨_, List.getElem?_eq_getElem (length ▸ hlt)⟩
  cases step with
  | @started settings jobId source fresh =>
    by_cases hlt : i < s.producers.length
    · exact .inl ⟨_, List.getElem?_eq_getElem hlt⟩
    · obtain ⟨hlt', hp'⟩ := List.getElem?_eq_some_iff.mp at_
      have hi : i = s.producers.length := by
        simp only [List.length_append, List.length_singleton] at hlt'
        omega
      subst hi
      refine .inr ⟨rfl, settings, jobId, source, ?_, fresh, rfl, rfl⟩
      rw [← hp', List.getElem_append_right (Nat.le_refl _)]
      simp
  | received _ _ _ =>
    refine .inl (old ?_)
    simp only [setWorker]
    unfold letIn
    split
    · rfl
    · split
      · exact List.length_set ..
      · rfl
  | read _ | go _ _ _ | refused _ _ _ _ | published _ _ _ _ _ _ | asked _ _ _ _ _ =>
    exact .inl (old (List.length_set ..))
  | _ => exact .inl (old rfl)

theorem book_congr (job : s'.world.jobs.get? id = s.world.jobs.get? id)
    (history : s'.history = s.history) : s'.book id = s.book id := by
  unfold book published countedFor flushed taken counted
  rw [job, history]

/-- An answer that adds to counters comes from a job that is known. -/
theorem get?_of_rows {c : Call} {answer : c.Answer} {world : World}
    (replies : s.world.answer c = (answer, world)) (hid : c.jobId? = some id)
    (h : c.rows answer ≠ 0 ∨ c.counts answer = true) :
    (s.world.jobs.get? id).isSome = true := by
  cases c with
  | increment id' processed failed =>
    obtain rfl := Option.some.inj hid
    have hfst := congrArg Prod.fst replies
    rw [World.answer_increment, JobTable.fst_increment] at hfst
    cases hget : s.world.jobs.get? id' with
    | some job => rfl
    | none =>
      rw [hget] at hfst
      cases answer with
      | error f =>
        rcases h with h | h
        · exact absurd rfl h
        · cases h
      | ok counters =>
        simp only at hfst
        split at hfst <;> cases hfst
  | _ =>
    rcases h with h | h
    · exact absurd rfl h
    · cases h

theorem Step.blank (registered : s.Registered) (step : Step s a s')
    (h : s'.world.jobs.get? id = none) : s'.book id = ⟨none, [], [], 0⟩ := by
  have hnone : s.world.jobs.get? id = none := by
    by_contra hne
    have hsome := step.known (Option.isSome_iff_ne_none.mpr hne)
    rw [h] at hsome
    cases hsome
  have hblank := registered.blank hnone
  have hget : s'.world.jobs.get? id = s.world.jobs.get? id := h.trans hnone.symm
  have unknown {id' : JobId} (hknown : (s.world.jobs.get? id').isSome = true) : id' ≠ id := by
    intro hid
    rw [hid, hnone] at hknown
    cases hknown
  rcases step.history with history | ⟨e, history, records⟩
  · exact (book_congr hget history).trans hblank
  · refine ((book_congr (s := s.record e) hget history).trans ?_).trans hblank
    cases records with
    | refused =>
      exact book_record_of_other (fun _ h => by cases h) (fun _ h => by cases h) rfl
    | @taken i p chunk _ at_ asks =>
      refine book_record_of_other (fun c hc => ?_) (fun _ h => by cases h) rfl
      obtain rfl := Option.some.inj hc
      cases asks with
      | published hpoint =>
        rw [registered.own at_ (by rw [hpoint]; rfl)]
        exact unknown (registered.known at_)
    | @asked i p c answer _ at_ replies =>
      refine book_record_of_other (fun _ h => by cases h) (fun _ h => by cases h) ?_
      show (if c.jobId? = some id then c.rows answer else 0) = 0
      split
      · rename_i hid
        by_contra hrows
        exact unknown (get?_of_rows replies hid (.inl hrows)) rfl
      · rfl
    | @handled j d stage next c answer _ replies asks =>
      refine book_record_of_other (fun _ h => by cases h) (fun chunk hchunk => ?_) rfl
      simp only [Event.counted?] at hchunk
      split at hchunk
      · rename_i hcounts
        obtain rfl := Option.some.inj hchunk
        have hid : c.jobId? = some d.chunk.jobId := by
          rcases asks.jobId.1 with hid | hid
          · exact hid
          · cases asks <;> first | rfl | cases hcounts
        exact unknown (get?_of_rows replies hid (.inr hcounts))
      · cases hchunk
    | settled _ _ =>
      exact book_record_of_other (fun _ h => by cases h) (fun _ h => by cases h) rfl

/-- What any step leaves of the imports: each goes on, a new one starts on a fresh job, no job goes
away, and an unknown one has a blank book. -/
structure Passage (T : Producer → Producer → Book → Book → Prop) (s s' : System) : Prop where
  continues : ∀ {i : Nat} {p : Producer}, s.producers[i]? = some p → Continues T s s' i p
  origin : ∀ {i : Nat} {p' : Producer}, s'.producers[i]? = some p' →
    (∃ p, s.producers[i]? = some p) ∨
      i = s.producers.length ∧ ∃ settings jobId source, p' = .start settings jobId source ∧
        s.world.jobs.get? jobId = none ∧ s'.history = s.history ∧
        s'.world.jobs = (s.world.jobs.create (Job.started jobId s.world.now)).2
  known : ∀ {id : JobId}, (s.world.jobs.get? id).isSome = true →
    (s'.world.jobs.get? id).isSome = true
  blank : ∀ {id : JobId}, s'.world.jobs.get? id = none → s'.book id = ⟨none, [], [], 0⟩

theorem Step.passage (step : Step s a s') (registered : s.Registered) :
    Passage (Turn s a s') s s' where
  continues := step.continues registered
  origin := step.origin
  known := step.known
  blank := step.blank registered

theorem Registered.pass {T : Producer → Producer → Book → Book → Prop} (h : s.Registered)
    (passage : Passage T s s')
    (own : ∀ {p p' : Producer} {b b' : Book} {chunk : Chunk}, T p p' b b' →
      p'.state.point.chunk? = some chunk →
      p.state.point.chunk? = some chunk ∨ chunk.jobId = p.jobId) : s'.Registered := by
  have old {i : Nat} {p p' : Producer} (at_ : s.producers[i]? = some p)
      (at' : s'.producers[i]? = some p') :
      p'.jobId = p.jobId ∧ T p p' (s.book p.jobId) (s'.book p.jobId) := by
    obtain ⟨q, hq, -, -, jobId, turn⟩ := passage.continues at_
    obtain rfl : q = p' := Option.some.inj (hq.symm.trans at')
    exact ⟨jobId, turn⟩
  have unknown {i : Nat} {p : Producer} {id : JobId} (at_ : s.producers[i]? = some p)
      (fresh : s.world.jobs.get? id = none) : p.jobId ≠ id := by
    intro hid
    have hknown := h.known at_
    rw [hid, fresh] at hknown
    cases hknown
  constructor
  case distinct =>
    intro i k p' q' hp hq hid
    rcases passage.origin hp with ⟨p, hp₀⟩ | ⟨hi, _, id, _, rfl, fresh, -⟩
    · rcases passage.origin hq with ⟨q, hq₀⟩ | ⟨hk, _, id, _, rfl, fresh, -⟩
      · rw [(old hp₀ hp).1, (old hq₀ hq).1] at hid
        exact h.distinct hp₀ hq₀ hid
      · rw [(old hp₀ hp).1] at hid
        exact absurd hid (unknown hp₀ fresh)
    · rcases passage.origin hq with ⟨q, hq₀⟩ | ⟨hk, -⟩
      · rw [(old hq₀ hq).1] at hid
        exact absurd hid.symm (unknown hq₀ fresh)
      · exact hi.trans hk.symm
  case known =>
    intro i p' hp
    rcases passage.origin hp with ⟨p, hp₀⟩ | ⟨-, _, id, _, rfl, fresh, -, jobs⟩
    · rw [(old hp₀ hp).1]
      exact passage.known (h.known hp₀)
    · rw [jobs]
      exact Option.isSome_of_eq_some (get?_started_self fresh)
  case own =>
    intro i p' chunk hp hchunk
    rcases passage.origin hp with ⟨p, hp₀⟩ | ⟨-, _, id, _, rfl, -⟩
    · rw [(old hp₀ hp).1]
      rcases own (old hp₀ hp).2 hchunk with hchunk | hown
      · exact h.own hp₀ hchunk
      · exact hown
    · cases hchunk
  case blank => exact passage.blank

theorem Registered.step (h : s.Registered) (step : Step s a s') : s'.Registered :=
  h.pass (step.passage h) Turn.chunk

theorem registered_opening (world : World) (workers : Nat) :
    (opening world workers).Registered where
  distinct := fun hp => by simp [opening] at hp
  known := fun hp => by simp [opening] at hp
  own := fun hp => by simp [opening] at hp
  blank := fun hnone => by
    show Book.mk (world.jobs.get? _) _ _ _ = _
    rw [show world.jobs.get? _ = none from hnone]
    rfl

theorem Registered.book_started {jobId : JobId} (h : s.Registered)
    (fresh : s.world.jobs.get? jobId = none) (history : s'.history = s.history)
    (jobs : s'.world.jobs = (s.world.jobs.create (Job.started jobId s.world.now)).2) :
    s'.book jobId = ⟨some (Job.started jobId s.world.now), [], [], 0⟩ := by
  have hget : s'.world.jobs.get? jobId = some (Job.started jobId s.world.now) := by
    rw [jobs]
    exact get?_started_self fresh
  have hsame : s'.book jobId = { s.book jobId with job := s'.world.jobs.get? jobId } := by
    unfold book System.published countedFor flushed taken counted
    rw [history]
  rw [hsame, h.blank fresh, hget]

/-- What holds of the import of every producer when it starts, and is kept by every turn, is kept
by every step. -/
theorem Passage.imports {T : Producer → Producer → Book → Book → Prop}
    {P : Producer → Book → Prop} (passage : Passage T s s')
    (registered : s.Registered)
    (start : ∀ settings jobId source now,
      P (.start settings jobId source) ⟨some (Job.started jobId now), [], [], 0⟩)
    (turn : ∀ {i : Nat} {p p' : Producer} {b' : Book}, s.producers[i]? = some p →
      P p (s.book p.jobId) → p'.settings = p.settings → p'.source = p.source →
      T p p' (s.book p.jobId) b' → P p' b')
    (h : ∀ {i : Nat} {p : Producer}, s.producers[i]? = some p → P p (s.book p.jobId))
    {i : Nat} {p' : Producer} (at_ : s'.producers[i]? = some p') : P p' (s'.book p'.jobId) := by
  rcases passage.origin at_ with ⟨p, hp⟩ | ⟨-, settings, jobId, source, rfl, fresh, history, jobs⟩
  · obtain ⟨q, hq, hsettings, hsource, hid, hturn⟩ := passage.continues hp
    obtain rfl : q = p' := Option.some.inj (hq.symm.trans at_)
    rw [hid]
    exact turn hp (h hp) hsettings hsource hturn
  · show P _ (s'.book jobId)
    rw [registered.book_started fresh history jobs]
    exact start settings jobId source s.world.now

inductive Comes (s s' : System) (j : Nat) (d : Delivery) : Stage → Prop
  | stays {w : Worker} {stage : Stage} (at_ : s.workers[j]? = some w)
      (busy : w.duty = .busy d stage) : Comes s s' j d stage
  | received {admitted : Option Nat} {bus : Bus}
      (leaves : s.world.bus.receive = (.delivery d admitted, bus)) : Comes s s' j d .loading
  | goes {w : Worker} {stage next : Stage} (at_ : s.workers[j]? = some w)
      (busy : w.duty = .busy d stage) (goes : Stage.Goes d.chunk stage next) : Comes s s' j d next
  | asks {w : Worker} {stage next : Stage} {c : Call} {answer : c.Answer}
      (at_ : s.workers[j]? = some w) (busy : w.duty = .busy d stage)
      (asks : Stage.Asks d.chunk stage c answer next) (replies : (s.world.answer c).1 = answer)
      (world : s'.world = (s.world.answer c).2) (recorded : .handled j d c answer ∈ s'.history) :
      Comes s s' j d next

theorem getElem?_setWorker {k j : Nat} {w w' : Worker} (hw : s.workers[k]? = some w) :
    (s.setWorker k w').workers[j]? = if j = k then some w' else s.workers[j]? := by
  have hlt : k < s.workers.length := (List.getElem?_eq_some_iff.mp hw).1
  unfold setWorker
  rw [List.getElem?_set]
  by_cases h : j = k
  · subst h
    simp [hlt]
  · have hne : ¬k = j := fun hkj => h hkj.symm
    simp [h, hne]

theorem comes_of_set {k j : Nat} {w w' v : Worker} {d : Delivery} {stage : Stage}
    (hw : s.workers[k]? = some w) (at_ : (s.setWorker k w').workers[j]? = some v)
    (busy : v.duty = .busy d stage) (own : w'.duty = .busy d stage → Comes s s' k d stage) :
    Comes s s' j d stage := by
  rw [getElem?_setWorker hw] at at_
  split at at_
  · rename_i hjk
    subst hjk
    obtain rfl := Option.some.inj at_
    exact own busy
  · exact .stays at_ busy

theorem Step.comes {j : Nat} {v : Worker} {d : Delivery} {stage : Stage} (step : Step s a s')
    (at_ : s'.workers[j]? = some v) (busy : v.duty = .busy d stage) : Comes s s' j d stage := by
  cases step with
  | @received k w e admitted bus hw _ leaves =>
    have hw' : ((s.setBus bus).letIn admitted).workers[k]? = some w := by
      rw [workers_letIn]
      exact hw
    rw [getElem?_setWorker hw', workers_letIn] at at_
    split at at_
    · obtain rfl := Option.some.inj at_
      cases busy
      exact .received leaves
    · exact .stays at_ busy
  | left hw _ _ => exact comes_of_set hw at_ busy fun h => by cases h
  | thought hw hbusy goes =>
    refine comes_of_set hw at_ busy fun h => ?_
    cases h
    exact .goes hw hbusy goes
  | @handled k w e stage next c answer world hw hbusy replies asks =>
    have hw' : ({ s with world }.record (.handled k e c answer)).workers[k]? = some w := hw
    rw [getElem?_setWorker hw'] at at_
    split at at_
    · rename_i hjk
      subst hjk
      obtain rfl := Option.some.inj at_
      cases busy
      exact .asks hw hbusy asks (by rw [replies]) (by rw [replies]; rfl)
        (List.mem_append_right _ List.mem_cons_self)
    · exact .stays at_ busy
  | @settled k w e result hw _ =>
    unfold settle at at_
    have hw' : ((s.setBus (s.world.bus.settleWith e result)).record
        (.settled k e result)).workers[k]? = some w := hw
    rw [getElem?_setWorker hw'] at at_
    split at at_
    · obtain rfl := Option.some.inj at_
      cases busy
    · exact .stays at_ busy
  | hired =>
    have hat : (s.workers ++ [({} : Worker)])[j]? = some v := at_
    rw [List.getElem?_append] at hat
    split at hat
    · exact .stays hat busy
    · obtain ⟨rfl, -⟩ : v = {} ∧ True := by
        have := List.mem_of_getElem? hat
        simpa using this
      cases busy
  | _ => exact .stays at_ busy

def Fitting (s : System) : Prop :=
  ∀ {j : Nat} {w : Worker} {d : Delivery} {stage : Stage}, s.workers[j]? = some w →
    w.duty = .busy d stage → stage.Fits d.chunk

theorem Fitting.step (h : s.Fitting) (step : Step s a s') : s'.Fitting := by
  intro j v d stage at_ busy
  cases step.comes at_ busy with
  | stays at_ busy => exact h at_ busy
  | received _ => trivial
  | goes at_ busy goes => exact (h at_ busy).goes goes
  | asks at_ busy asks _ _ => exact (h at_ busy).asks asks

theorem fitting_opening (world : World) (workers : Nat) : (opening world workers).Fitting := by
  intro j w d stage at_ busy
  rw [duty_opening at_] at busy
  cases busy

def Labelled (s : System) : Prop :=
  ∀ {j : Nat} {w : Worker} {d : Delivery} {stage : Stage}, s.workers[j]? = some w →
    w.duty = .busy d stage → ∀ e ∈ stage.errors, e.jobId = d.chunk.jobId

theorem Labelled.step (h : s.Labelled) (step : Step s a s') : s'.Labelled := by
  intro j v d stage at_ busy
  cases step.comes at_ busy with
  | stays at_ busy => exact h at_ busy
  | received _ => exact fun e he => by cases he
  | goes at_ busy goes => exact Stage.errors_of_goes goes (h at_ busy)
  | asks at_ busy asks _ _ => exact Stage.errors_of_asks asks (h at_ busy)

theorem labelled_opening (world : World) (workers : Nat) : (opening world workers).Labelled := by
  intro j w d stage at_ busy
  rw [duty_opening at_] at busy
  cases busy

end Concurrency.System

end CatalogIntake
