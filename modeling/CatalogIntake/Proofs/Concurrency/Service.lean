import CatalogIntake.Proofs.Concurrency.Holding
import CatalogIntake.Proofs.Concurrency.Undisturbed

namespace CatalogIntake.Concurrency

def Event.worker? : Event → Option Nat
  | handled j _ _ _ | settled j _ _ => some j
  | _ => none

namespace System

variable {a : Action} {s s' : System} {i j : Nat} {p : Producer} {job : Job} {d : Delivery}
  {stage : Stage} {chunk : Chunk}

structure Served (s : System) : Prop where
  available : s.world.Available
  unfailed : ∀ {j : Nat} {w : Worker} {d : Delivery} {f : Failure}, s.workers[j]? = some w →
    w.duty ≠ .busy d (.settled (.error f))
  dropped : s.dropped = []

theorem Served.increment (h : s.Served) (sound : s.Sound) {w : Worker}
    (at_ : s.workers[j]? = some w) (busy : w.duty = .busy d stage)
    (uncounted_ : stage.isCounted = false) (processed failed : Int) (f : Failure) :
    (s.world.answer (.increment d.chunk.jobId processed failed)).1 ≠ .error f := by
  have hknown := sound.registered.known_of_open sound.balanced
    (mem_openFor_of_busy at_ busy uncounted_)
  obtain ⟨job, hjob⟩ := Option.isSome_iff_exists.mp hknown
  exact h.available.increment hjob processed failed f

theorem Served.step (h : s.Served) (sound : s.Sound) (on : a.isOutage = false)
    (step : Step s a s') : s'.Served where
  available := step.available on h.available
  dropped := step.dropped h.dropped h.unfailed
  unfailed := by
    intro j w d f at_ busy
    cases step.comes at_ busy with
    | stays hw hbusy => exact h.unfailed hw hbusy
    | goes _ _ goes => cases goes
    | asks hw hbusy asks replies _ =>
      cases asks with
      | unloaded => cases replies
      | uncounted => exact h.increment sound hw hbusy rfl _ _ _ replies

theorem served_opening {world : World} (available : world.Available) (workers : Nat) :
    (opening world workers).Served where
  available := available
  unfailed := by
    intro j w d f at_ busy
    rw [duty_opening at_] at busy
    cases busy
  dropped := rfl

/-- On a drained bus all that has been published and flushed is accounted for, however its producer
has ended. -/
theorem Served.accounted (h : s.Served) (sound : s.Sound) (at_ : s.producers[i]? = some p)
    (known : s.world.jobs.get? p.jobId = some job) (drained : s.world.bus.isDrained = true) :
    job.rowsAccounted = Chunk.rowCount (s.published p.jobId) + s.flushed p.jobId := by
  have himport := sound.import_of_get at_ known
  have hopen : s.openFor p.jobId = [] := by
    refine openFor_of_drained sound drained ?_
    rw [h.dropped]
    exact fun chunk hchunk => by cases hchunk
  have hcount := sound.balanced.rowCount_published p.jobId
  rw [hopen] at hcount
  rw [himport.accounted, hcount]
  rfl

def doings (s : System) (j : Nat) : List Event := s.history.filter (·.worker? = some j)

inductive Advance (s s' : System) (j : Nat) (d : Delivery) : Stage → Prop
  | rested {stage : Stage} (holding : s'.holding j = some (d, stage))
      (doings : s'.doings j = s.doings j) : Advance s s' j d stage
  | went {stage next : Stage} (goes : Stage.Goes d.chunk stage next)
      (holding : s'.holding j = some (d, next)) (doings : s'.doings j = s.doings j) :
      Advance s s' j d stage
  | asked {stage next : Stage} {c : Call} {answer : c.Answer}
      (asks : Stage.Asks d.chunk stage c answer next)
      (replies : (s.world.answer c).1 = answer) (holding : s'.holding j = some (d, next))
      (doings : s'.doings j = s.doings j ++ [.handled j d c answer]) : Advance s s' j d stage
  | settled {result : Outcome ChunkOutcome}
      (doings : s'.doings j = s.doings j ++ [.settled j d result]) :
      Advance s s' j d (.settled result)

theorem doings_congr (history : s'.history = s.history) : s'.doings j = s.doings j := by
  unfold doings
  rw [history]

theorem doings_concat {e : Event} (history : s'.history = s.history ++ [e]) :
    s'.doings j = s.doings j ++ if e.worker? = some j then [e] else [] := by
  unfold doings
  rw [history, List.filter_append, List.filter_singleton]
  split <;> simp_all

/-- What is not done by a worker does not show in what it has done. -/
theorem doings_of_other {e : Event} (history : s'.history = s.history ++ [e])
    (other : e.worker? ≠ some j) : s'.doings j = s.doings j := by
  rw [doings_concat history, if_neg other, List.append_nil]

theorem Step.doings (step : Step s a s') (j : Nat) : ∃ more, s'.doings j = s.doings j ++ more := by
  rcases step.history with history | ⟨e, history, -⟩
  · exact ⟨[], (doings_congr history).trans (List.append_nil _).symm⟩
  · exact ⟨_, doings_concat history⟩

theorem advance_of_workers (had : s.holding j = some (d, stage)) (workers : s'.workers = s.workers)
    (doings : s'.doings j = s.doings j) : Advance s s' j d stage :=
  .rested ((holding_of_workers workers j).trans had) doings

theorem advance_of_set {t : System} {k : Nat} {w w' : Worker}
    (had : s.holding j = some (d, stage)) (workers : t.workers = s.workers)
    (at_ : s.workers[k]? = some w) (doings : j ≠ k → t.doings j = s.doings j)
    (own : j = k → w.duty = .busy d stage →
      (t.setWorker k w').holding j = w'.duty.holding? → Advance s (t.setWorker k w') j d stage) :
    Advance s (t.setWorker k w') j d stage := by
  have hset := holding_setWorker workers at_ w' j
  by_cases hjk : j = k
  · obtain ⟨v, hv, busy⟩ := busy_of_holding had
    rw [hjk, at_] at hv
    obtain rfl := Option.some.inj hv
    exact own hjk busy (hset.trans (if_pos hjk))
  · exact .rested ((hset.trans (if_neg hjk)).trans had) (doings hjk)

theorem Step.advance (step : Step s a s') (had : s.holding j = some (d, stage)) :
    Advance s s' j d stage := by
  cases step with
  | refused _ _ _ _ | published _ _ _ _ _ _ | asked _ _ _ _ _ =>
    exact advance_of_workers had rfl (doings_of_other rfl fun h => nomatch h)
  | received at_ idle _ =>
    refine advance_of_set had (workers_letIn _ _) at_ (fun _ => doings_congr (history_letIn _ _)) ?_
    intro _ busy
    cases idle.symm.trans busy
  | left at_ idle _ =>
    refine advance_of_set had rfl at_ (fun _ => rfl) ?_
    intro _ busy
    cases idle.symm.trans busy
  | thought at_ busy goes =>
    refine advance_of_set had rfl at_ (fun _ => rfl) ?_
    intro _ hbusy holding
    cases busy.symm.trans hbusy
    exact .went goes holding rfl
  | handled at_ busy replies asks =>
    refine advance_of_set had rfl at_
      (fun hjk => doings_of_other rfl fun h => hjk (Option.some.inj h).symm) ?_
    rintro rfl hbusy holding
    cases busy.symm.trans hbusy
    exact .asked asks (by rw [replies]) holding ((doings_concat rfl).trans (if_pos rfl ▸ rfl))
  | settled at_ busy =>
    refine advance_of_set had rfl at_
      (fun hjk => doings_of_other rfl fun h => hjk (Option.some.inj h).symm) ?_
    rintro rfl hbusy -
    cases busy.symm.trans hbusy
    exact .settled ((doings_concat rfl).trans (if_pos rfl ▸ rfl))
  | hired =>
    refine .rested ?_ rfl
    obtain ⟨v, hv, -⟩ := busy_of_holding had
    have hlt : j < s.workers.length := (List.getElem?_eq_some_iff.mp hv).1
    refine (congrArg (Option.bind · _) ?_).trans had
    exact List.getElem?_append_left hlt
  | _ => exact advance_of_workers had rfl rfl

end System

end CatalogIntake.Concurrency
