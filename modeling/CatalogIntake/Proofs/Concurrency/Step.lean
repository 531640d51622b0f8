import CatalogIntake.Proofs.Concurrency.System

namespace CatalogIntake.Concurrency

open Simulation

namespace System

inductive Step (s : System) : Action → System → Prop
  | read {i : Nat} {p : Producer} (at_ : s.producers[i]? = some p) :
      Step s (.read i) (s.setProducer i { p with channel := p.channel + 1 })
  | go {i : Nat} {p : Producer} {state : Producing}
      (at_ : s.producers[i]? = some p) (ready : p.waiting = false)
      (goes : Producing.Goes p.settings p.state state) :
      Step s (.produce i) (s.setProducer i (p.goTo state))
  | refused {i : Nat} {p : Producer} {chunk : Chunk} {state : Producing}
      (at_ : s.producers[i]? = some p) (ready : p.waiting = false)
      (closed : s.world.bus.closed = true)
      (asks : Producing.Asks p.settings p.state (.publish chunk) (.fail .busClosed) state) :
      Step s (.produce i) ((s.record (.asked i (.publish chunk) (.fail .busClosed))).setProducer i
        (p.goTo state))
  | published {i : Nat} {p q : Producer} {chunk : Chunk} {state : Producing}
      {admission : Bus.Admission} {bus : Bus}
      (at_ : s.producers[i]? = some p) (ready : p.waiting = false)
      (enters : s.world.bus.publish i chunk = (admission, bus)) (taken : admission ≠ .refused)
      (asks : Producing.Asks p.settings p.state (.publish chunk) (.ok ()) state)
      (moved : q = { p.goTo state with waiting := q.waiting }) :
      Step s (.produce i) (((s.setBus bus).record (.taken i chunk)).setProducer i q)
  | asked {i : Nat} {p : Producer} {c : Call} {answer : c.Answer} {world : World}
      {state : Producing}
      (at_ : s.producers[i]? = some p) (ready : p.waiting = false)
      (store : ∀ chunk, c ≠ .publish chunk) (replies : s.world.answer c = (answer, world))
      (asks : Producing.Asks p.settings p.state c answer state) :
      Step s (.produce i)
        (({ s with world }.record (.asked i c answer)).setProducer i (p.goTo state))
  | received {j : Nat} {w : Worker} {d : Delivery} {admitted : Option Nat} {bus : Bus}
      (at_ : s.workers[j]? = some w) (idle : w.duty = .idle)
      (leaves : s.world.bus.receive = (.delivery d admitted, bus)) :
      Step s (.work j)
        (((s.setBus bus).letIn admitted).setWorker j { w with duty := .busy d .loading })
  | left {j : Nat} {w : Worker} {bus : Bus}
      (at_ : s.workers[j]? = some w) (idle : w.duty = .idle)
      (ends : s.world.bus.receive = (.finished, bus)) :
      Step s (.work j) (s.setWorker j { w with duty := .gone })
  | thought {j : Nat} {w : Worker} {d : Delivery} {stage next : Stage}
      (at_ : s.workers[j]? = some w) (busy : w.duty = .busy d stage)
      (goes : Stage.Goes d.chunk stage next) :
      Step s (.work j) (s.setWorker j { w with duty := .busy d next })
  | handled {j : Nat} {w : Worker} {d : Delivery} {stage next : Stage} {c : Call}
      {answer : c.Answer} {world : World}
      (at_ : s.workers[j]? = some w) (busy : w.duty = .busy d stage)
      (replies : s.world.answer c = (answer, world))
      (asks : Stage.Asks d.chunk stage c answer next) :
      Step s (.work j) (({ s with world }.record (.handled j d c answer)).setWorker j
        { w with duty := .busy d next })
  | settled {j : Nat} {w : Worker} {d : Delivery} {result : Outcome ChunkOutcome}
      (at_ : s.workers[j]? = some w) (busy : w.duty = .busy d (.settled result)) :
      Step s (.work j) (s.settle j w d result)
  | started {settings : ImportSettings} {jobId : JobId} {source : List RowEvent}
      (fresh : s.world.jobs.get? jobId = none) :
      Step s (.start settings jobId source) { s with
        world := { s.world with
          jobs := (s.world.jobs.create (Job.started jobId s.world.now)).2 }
        producers := s.producers ++ [.start settings jobId source] }
  | hired : Step s .hire { s with workers := s.workers ++ [{}] }
  | cancelled (id : JobId) :
      Step s (.cancel id) { s with
        world := { s.world with jobs := (s.world.jobs.cancel id s.world.now).2 } }
  | supplied (supply : Supply) (value : Bool) :
      Step s (.supply supply value) { s with world := s.world.setAvailable supply value }
  | closed : Step s .close (s.setBus s.world.bus.close)
  | waited (now : Instant) : Step s (.wait now) { s with world := { s.world with now } }

variable {s s' : System}

theorem step_of_ask {i : Nat} {p : Producer} {c : Call} {next : c.Answer → Producing}
    (at_ : s.producers[i]? = some p) (ready : p.waiting = false)
    (moves : p.state.move p.settings = .ask c next) : Step s (.produce i) (s.ask i p c next) := by
  have asks := Producing.asks_of_move moves
  unfold ask
  split
  · rename_i chunk next
    split
    · rename_i enters
      have closed : s.world.bus.closed = true := by
        rcases Bus.publish_cases enters with ⟨-, closed, -⟩ | ⟨taken, -⟩
        · exact closed
        · exact absurd rfl taken
      exact .refused at_ ready closed (asks (.fail .busClosed))
    · exact .published at_ ready ‹_› (by decide) (asks (.ok ())) rfl
    · exact .published at_ ready ‹_› (by decide) (asks (.ok ())) rfl
  · rename_i hc
    exact .asked at_ ready (fun chunk heq => by
      subst heq
      exact hc chunk next rfl HEq.rfl) rfl (asks _)

theorem step_of_moveProducer {i : Nat} {p : Producer} (at_ : s.producers[i]? = some p)
    (ready : p.waiting = false) (h : s.moveProducer i p = some s') : Step s (.produce i) s' := by
  unfold moveProducer at h
  split at h
  · cases h
    exact .go at_ ready (Producing.goes_of_move ‹_›)
  · cases h
    exact step_of_ask at_ ready ‹_›
  · cases h

theorem step_of_moveWorker {j : Nat} {w : Worker} (at_ : s.workers[j]? = some w)
    (h : s.moveWorker j w = some s') : Step s (.work j) s' := by
  unfold moveWorker at h
  split at h
  · split at h
    · cases h
    · cases h
      exact .left at_ ‹_› ‹_›
    · cases h
      exact .received at_ ‹_› ‹_›
  · rename_i busy
    split at h
    · rename_i moves
      cases h
      exact .thought at_ busy (Stage.goes_of_move moves)
    · rename_i moves
      cases h
      exact .handled at_ busy rfl (Stage.asks_of_move moves _)
    · rename_i moves
      cases h
      rw [Stage.settled_of_move moves] at busy
      exact .settled at_ busy
  · cases h

theorem step_of_startImport {settings : ImportSettings} {jobId : JobId} {source : List RowEvent}
    (h : s.startImport settings jobId source = some s') :
    Step s (.start settings jobId source) s' := by
  unfold startImport at h
  rw [World.answer_createJob] at h
  cases hget : s.world.jobs.get? jobId with
  | some job =>
    have hid : (Job.started jobId s.world.now).id = jobId := rfl
    simp [JobTable.create, hid, hget, Outcome.fail] at h
  | none =>
    have hid : (Job.started jobId s.world.now).id = jobId := rfl
    have hok : (s.world.jobs.create (Job.started jobId s.world.now)).1 = .ok () := by
      simp [JobTable.create, hid, hget]
    rw [hok] at h
    cases h
    exact .started hget

theorem step_of_act {a : Action} (h : s.act a = some s') : Step s a s' := by
  cases a with
  | read i =>
    simp only [act] at h
    split at h
    · split at h
      · cases h
        exact .read ‹_›
      · cases h
    · cases h
  | produce i =>
    simp only [act] at h
    split at h
    · split at h
      · rename_i hcan
        refine step_of_moveProducer ‹_› ?_ h
        simp only [Producer.canMove, Bool.and_eq_true, Bool.not_eq_true'] at hcan
        exact hcan.1
      · cases h
    · cases h
  | work j =>
    simp only [act] at h
    split at h
    · exact step_of_moveWorker ‹_› h
    · cases h
  | start settings jobId source => exact step_of_startImport h
  | hire =>
    cases h
    exact .hired
  | cancel id =>
    cases h
    exact .cancelled id
  | supply supply value =>
    cases h
    exact .supplied supply value
  | close =>
    cases h
    exact .closed
  | wait now =>
    cases h
    exact .waited now

/-- What every action keeps, every run keeps; the actions may be of one kind only. -/
theorem run_keeps {P : System → Prop} {Q : Action → Prop}
    (keeps : ∀ {a : Action} {s s' : System}, Q a → s.act a = some s' → P s → P s')
    {schedule : List Action} (kind : ∀ a ∈ schedule, Q a) (h : s.run schedule = some s')
    (hs : P s) : P s' := by
  induction schedule generalizing s with
  | nil =>
    cases h
    exact hs
  | cons a schedule ih =>
    simp only [run] at h
    split at h
    · have ha : Q a := kind a List.mem_cons_self
      have hrest : ∀ b ∈ schedule, Q b := fun b hb => kind b (List.mem_cons_of_mem a hb)
      exact ih hrest h (keeps ha ‹_› hs)
    · cases h

/-- What every step keeps, every run keeps; the steps may be of one kind only. -/
theorem run_invariant_of {P : System → Prop} {Q : Action → Prop}
    (keeps : ∀ {a : Action} {s s' : System}, Q a → Step s a s' → P s → P s')
    {schedule : List Action} (kind : ∀ a ∈ schedule, Q a) (h : s.run schedule = some s')
    (hs : P s) : P s' :=
  run_keeps (fun kind acts => keeps kind (step_of_act acts)) kind h hs

theorem run_invariant {P : System → Prop}
    (keeps : ∀ {a : Action} {s s' : System}, Step s a s' → P s → P s')
    {schedule : List Action} (h : s.run schedule = some s') (hs : P s) : P s' :=
  run_invariant_of (Q := fun _ => True) (fun _ => keeps) (fun _ _ => trivial) h hs

theorem run_append {first second : List Action} :
    s.run (first ++ second) = (s.run first).bind fun s => s.run second := by
  induction first generalizing s with
  | nil => rfl
  | cons a first ih =>
    simp only [List.cons_append, run]
    split
    · exact ih
    · rfl

end System

end CatalogIntake.Concurrency
