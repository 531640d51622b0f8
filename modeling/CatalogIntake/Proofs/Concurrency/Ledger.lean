import CatalogIntake.Proofs.Concurrency.Step
import CatalogIntake.Proofs.Pipeline.Storing

/-!
Where the chunks are. A chunk that the bus has taken is on the bus, or with a worker that has not
counted it, or counted, or dropped after its fifth attempt, or ignored because its job is unknown;
and it is in one of these places only.
-/

namespace CatalogIntake

namespace Concurrency

namespace Event

def taken? : Event → Option Chunk
  | taken _ chunk => some chunk
  | _ => none

def counted? : Event → Option Chunk
  | handled _ d c answer => if c.counts answer then some d.chunk else none
  | _ => none

def dropped? : Event → Option Chunk
  | settled _ d (.error _) => if Bus.maxAttempts ≤ d.attempts then some d.chunk else none
  | _ => none

def ignored? : Event → Option Chunk
  | settled _ d (.ok outcome) => if outcome.dropped then some d.chunk else none
  | _ => none

end Event

def Duty.delivery? : Duty → Option Delivery
  | .busy d _ => some d
  | _ => none

def Duty.uncounted? : Duty → Option Chunk
  | .busy d stage => if stage.isCounted then none else some d.chunk
  | _ => none

namespace System

def taken (s : System) : List Chunk := s.history.filterMap Event.taken?

def counted (s : System) : List Chunk := s.history.filterMap Event.counted?

def dropped (s : System) : List Chunk := s.history.filterMap Event.dropped?

def ignored (s : System) : List Chunk := s.history.filterMap Event.ignored?

def offered (s : System) : List Chunk := s.world.bus.deliveries.map (·.chunk)

def held (s : System) : List Delivery := s.workers.filterMap (·.duty.delivery?)

def uncounted (s : System) : List Chunk := s.workers.filterMap (·.duty.uncounted?)

structure Balanced (s : System) : Prop where
  chunks : ∀ c, s.taken.count c = s.offered.count c + s.uncounted.count c + s.counted.count c +
    s.dropped.count c + s.ignored.count c
  outstanding : s.world.bus.outstanding = s.world.bus.deliveries.length + s.held.length

section Views

variable (s : System) (i j : Nat) (p : Producer) (w : Worker) (e : Event) (bus : Bus)

@[simp] theorem history_letIn (ticket : Option Nat) : (s.letIn ticket).history = s.history := by
  unfold letIn
  split
  · rfl
  · split <;> rfl

@[simp] theorem world_letIn (ticket : Option Nat) : (s.letIn ticket).world = s.world := by
  unfold letIn
  split
  · rfl
  · split <;> rfl

@[simp] theorem workers_letIn (ticket : Option Nat) : (s.letIn ticket).workers = s.workers := by
  unfold letIn
  split
  · rfl
  · split <;> rfl

end Views

theorem duty_opening {world : World} {workers j : Nat} {w : Worker}
    (at_ : (opening world workers).workers[j]? = some w) : w.duty = .idle := by
  have hw := List.mem_of_getElem? at_
  rw [(List.mem_replicate.mp hw).2]

theorem filterMap_concat {α β : Type} (f : α → Option β) (l : List α) (x : α) :
    (l ++ [x]).filterMap f = l.filterMap f ++ (f x).toList := by
  rw [List.filterMap_append, List.filterMap_cons]
  cases f x <;> rfl

inductive Records (s : System) : Event → Prop
  | refused {i : Nat} {chunk : Chunk} :
      Records s (.asked i (.publish chunk) (.fail .busClosed))
  | asked {i : Nat} {p : Producer} {c : Call} {answer : c.Answer} {world : World}
      (at_ : s.producers[i]? = some p) (replies : s.world.answer c = (answer, world)) :
      Records s (.asked i c answer)
  | taken {i : Nat} {p : Producer} {chunk : Chunk} {state : Producing}
      (at_ : s.producers[i]? = some p)
      (asks : Producing.Asks p.settings p.state (.publish chunk) (.ok ()) state) :
      Records s (.taken i chunk)
  | handled {j : Nat} {d : Delivery} {stage next : Stage} {c : Call} {answer : c.Answer}
      {world : World} (replies : s.world.answer c = (answer, world))
      (asks : Stage.Asks d.chunk stage c answer next) : Records s (.handled j d c answer)
  | settled {j : Nat} {w : Worker} {d : Delivery} {result : Outcome ChunkOutcome}
      (at_ : s.workers[j]? = some w) (busy : w.duty = .busy d (.settled result)) :
      Records s (.settled j d result)

theorem Step.history {a : Action} {s s' : System} (step : Step s a s') :
    s'.history = s.history ∨ ∃ e, s'.history = s.history ++ [e] ∧ Records s e := by
  cases step with
  | refused _ _ _ _ => exact .inr ⟨_, rfl, .refused⟩
  | published at_ _ _ _ asks _ => exact .inr ⟨_, rfl, .taken at_ asks⟩
  | asked at_ _ _ replies _ => exact .inr ⟨_, rfl, .asked at_ replies⟩
  | handled _ _ replies asks => exact .inr ⟨_, rfl, .handled replies asks⟩
  | settled at_ busy => exact .inr ⟨_, rfl, .settled at_ busy⟩
  | received _ _ _ => exact .inl (history_letIn _ _)
  | _ => exact .inl rfl

/-- What is kept of the history stays as it is, if nothing is kept of what the step writes down. -/
theorem Step.keeps {α : Type} {f : Event → Option α} {a : Action} {s s' : System}
    (step : Step s a s') (nothing : ∀ e, Records s e → f e = none) :
    s'.history.filterMap f = s.history.filterMap f := by
  rcases step.history with history | ⟨e, history, records⟩
  · rw [history]
  · rw [history, filterMap_concat, nothing e records, Option.toList_none, List.append_nil]

theorem perm_eraseIdx {α : Type} {l : List α} {j : Nat} {x : α} (at_ : l[j]? = some x) :
    l.Perm (x :: l.eraseIdx j) := by
  obtain ⟨hlt, rfl⟩ := List.getElem?_eq_some_iff.mp at_
  exact (List.getElem_cons_eraseIdx_perm hlt).symm

theorem perm_set {α : Type} {l : List α} {j : Nat} {x : α} (y : α) (at_ : l[j]? = some x) :
    (l.set j y).Perm (y :: l.eraseIdx j) :=
  List.set_perm_cons_eraseIdx (List.getElem?_eq_some_iff.mp at_).1 y

section Balance

variable {a : Action} {s s' : System} {j : Nat} {w : Worker} {c : Chunk}

theorem count_uncounted_setWorker (w' : Worker) (c : Chunk) (at_ : s.workers[j]? = some w) :
    (s.setWorker j w').uncounted.count c + w.duty.uncounted?.toList.count c =
      s.uncounted.count c + w'.duty.uncounted?.toList.count c := by
  unfold uncounted setWorker
  rw [((perm_set w' at_).filterMap _).count_eq, ((perm_eraseIdx at_).filterMap _).count_eq]
  rw [List.filterMap_cons, List.filterMap_cons]
  cases w.duty.uncounted? <;> cases w'.duty.uncounted? <;> simp [List.count_cons]
  omega

theorem length_held_setWorker (w' : Worker) (at_ : s.workers[j]? = some w) :
    (s.setWorker j w').held.length + w.duty.delivery?.toList.length =
      s.held.length + w'.duty.delivery?.toList.length := by
  unfold held setWorker
  rw [((perm_set w' at_).filterMap _).length_eq, ((perm_eraseIdx at_).filterMap _).length_eq]
  rw [List.filterMap_cons, List.filterMap_cons]
  cases w.duty.delivery? <;> cases w'.duty.delivery? <;> rfl

/-- A step that leaves the deliveries and the workers alone, and does nothing that is written down
under a chunk. -/
theorem Balanced.quiet (h : s.Balanced) (history : ∃ es, s'.history = s.history ++ es ∧
      ∀ e ∈ es, ∃ i c answer, e = .asked i c answer)
    (deliveries : s'.world.bus.deliveries = s.world.bus.deliveries)
    (outstanding : s'.world.bus.outstanding = s.world.bus.outstanding)
    (workers : s'.workers = s.workers) : s'.Balanced := by
  obtain ⟨es, history, asked⟩ := history
  have nothing {f : Event → Option Chunk} (hf : ∀ i c answer, f (.asked i c answer) = none) :
      s'.history.filterMap f = s.history.filterMap f := by
    rw [history, List.filterMap_append, List.append_right_eq_self, List.filterMap_eq_nil_iff]
    intro e he
    obtain ⟨i, c, answer, rfl⟩ := asked e he
    exact hf i c answer
  constructor
  · intro c
    have hc := h.chunks c
    unfold taken counted dropped ignored offered uncounted at hc ⊢
    rw [nothing fun _ _ _ => rfl, nothing fun _ _ _ => rfl, nothing fun _ _ _ => rfl,
      nothing fun _ _ _ => rfl, deliveries, workers]
    exact hc
  · have hheld : s'.held = s.held := by
      unfold held
      rw [workers]
    rw [outstanding, deliveries, hheld]
    exact h.outstanding

theorem Balanced.publish {i : Nat} {bus : Bus} {admission : Bus.Admission} (h : s.Balanced)
    (enters : s.world.bus.publish i c = (admission, bus)) (taken_ : admission ≠ .refused) :
    ((s.setBus bus).record (.taken i c)).Balanced := by
  obtain ⟨refused, -⟩ | ⟨-, -, -, deliveries, outstanding⟩ := Bus.publish_cases enters
  · exact absurd refused taken_
  · constructor
    · intro c'
      have hc := h.chunks c'
      simp only [taken, counted, dropped, ignored, offered, uncounted, record, setBus, deliveries,
        List.filterMap_append, List.filterMap_cons, List.filterMap_nil, Event.taken?,
        Event.counted?, Event.dropped?, Event.ignored?, List.count_append, List.map_append,
        List.map_cons, List.map_nil, List.append_nil] at hc ⊢
      omega
    · have hheld := h.outstanding
      simp only [record, setBus, outstanding, deliveries, List.length_append, List.length_singleton,
        held] at hheld ⊢
      omega

theorem Balanced.receive {d : Delivery} {admitted : Option Nat} {bus : Bus} (h : s.Balanced)
    (at_ : s.workers[j]? = some w) (idle : w.duty = .idle)
    (leaves : s.world.bus.receive = (.delivery d admitted, bus)) :
    (((s.setBus bus).letIn admitted).setWorker j { w with duty := .busy d .loading }).Balanced := by
  obtain ⟨first, deliveries, hd, outstanding, -⟩ := Bus.receive_delivery leaves
  have hat : ((s.setBus bus).letIn admitted).workers[j]? = some w := by
    rw [workers_letIn]
    exact at_
  constructor
  · intro c'
    have hc := h.chunks c'
    have hset := count_uncounted_setWorker { w with duty := .busy d .loading } c' hat
    have hchunk : d.chunk = first.chunk := by
      rw [hd]
    simp only [idle, Duty.uncounted?, Stage.isCounted, hchunk, Bool.false_eq_true, if_false,
      Option.toList_none, Option.toList_some, List.count_nil] at hset
    simp only [offered, deliveries, List.map_cons, List.count_cons] at hc
    simp only [List.count_singleton] at hset
    have hu : ((s.setBus bus).letIn admitted).uncounted = s.uncounted := by
      unfold uncounted
      rw [workers_letIn]
      rfl
    rw [hu] at hset
    simp only [taken, counted, dropped, ignored, offered, setWorker, history_letIn, world_letIn,
      setBus] at hc hset ⊢
    omega
  · have hset := length_held_setWorker { w with duty := .busy d .loading } hat
    simp only [idle, Duty.delivery?, Option.toList_none, Option.toList_some, List.length_nil,
      List.length_singleton] at hset
    have hh : ((s.setBus bus).letIn admitted).held = s.held := by
      unfold held
      rw [workers_letIn]
      rfl
    have hout := h.outstanding
    rw [deliveries, List.length_cons] at hout
    rw [hh] at hset
    simp only [setWorker, world_letIn, setBus, outstanding] at hset ⊢
    omega

theorem Balanced.think {d : Delivery} {stage next : Stage} (h : s.Balanced)
    (at_ : s.workers[j]? = some w) (busy : w.duty = .busy d stage)
    (goes : Stage.Goes d.chunk stage next) :
    (s.setWorker j { w with duty := .busy d next }).Balanced := by
  obtain ⟨before, after⟩ := Stage.isCounted_of_goes goes
  constructor
  · intro c'
    have hc := h.chunks c'
    have hset := count_uncounted_setWorker { w with duty := .busy d next } c' at_
    simp only [busy, Duty.uncounted?, before, after] at hset
    simp only [taken, counted, dropped, ignored, offered, setWorker] at hc hset ⊢
    omega
  · have hset := length_held_setWorker { w with duty := .busy d next } at_
    have hout := h.outstanding
    simp only [busy, Duty.delivery?] at hset
    simp only [setWorker] at hset ⊢
    omega

theorem Balanced.handle {d : Delivery} {stage next : Stage} {call : Call} {answer : call.Answer}
    {world : World} (h : s.Balanced) (at_ : s.workers[j]? = some w)
    (busy : w.duty = .busy d stage) (bus : world.bus = s.world.bus)
    (asks : Stage.Asks d.chunk stage call answer next) :
    (({ s with world }.record (.handled j d call answer)).setWorker j
      { w with duty := .busy d next }).Balanced := by
  have hnext := Stage.isCounted_of_asks asks
  have hat : ({ s with world }.record (.handled j d call answer)).workers[j]? = some w := at_
  constructor
  · intro c'
    have hc := h.chunks c'
    have hset := count_uncounted_setWorker { w with duty := .busy d next } c' hat
    have hu : ({ s with world }.record (.handled j d call answer)).uncounted = s.uncounted := rfl
    simp only [busy, Duty.uncounted?, hnext, hu] at hset
    simp only [taken, counted, dropped, ignored, offered, setWorker, record,
      List.filterMap_append, List.filterMap_cons, List.filterMap_nil, Event.taken?,
      Event.counted?, Event.dropped?, Event.ignored?, List.count_append, List.append_nil,
      bus] at hc hset ⊢
    -- the chunk changes its place only when this call counts it
    cases hcounts : call.counts answer with
    | false =>
      simp only [hcounts, Bool.or_false] at hset
      simp only [Bool.false_eq_true, if_false, List.count_nil]
      omega
    | true =>
      have hstage := Stage.not_isCounted_of_counts asks hcounts
      simp only [hcounts, hstage, Bool.or_true, Bool.false_eq_true, if_true, if_false,
        Option.toList_none, Option.toList_some, List.count_nil] at hset
      simp only [if_true]
      omega
  · have hset := length_held_setWorker { w with duty := .busy d next } hat
    have hh : ({ s with world }.record (.handled j d call answer)).held = s.held := rfl
    have hout := h.outstanding
    simp only [busy, Duty.delivery?, hh] at hset
    simp only [setWorker, record, bus] at hset ⊢
    omega

theorem Balanced.settle {d : Delivery} {result : Outcome ChunkOutcome} (h : s.Balanced)
    (at_ : s.workers[j]? = some w) (busy : w.duty = .busy d (.settled result)) :
    (s.settle j w d result).Balanced := by
  have hbus := s.world.bus.settleWith_cases d result
  unfold System.settle
  generalize s.world.bus.settleWith d result = bus at hbus ⊢
  have hat : ((s.setBus bus).record (.settled j d result)).workers[j]? = some w := at_
  constructor
  · intro c'
    have hc := h.chunks c'
    have hset := count_uncounted_setWorker ⟨.idle, w.stats.after result⟩ c' hat
    have hu : ((s.setBus bus).record (.settled j d result)).uncounted = s.uncounted := rfl
    simp only [busy, Duty.uncounted?, hu] at hset
    simp only [taken, counted, dropped, ignored, offered, setWorker, record, setBus,
      List.filterMap_append, List.filterMap_cons, List.filterMap_nil, Event.taken?,
      Event.counted?, List.count_append, List.append_nil] at hc hset ⊢
    rcases hbus with ⟨hd, -, ⟨outcome, rfl⟩ | ⟨f, rfl, hmax⟩⟩ | ⟨hd, -, f, rfl, hmax⟩
    · cases hdropped : outcome.dropped <;>
        simp [hd, hdropped, Event.dropped?, Event.ignored?, Stage.isCounted] at hset ⊢ <;> omega
    · simp [hd, hmax, Event.dropped?, Event.ignored?, Stage.isCounted] at hset ⊢
      omega
    · simp [hd, Int.not_le.mpr hmax, Event.dropped?, Event.ignored?, Stage.isCounted] at hset ⊢
      omega
  · have hset := length_held_setWorker ⟨.idle, w.stats.after result⟩ hat
    have hh : ((s.setBus bus).record (.settled j d result)).held = s.held := rfl
    have hout := h.outstanding
    simp only [busy, Duty.delivery?, hh, Option.toList_none, Option.toList_some,
      List.length_nil, List.length_singleton] at hset
    simp only [setWorker, record, setBus] at hset ⊢
    rcases hbus with ⟨hd, ho, -⟩ | ⟨hd, ho, -⟩
    · rw [hd, ho]
      omega
    · rw [hd, ho, List.length_append, List.length_singleton]
      omega

theorem Balanced.leave (h : s.Balanced) (at_ : s.workers[j]? = some w) (idle : w.duty = .idle) :
    (s.setWorker j { w with duty := .gone }).Balanced := by
  constructor
  · intro c'
    have hc := h.chunks c'
    have hset := count_uncounted_setWorker { w with duty := .gone } c' at_
    simp only [idle, Duty.uncounted?] at hset
    simp only [taken, counted, dropped, ignored, offered, setWorker] at hc hset ⊢
    omega
  · have hset := length_held_setWorker { w with duty := .gone } at_
    have hout := h.outstanding
    simp only [idle, Duty.delivery?] at hset
    simp only [setWorker] at hset ⊢
    omega

theorem Balanced.hire (h : s.Balanced) :
    System.Balanced { s with workers := s.workers ++ [{}] } := by
  constructor
  · intro c'
    have hc := h.chunks c'
    simpa [taken, counted, dropped, ignored, offered, uncounted, Duty.uncounted?] using hc
  · simpa [held, Duty.delivery?] using h.outstanding

theorem balanced_opening (world : World) (workers : Nat) (empty : world.bus.deliveries = [])
    (none_ : world.bus.outstanding = 0) : (opening world workers).Balanced := by
  constructor
  · intro c'
    simp [opening, taken, counted, dropped, ignored, offered, uncounted, Duty.uncounted?, empty]
  · simp [opening, held, Duty.delivery?, empty, none_]

theorem Balanced.step (h : s.Balanced) (hs : Step s a s') : s'.Balanced := by
  cases hs with
  | read _ => exact h.quiet ⟨[], by simp [setProducer], by simp⟩ rfl rfl rfl
  | go _ _ _ => exact h.quiet ⟨[], by simp [setProducer], by simp⟩ rfl rfl rfl
  | refused _ _ _ _ => exact h.quiet ⟨[_], rfl, by simp⟩ rfl rfl rfl
  | published _ _ enters taken_ _ _ =>
    exact (h.publish enters taken_).quiet ⟨[], by simp [setProducer], by simp⟩ rfl rfl rfl
  | asked _ _ _ replies _ =>
    have bus := congrArg (fun r => r.2.bus) replies
    rw [World.answer_bus] at bus
    exact h.quiet ⟨[_], rfl, by simp⟩ (congrArg Bus.deliveries bus.symm)
      (congrArg Bus.outstanding bus.symm) rfl
  | received at_ idle leaves => exact h.receive at_ idle leaves
  | left at_ idle _ => exact h.leave at_ idle
  | thought at_ busy goes => exact h.think at_ busy goes
  | handled at_ busy replies asks =>
    have bus := congrArg (fun r => r.2.bus) replies
    rw [World.answer_bus] at bus
    exact h.handle at_ busy bus.symm asks
  | settled at_ busy => exact h.settle at_ busy
  | started _ => exact h.quiet ⟨[], by simp, by simp⟩ rfl rfl rfl
  | hired => exact h.hire
  | cancelled _ => exact h.quiet ⟨[], by simp, by simp⟩ rfl rfl rfl
  | supplied supply _ =>
    cases supply <;> exact h.quiet ⟨[], by simp, by simp⟩ rfl rfl rfl
  | closed => exact h.quiet ⟨[], by simp [setBus], by simp⟩ rfl rfl rfl
  | waited _ => exact h.quiet ⟨[], by simp, by simp⟩ rfl rfl rfl

end Balance

end System

end Concurrency

end CatalogIntake
