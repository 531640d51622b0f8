import CatalogIntake.Proofs.Concurrency.Outcome
import CatalogIntake.Proofs.Concurrency.Provenance
import CatalogIntake.Proofs.Crowd.Ending
import CatalogIntake.Proofs.Producer.Moves

/-!
Every import comes to its end. A producer makes a limited number of moves, and as long as it has
not ended, its reader, the producer itself or a worker can go on: one that waits for the bus has
its chunk in the line, and there is no line while the buffer has room.
-/

namespace CatalogIntake

namespace Bus

variable {bus next : Bus} {w : Waiting} {d : Delivery} {ticket : Nat} {chunk : Chunk}
  {admission : Admission} {admitted : Option Nat}

structure Packed (bus : Bus) : Prop where
  room : 1 ≤ bus.capacity
  within : bus.buffer.length ≤ bus.capacity
  full : bus.line ≠ [] → bus.buffer.length = bus.capacity

theorem packed_ofCapacity (capacity : Nat) : (ofCapacity capacity).Packed where
  room := Nat.le_max_right capacity 1
  within := Nat.zero_le _
  full := fun hline => absurd rfl hline

theorem Packed.enter (h : bus.Packed) (w : Waiting) : (bus.enter w).Packed := by
  unfold Bus.enter
  split
  · rename_i room
    have hline := line_eq_nil_of_hasRoom room
    have hlength : bus.buffer.length < bus.capacity := by
      unfold hasRoom at room
      exact of_decide_eq_true (Bool.and_eq_true_iff.mp room).2
    refine ⟨h.room, ?_, fun hne => absurd hline hne⟩
    show (bus.buffer ++ [w.delivery]).length ≤ bus.capacity
    rw [List.length_append, List.length_singleton]
    exact hlength
  · rename_i room
    refine ⟨h.room, h.within, fun _ => ?_⟩
    show bus.buffer.length = bus.capacity
    by_cases hline : bus.line = []
    · have hle := h.within
      have hlength : ¬bus.buffer.length < bus.capacity := by
        intro hlt
        refine room (Bool.and_eq_true_iff.mpr ⟨?_, decide_eq_true hlt⟩)
        rw [hline]
        rfl
      omega
    · exact h.full hline

theorem line_subset_enter (bus : Bus) (w : Waiting) : bus.line ⊆ (bus.enter w).line := by
  unfold Bus.enter
  split
  · exact List.Subset.refl _
  · exact List.subset_append_left _ _

/-- A chunk that is not in the buffer after it was published is in the line, with its ticket. -/
theorem publish_enters (h : bus.publish ticket chunk = (admission, next))
    (taken : admission ≠ .refused) :
    next = Bus.enter { bus with outstanding := bus.outstanding + 1 }
        ⟨some ticket, ⟨none, 0, chunk⟩⟩ ∧
      (admission = .waiting → ∃ w ∈ next.line, w.ticket = some ticket) := by
  unfold publish at h
  split at h
  · cases h
    exact absurd rfl taken
  · obtain ⟨hadmission, rfl⟩ := Prod.mk.inj h
    refine ⟨rfl, ?_⟩
    rintro rfl
    split at hadmission
    · cases hadmission
    · rename_i room
      have hroom : ¬Bus.hasRoom { bus with outstanding := bus.outstanding + 1 } = true := room
      refine ⟨⟨some ticket, ⟨none, 0, chunk⟩⟩, ?_, rfl⟩
      unfold Bus.enter
      rw [if_neg hroom]
      exact List.mem_append_right _ List.mem_cons_self

/-- The place of a delivery that is handed out goes to the first in the line. -/
theorem receive_cases (h : bus.receive = (.delivery d admitted, next)) :
    ∃ first rest, bus.buffer = first :: rest ∧
      Bus.letIn { bus with buffer := rest } = (admitted, next) := by
  unfold receive at h
  split at h
  · cases h
  · split at h
    · cases h
    · rename_i first rest hbuffer
      have hadmitted := (Received.delivery.inj (congrArg Prod.fst h)).2
      have hnext := congrArg Prod.snd h
      exact ⟨first, rest, hbuffer, Prod.ext hadmitted hnext⟩

theorem Packed.receive (h : bus.Packed) (leaves : bus.receive = (.delivery d admitted, next)) :
    next.Packed ∧ ∀ w ∈ bus.line, w ∈ next.line ∨ admitted = w.ticket := by
  obtain ⟨first, rest, hbuffer, enters⟩ := receive_cases leaves
  have hle := h.within
  rw [hbuffer, List.length_cons] at hle
  unfold Bus.letIn at enters
  cases hline : bus.line with
  | nil =>
    simp only [hline] at enters
    cases enters
    refine ⟨⟨h.room, Nat.le_of_succ_le hle, fun hne => absurd rfl hne⟩, ?_⟩
    exact fun w hw => by cases hw
  | cons head tail =>
    have hfull := h.full (by rw [hline]; exact List.cons_ne_nil _ _)
    rw [hbuffer, List.length_cons] at hfull
    have hroom : rest.length < bus.capacity := by omega
    simp only [hline, if_pos hroom] at enters
    obtain ⟨rfl, rfl⟩ := Prod.mk.inj enters
    have hlength : (rest ++ [head.delivery]).length = bus.capacity := by
      rw [List.length_append, List.length_singleton]
      exact hfull
    refine ⟨⟨h.room, Nat.le_of_eq hlength, fun _ => hlength⟩, ?_⟩
    intro w hw
    rcases List.mem_cons.mp hw with rfl | hw
    · exact .inr rfl
    · exact .inl hw

theorem Packed.settleWith (h : bus.Packed) (d : Delivery) (result : Outcome ChunkOutcome) :
    (bus.settleWith d result).Packed ∧ bus.line ⊆ (bus.settleWith d result).line := by
  have settled : bus.settle.Packed := ⟨h.room, h.within, h.full⟩
  unfold Bus.settleWith
  split
  · exact ⟨settled, List.Subset.refl _⟩
  · rcases nack_cases bus d with ⟨-, hnack⟩ | ⟨-, hnack⟩
    · rw [hnack]
      exact ⟨settled, List.Subset.refl _⟩
    · rw [hnack]
      exact ⟨h.enter _, line_subset_enter _ _⟩

end Bus

namespace Concurrency

/-- A step of a reader, of a producer or of a worker; the others come from outside. -/
def Action.isOwn : Action → Bool
  | read _ | produce _ | work _ => true
  | _ => false

def Action.isMoveOf (i : Nat) : Action → Bool
  | produce k => k = i
  | _ => false

namespace System

variable {a : Action} {s s' t : System} {i j k : Nat} {p q q' : Producer} {w : Worker}

structure Queued (s : System) : Prop where
  packed : s.world.bus.Packed
  lined : ∀ {i : Nat} {p : Producer}, s.producers[i]? = some p → p.waiting = true →
    ∃ w ∈ s.world.bus.line, w.ticket = some i

/-- A producer that waits after a move has its chunk in the line. -/
theorem lined_of_produce (acts : s.act (.produce i) = some s') (at' : s'.producers[i]? = some q)
    (waits : q.waiting = true) : ∃ w ∈ s'.world.bus.line, w.ticket = some i := by
  simp only [act] at acts
  split at acts
  · rename_i p at_
    split at acts
    · rename_i ready
      have hready : p.waiting ≠ true := by
        intro hwaiting
        unfold Producer.canMove at ready
        rw [hwaiting] at ready
        cases ready
      have moved {t : System} {state : Producing} (producers : t.producers = s.producers)
          (hat : (t.setProducer i (p.goTo state)).producers[i]? = some q) : False := by
        rw [getElem?_setProducer (producers ▸ at_), if_pos rfl] at hat
        rw [← Option.some.inj hat] at waits
        exact hready waits
      unfold moveProducer at acts
      split at acts
      · cases acts
        exact (moved rfl at').elim
      · cases acts
        revert at'
        unfold ask
        split
        · rename_i chunk next _
          split
          · exact fun hat => (moved rfl hat).elim
          · exact fun hat => (moved (t := (s.setBus _).record (.taken i chunk)) rfl hat).elim
          · rename_i enters
            exact fun _ => (Bus.publish_enters enters (by decide)).2 rfl
        · exact fun hat => (moved (t := { s with world := _ }.record _) rfl hat).elim
      · cases acts
    · cases acts
  · cases acts

/-- Only the producer at `i` has changed, and it does not wait unless it did. -/
theorem waiting_of_set (producers : t.producers = s.producers) (hq : s.producers[i]? = some q)
    (own : k = i → q'.waiting = true → q.waiting = true)
    (at' : (t.setProducer i q').producers[k]? = some p) (waits : p.waiting = true) :
    ∃ p₀, s.producers[k]? = some p₀ ∧ p₀.waiting = true := by
  rw [getElem?_setProducer (producers ▸ hq), producers] at at'
  by_cases hki : k = i
  · subst hki
    rw [if_pos rfl] at at'
    rw [← Option.some.inj at'] at waits
    exact ⟨q, hq, own rfl waits⟩
  · rw [if_neg hki] at at'
    exact ⟨p, at', waits⟩

theorem waiting_of_letIn {ticket : Option Nat} (at' : (s.letIn ticket).producers[k]? = some p)
    (waits : p.waiting = true) : s.producers[k]? = some p ∧ ticket ≠ some k := by
  unfold letIn at at'
  split at at'
  · exact ⟨at', fun h => by cases h⟩
  · rename_i i
    split at at'
    · rename_i q hq
      rw [getElem?_setProducer hq] at at'
      by_cases hki : k = i
      · rw [if_pos hki] at at'
        rw [← Option.some.inj at'] at waits
        cases waits
      · rw [if_neg hki] at at'
        exact ⟨at', fun h => hki (Option.some.inj h).symm⟩
    · rename_i hnone
      refine ⟨at', ?_⟩
      rintro h
      obtain rfl := Option.some.inj h
      rw [hnone] at at'
      cases at'

def Begun (s t : System) : Prop :=
  ∀ {k : Nat} {p : Producer}, t.producers[k]? = some p → p.waiting = true →
    ∃ p₀, s.producers[k]? = some p₀ ∧ p₀.waiting = true

theorem Queued.keep (h : s.Queued) (packed : t.world.bus.Packed)
    (line : s.world.bus.line ⊆ t.world.bus.line) (begun : Begun s t) : t.Queued where
  packed
  lined := by
    intro k p at' waits
    obtain ⟨p₀, at_, hwaits⟩ := begun at' waits
    obtain ⟨w, hw, ticket⟩ := h.lined at_ hwaits
    exact ⟨w, line hw, ticket⟩

theorem Queued.rest (h : s.Queued) (bus : t.world.bus = s.world.bus) (begun : Begun s t) :
    t.Queued :=
  h.keep (bus ▸ h.packed) (bus ▸ List.Subset.refl _) begun

/-- The producer that publishes is the only one that may begin to wait. -/
theorem Queued.publish (h : s.Queued) {chunk : Chunk} {admission : Bus.Admission} {bus : Bus}
    (at_ : s.producers[i]? = some p)
    (enters : s.world.bus.publish i chunk = (admission, bus)) (taken : admission ≠ .refused)
    (acts : s.act (.produce i) = some (((s.setBus bus).record (.taken i chunk)).setProducer i q)) :
    (((s.setBus bus).record (.taken i chunk)).setProducer i q).Queued := by
  obtain ⟨hnext, -⟩ := Bus.publish_enters enters taken
  have hcounted : Bus.Packed { s.world.bus with outstanding := s.world.bus.outstanding + 1 } :=
    ⟨h.packed.room, h.packed.within, h.packed.full⟩
  have hpacked : bus.Packed := by
    rw [hnext]
    exact hcounted.enter _
  have hline : s.world.bus.line ⊆ bus.line := by
    rw [hnext]
    exact Bus.line_subset_enter { s.world.bus with outstanding := s.world.bus.outstanding + 1 } _
  refine ⟨hpacked, ?_⟩
  intro k p' at' waits
  by_cases hki : k = i
  · subst hki
    exact lined_of_produce acts at' waits
  · obtain ⟨p₀, hp₀, hwaits⟩ := waiting_of_set (t := (s.setBus bus).record (.taken i chunk)) rfl at_
      (fun hki' => absurd hki' hki) at' waits
    obtain ⟨w, hw, ticket⟩ := h.lined hp₀ hwaits
    exact ⟨w, hline hw, ticket⟩

/-- Who leaves the line when a delivery is received does not wait any longer. -/
theorem Queued.receive (h : s.Queued) {d : Delivery} {admitted : Option Nat} {bus : Bus}
    (leaves : s.world.bus.receive = (.delivery d admitted, bus)) (w : Worker) :
    (((s.setBus bus).letIn admitted).setWorker j w).Queued := by
  obtain ⟨hpacked, hline⟩ := h.packed.receive leaves
  constructor
  · simp only [setWorker, world_letIn]
    exact hpacked
  · intro k p' at' waits
    obtain ⟨hp, hticket⟩ := waiting_of_letIn (s := s.setBus bus) at' waits
    obtain ⟨v, hv, ticket⟩ := h.lined hp waits
    simp only [setWorker, world_letIn]
    rcases hline v hv with hmem | hadmitted
    · exact ⟨v, hmem, ticket⟩
    · exact absurd (hadmitted.trans ticket) hticket

theorem begun_started {settings : ImportSettings} {jobId : JobId} {source : List RowEvent}
    (producers : t.producers = s.producers ++ [.start settings jobId source]) : Begun s t := by
  intro k p at' waits
  rw [producers, List.getElem?_append] at at'
  split at at'
  · exact ⟨p, at', waits⟩
  · rw [List.mem_singleton.mp (List.mem_of_getElem? at')] at waits
    cases waits

theorem Queued.act (h : s.Queued) (acts : s.act a = some s') : s'.Queued := by
  have answered {c : Call} {answer : c.Answer} {world : World}
      (replies : s.world.answer c = (answer, world)) : world.bus = s.world.bus := by
    have hbus := World.answer_bus s.world c
    rw [replies] at hbus
    exact hbus
  have same {t : System} (producers : t.producers = s.producers) : Begun s t := by
    intro k p at' waits
    exact ⟨p, producers ▸ at', waits⟩
  cases step_of_act acts with
  | read at_ | go at_ _ _ | refused at_ _ _ _ =>
    exact h.rest rfl (waiting_of_set rfl at_ fun _ hwaits => hwaits)
  | published at_ _ enters taken _ _ => exact h.publish at_ enters taken acts
  | @asked i p c answer world state at_ _ _ replies _ =>
    refine h.rest (answered replies) ?_
    intro k p' at' waits
    have producers : ({ s with world }.record (.asked i c answer)).producers = s.producers := rfl
    have own : k = i → (p.goTo state).waiting = true → p.waiting = true := fun _ hwaits => hwaits
    exact waiting_of_set producers at_ own at' waits
  | received _ _ leaves => exact h.receive leaves _
  | handled _ _ replies _ => exact h.rest (answered replies) (same rfl)
  | settled _ _ =>
    obtain ⟨hpacked, hline⟩ := h.packed.settleWith _ _
    exact h.keep hpacked hline (same rfl)
  | started _ => exact h.rest rfl (begun_started rfl)
  | supplied supply value => cases supply <;> exact h.rest rfl (same rfl)
  | closed =>
    exact h.keep ⟨h.packed.room, h.packed.within, h.packed.full⟩ (List.Subset.refl _) (same rfl)
  | _ => exact h.rest rfl (same rfl)

theorem queued_opening (now : Instant) (jobs : JobTable) (errors : ErrorLog) (products : Catalogue)
    (capacity workers : Nat) :
    (opening (.opening now jobs errors products capacity) workers).Queued where
  packed := Bus.packed_ofCapacity capacity
  lined := fun at_ => by simp [opening] at at_

/-- A worker that is not gone can go on, unless it is idle and there is nothing in the buffer. -/
theorem idle_of_rest (at_ : s.workers[j]? = some w) (rests : s.act (.work j) = none)
    (there : w.duty ≠ .gone) : s.world.bus.buffer = [] := by
  simp only [act, at_, moveWorker] at rests
  cases hduty : w.duty with
  | gone => exact absurd hduty there
  | busy d stage =>
    simp only [hduty] at rests
    split at rests <;> cases rests
  | idle =>
    simp only [hduty] at rests
    unfold Bus.receive at rests
    cases hdrained : s.world.bus.isDrained with
    | true => simp [hdrained] at rests
    | false =>
      cases hbuffer : s.world.bus.buffer with
      | nil => rfl
      | cons first rest => simp [hdrained, hbuffer] at rests

/-- When neither a reader nor a producer nor a worker can go on, every producer has ended. -/
theorem Queued.ended (h : s.Queued) (balanced : s.Balanced) (staffed : s.Staffed)
    (rests : ∀ a, a.isOwn = true → s.act a = none) (at_ : s.producers[i]? = some p) :
    p.outcome?.isSome = true := by
  have hwaiting : p.waiting = false := by
    rw [← Bool.not_eq_true]
    intro waits
    obtain ⟨v, hv, -⟩ := h.lined at_ waits
    have hfull := h.packed.full (List.ne_nil_of_mem hv)
    have hroom := h.packed.room
    obtain ⟨w, hw⟩ := List.exists_mem_of_ne_nil _ staffed.any
    obtain ⟨j, hj⟩ := List.mem_iff_getElem?.mp hw
    by_cases gone : w.duty = .gone
    · -- the bus that it left has nothing in its line
      have hoffered := (held_of_drained balanced (staffed.gone hj gone)).1
      have hmem : v.delivery ∈ s.world.bus.deliveries :=
        List.mem_append_right _ (List.mem_map_of_mem hv)
      have hdeliveries : s.world.bus.deliveries = [] := List.map_eq_nil_iff.mp hoffered
      rw [hdeliveries] at hmem
      cases hmem
    · have hbuffer := idle_of_rest hj (rests (.work j) rfl) gone
      rw [hbuffer] at hfull
      rw [← hfull] at hroom
      exact absurd hroom (by decide)
  have hstarved : p.isStarved = false := by
    rw [← Bool.not_eq_true]
    intro starved
    have hread := rests (.read i) rfl
    simp only [System.act, at_] at hread
    have hcan : p.canRead = true := by
      simp only [Producer.isStarved, Bool.and_eq_true, decide_eq_true_eq, Bool.not_eq_true',
        List.isEmpty_eq_false_iff] at starved
      obtain ⟨⟨-, hchannel⟩, hunread⟩ := starved
      have hlength := List.length_pos_iff.mpr hunread
      unfold Producer.canRead
      rw [hchannel, Bool.and_eq_true]
      exact ⟨decide_eq_true (by omega), decide_eq_true hlength⟩
    rw [if_pos hcan] at hread
    cases hread
  have hmove := rests (.produce i) rfl
  simp only [System.act, at_, Producer.canMove, hwaiting, hstarved, moveProducer] at hmove
  cases hmoves : p.state.move p.settings with
  | go state => simp [hmoves] at hmove
  | ask c next => simp [hmoves] at hmove
  | halt summary =>
    obtain ⟨outcome, hpoint, -⟩ := Producing.ended_of_move hmoves
    unfold Producer.outcome?
    rw [hpoint]
    rfl

section Moves

variable {n : Nat}

/-- A move of a producer takes one from what it has left, and nothing else gives it more. -/
theorem Step.movesLeft (step : Step s a s') (at_ : s.producers[i]? = some p)
    (at' : s'.producers[i]? = some q) :
    q.state.movesLeft p.settings + (if a.isMoveOf i then 1 else 0) ≤
      p.state.movesLeft p.settings := by
  by_cases hmove : a.isMoveOf i = true
  · rw [if_pos hmove]
    have own {t : System} {p₁ q₁ : Producer} (producers : t.producers = s.producers)
        (hp : s.producers[i]? = some p₁) (hq : (t.setProducer i q₁).producers[i]? = some q)
        (less : q₁.state.movesLeft p₁.settings < p₁.state.movesLeft p₁.settings) :
        q.state.movesLeft p.settings < p.state.movesLeft p.settings := by
      rw [getElem?_setProducer (producers ▸ hp), if_pos rfl] at hq
      obtain rfl := Option.some.inj (at_.symm.trans hp)
      obtain rfl := Option.some.inj hq
      exact less
    cases step with
    | go hp _ goes =>
      obtain rfl := of_decide_eq_true hmove
      exact own rfl hp at' goes.movesLeft_lt
    | @refused _ _ _ _ hp _ _ asks =>
      obtain rfl := of_decide_eq_true hmove
      exact own rfl hp at' asks.movesLeft_lt
    | @published _ _ _ chunk _ _ bus hp _ _ _ asks moved =>
      obtain rfl := of_decide_eq_true hmove
      refine own (t := (s.setBus bus).record (.taken _ chunk)) rfl hp at' ?_
      rw [moved]
      exact asks.movesLeft_lt
    | asked hp _ _ _ asks =>
      obtain rfl := of_decide_eq_true hmove
      exact own rfl hp at' asks.movesLeft_lt
    | _ => cases hmove
  · rw [if_neg hmove]
    obtain ⟨q', later⟩ := step.later at_
    obtain rfl := Option.some.inj (at'.symm.trans later.at_)
    cases later.proceeds with
    | rested state =>
      rw [state]
      exact Nat.le_refl _
    | went goes => exact Nat.le_of_lt goes.movesLeft_lt
    | asked asks _ => exact Nat.le_of_lt asks.movesLeft_lt

/-- So many moves of the producer at `i` are behind it, and the others that its source allows are
not. -/
structure Within (s : System) (i n : Nat) : Prop where
  there : ∀ {p : Producer}, s.producers[i]? = some p →
    n + p.state.movesLeft p.settings ≤ Point.movesToRead p.settings p.source.length
  absent : s.producers[i]? = none → n = 0

theorem Within.step (h : s.Within i n) (registered : s.Registered) (step : Step s a s') :
    s'.Within i (n + if a.isMoveOf i then 1 else 0) := by
  have idle (absent : s.producers[i]? = none) : n + (if a.isMoveOf i then 1 else 0) = 0 := by
    rw [h.absent absent, Nat.zero_add]
    refine if_neg fun hmove => ?_
    cases step with
    | go hp _ _ | refused hp _ _ _ | published hp _ _ _ _ _ | asked hp _ _ _ _ =>
      obtain rfl := of_decide_eq_true hmove
      rw [absent] at hp
      cases hp
    | _ => cases hmove
  constructor
  · intro q at'
    rcases step.origin at' with ⟨p, at_⟩ | ⟨hi, settings, jobId, source, rfl, -⟩
    · obtain ⟨q', hq', hsettings, hsource, -⟩ := step.continues registered at_
      obtain rfl := Option.some.inj (at'.symm.trans hq')
      have hbefore := h.there at_
      have hmoves := step.movesLeft at_ at'
      rw [hsettings, hsource]
      omega
    · rw [idle (List.getElem?_eq_none (Nat.le_of_eq hi.symm)), Nat.zero_add]
      exact Nat.le_refl _
  · intro absent'
    refine idle (Option.not_isSome_iff_eq_none.mp fun hsome => ?_)
    obtain ⟨p, at_⟩ := Option.isSome_iff_exists.mp hsome
    obtain ⟨q, later⟩ := step.later at_
    cases absent'.symm.trans later.at_

theorem within_of_run {schedule : List Action} (h : s.Within i n) (registered : s.Registered)
    (run : s.run schedule = some t) : t.Within i (n + schedule.countP (·.isMoveOf i)) := by
  induction schedule generalizing s n with
  | nil =>
    cases run
    exact h
  | cons a rest ih =>
    simp only [System.run] at run
    split at run
    · have step := step_of_act ‹_›
      have hrest := ih (h.step registered step) (registered.step step) run
      rw [List.countP_cons, Nat.add_comm (rest.countP _), ← Nat.add_assoc]
      exact hrest
    · cases run

end Moves

/-- The import of the producer at `i` comes to its end on every schedule. -/
structure Ending (schedule : List Action) (s : System) (i : Nat) (p : Producer) : Prop where
  /-- It makes a limited number of moves. -/
  moves : schedule.countP (·.isMoveOf i) ≤ Point.movesToRead p.settings p.source.length
  /-- As long as it has not ended, it can go on, or its reader or a worker can. -/
  ended : (∀ a, a.isOwn = true → s.act a = none) → p.outcome?.isSome = true

theorem ending_of_run {now : Instant} {jobs : JobTable} {errors : ErrorLog} {products : Catalogue}
    {capacity workers : Nat} {schedule : List Action} (any : workers ≠ 0)
    (run : (opening (.opening now jobs errors products capacity) workers).run schedule = some s)
    (at_ : s.producers[i]? = some p) : Ending schedule s i p where
  moves := by
    have start : (opening (.opening now jobs errors products capacity) workers).Within i 0 :=
      ⟨fun hp => by simp [opening] at hp, fun _ => rfl⟩
    have hwithin := (within_of_run start (registered_opening _ workers) run).there at_
    omega
  ended := by
    intro rests
    have queued : s.Queued :=
      run_keeps (Q := fun _ => True) (fun _ acts h => h.act acts) (fun _ _ => trivial) run
        (queued_opening ..)
    have manned : s.Sound ∧ s.Staffed := by
      refine run_invariant (P := fun s => s.Sound ∧ s.Staffed) ?_ run
        ⟨sound_opening .., staffed_opening _ any⟩
      rintro a s s' step ⟨sound, staffed⟩
      exact ⟨sound.step step, staffed.step sound.balanced step⟩
    exact queued.ended manned.1.balanced manned.2 rests at_

end System

end Concurrency

end CatalogIntake
