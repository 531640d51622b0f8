import CatalogIntake.Proofs.Concurrency.Ledger
import CatalogIntake.Proofs.Pool.Basic
import Mathlib.Algebra.BigOperators.Group.List.Basic

namespace CatalogIntake

namespace Traffic

variable {t t' : Traffic} {q : Parcel}

structure SameBus (t t' : Traffic) : Prop where
  closed : t'.bus.closed = t.bus.closed
  capacity : t'.bus.capacity = t.bus.capacity

theorem sameBus_handOut (leaves : t.handOut? = some (q, t')) : SameBus t t' := by
  constructor <;> grind [handOut?, Bus.handOut]

theorem sameBus_settle {acknowledges : Bool} (settles : t.settle? q acknowledges = some t') :
    SameBus t t' := by
  constructor <;> grind [settle?, Bus.giveBack, Bus.ack, Bus.settle]

theorem sameBus_resend (sends : t.resend? q = some t') : SameBus t t' := by
  constructor <;> grind [resend?, Bus.enter]

theorem sameBus_letIn {place : Nat} (enters : t.letIn? place = some t') : SameBus t t' := by
  constructor <;> grind [letIn?, Bus.letInAt]

theorem sameBus_publish (t : Traffic) (ticket : Nat) (chunk : Chunk) :
    SameBus t (t.publish ticket chunk) := by
  constructor <;> grind [publish, Bus.publish, Bus.enter]

structure Stocked (capacity : Nat) (chunks : List Chunk) (t : Traffic) : Prop where
  labelled : t.Labelled
  accounts : t.Accounts
  accepted : t.accepted = chunks
  handedOut : t.handedOut = []
  held : t.held = []
  returning : t.returning = []
  acked : t.acked = []
  capacity : t.bus.capacity = max capacity 1

theorem Stocked.publish {capacity : Nat} {chunks : List Chunk} (h : t.Stocked capacity chunks)
    (isOpen : t.bus.closed = false) (ticket : Nat) (chunk : Chunk) :
    (t.publish ticket chunk).Stocked capacity (chunks ++ [chunk]) := by
  obtain ⟨labelled, ⟨hclosed, -⟩ | ⟨-, change⟩⟩ := labelled_publish h.labelled ticket chunk
  · rw [isOpen] at hclosed
    cases hclosed
  · constructor
    · exact labelled
    · exact h.accounts.accepted change
    · rw [change.accepted, h.accepted]
    · rw [change.handedOut, h.handedOut]
    · rw [change.held, h.held]
    · have hreturning : (t.publish ticket chunk).returning = t.returning := by grind [publish]
      rw [hreturning, h.returning]
    · rw [change.acked, h.acked]
    · rw [(sameBus_publish t ticket chunk).capacity, h.capacity]

theorem Stocked.publishAll {capacity : Nat} {before chunks : List Chunk}
    (h : t.Stocked capacity before) (isOpen : t.bus.closed = false) :
    (t.publishAll chunks).Stocked capacity (before ++ chunks) := by
  induction chunks generalizing t before with
  | nil =>
    rw [List.append_nil]
    exact h
  | cons chunk chunks ih =>
    have hpublish := h.publish isOpen t.accepted.length chunk
    rw [List.append_cons]
    exact ih hpublish ((sameBus_publish t _ chunk).closed.trans isOpen)

theorem stocked_kept (capacity : Nat) (chunks : List Chunk) :
    (stocked capacity chunks).Stocked capacity chunks := by
  have hopening : (opening capacity).Stocked capacity [] :=
    ⟨labelled_opening capacity, accounts_opening capacity, rfl, rfl, rfl, rfl, rfl, rfl⟩
  have hall : ((opening capacity).publishAll chunks).Stocked capacity chunks :=
    hopening.publishAll rfl
  constructor
  · exact ⟨hall.labelled.buffer, hall.labelled.line, hall.labelled.order⟩
  · exact hall.accounts.moved ⟨.refl _, rfl, rfl, rfl, rfl, rfl, rfl⟩
  · exact hall.accepted
  · exact hall.handedOut
  · exact hall.held
  · exact hall.returning
  · exact hall.acked
  · exact hall.capacity

end Traffic

namespace Pool

inductive Step (p : Pool) : Action → Pool → Prop
  | received {j : Nat} {w : Worker} {q : Parcel} {t : Traffic}
      (at_ : p.workers[j]? = some w) (idle : w.duty = .idle)
      (leaves : p.traffic.handOut? = some (q, t)) : Step p (.work j) (p.take j w q t)
  | left {j : Nat} {w : Worker} (at_ : p.workers[j]? = some w) (idle : w.duty = .idle)
      (drained : p.world.bus.isDrained = true) :
      Step p (.work j) (p.setWorker j { w with duty := .gone })
  | thought {j : Nat} {w : Worker} {q : Parcel} {stage next : Stage}
      (at_ : p.workers[j]? = some w) (busy : w.duty = .busy q stage)
      (goes : Stage.Goes q.delivery.chunk stage next) :
      Step p (.work j) (p.setWorker j { w with duty := .busy q next })
  | handled {j : Nat} {w : Worker} {q : Parcel} {stage : Stage} {c : Call}
      {next : c.Answer → Stage} (at_ : p.workers[j]? = some w) (busy : w.duty = .busy q stage)
      (asks : Stage.Asks q.delivery.chunk stage c (p.world.answer c).1
        (next (p.world.answer c).1)) : Step p (.work j) (p.handle j w q c next)
  | finished {j : Nat} {w : Worker} {q : Parcel} {result : Outcome ChunkOutcome} {t : Traffic}
      (at_ : p.workers[j]? = some w) (busy : w.duty = .busy q (.settled result))
      (settles : p.traffic.settle? q (acknowledges result) = some t) :
      Step p (.work j) (p.finish j w q result t)
  | resent {q : Parcel} {t : Traffic} (sends : p.traffic.resend? q = some t) :
      Step p (.resend q) (p.setTraffic t)
  | letIn {place : Nat} {t : Traffic} (enters : p.traffic.letIn? place = some t) :
      Step p (.letIn place) (p.setTraffic t)
  | cancelled (id : JobId) :
      Step p (.cancel id) { p with
        world := { p.world with jobs := (p.world.jobs.cancel id p.world.now).2 } }
  | supplied (supply : Simulation.Supply) (available : Bool) :
      Step p (.supply supply available) { p with world := p.world.setAvailable supply available }
  | waited (now : Instant) : Step p (.wait now) { p with world := { p.world with now } }

variable {a : Action} {p p' : Pool} {j : Nat} {w : Worker} {q : Parcel}

theorem step_of_moveWorker (at_ : p.workers[j]? = some w) (h : p.moveWorker j w = some p') :
    Step p (.work j) p' := by
  unfold moveWorker at h
  split at h
  · rename_i idle
    split at h
    · rename_i leaves
      obtain rfl := Option.some.inj h
      exact .received at_ idle leaves
    · by_cases drained : p.world.bus.isDrained = true
      · rw [if_pos drained] at h
        obtain rfl := Option.some.inj h
        exact .left at_ idle drained
      · rw [if_neg drained] at h
        cases h
  · rename_i busy
    split at h
    · rename_i moves
      obtain rfl := Option.some.inj h
      exact .thought at_ busy (Stage.goes_of_move moves)
    · rename_i moves
      obtain rfl := Option.some.inj h
      exact .handled at_ busy (Stage.asks_of_move moves _)
    · rename_i moves
      obtain ⟨t, settles, rfl⟩ := Option.map_eq_some_iff.mp h
      rw [Stage.settled_of_move moves] at busy
      exact .finished at_ busy settles
  · cases h

theorem step_of_act (h : p.act a = some p') : Step p a p' := by
  cases a with
  | work j =>
    simp only [act] at h
    split at h
    · exact step_of_moveWorker ‹_› h
    · cases h
  | resend q =>
    obtain ⟨t, sends, rfl⟩ := Option.map_eq_some_iff.mp h
    exact .resent sends
  | letIn place =>
    obtain ⟨t, enters, rfl⟩ := Option.map_eq_some_iff.mp h
    exact .letIn enters
  | cancel id =>
    obtain rfl := Option.some.inj h
    exact .cancelled id
  | supply supply available =>
    obtain rfl := Option.some.inj h
    exact .supplied supply available
  | wait now =>
    obtain rfl := Option.some.inj h
    exact .waited now

theorem run_invariant {P : Pool → Prop}
    (keeps : ∀ {a : Action} {p p' : Pool}, Step p a p' → P p → P p') {schedule : List Action}
    (reached : p.run schedule = some p') (h : P p) : P p' := by
  induction schedule generalizing p with
  | nil =>
    obtain rfl := Option.some.inj reached
    exact h
  | cons a schedule ih =>
    obtain ⟨next, acts, rest⟩ := Option.bind_eq_some_iff.mp reached
    exact ih rest (keeps (step_of_act acts) h)

@[simp] theorem traffic_handle (c : Call) (next : c.Answer → Stage) :
    (p.handle j w q c next).traffic = p.traffic := by
  unfold handle traffic
  simp only [setWorker, record, Concurrency.World.answer_bus]

theorem filterMap_handle {α : Type} (f : Deed → Option α) (c : Call) (next : c.Answer → Stage) :
    (p.handle j w q c next).deeds.filterMap f =
      p.deeds.filterMap f ++ (f (.called q.number c (p.world.answer c).1)).toList :=
  Concurrency.System.filterMap_concat f p.deeds _

theorem filterMap_finish {α : Type} (f : Deed → Option α) (result : Outcome ChunkOutcome)
    (t : Traffic) : (p.finish j w q result t).deeds.filterMap f =
      p.deeds.filterMap f ++ (f (.consumed q.number result)).toList :=
  Concurrency.System.filterMap_concat f p.deeds _

theorem perm_workers (at_ : p.workers[j]? = some w) (w' : Worker) :
    p.workers.Perm (w :: p.workers.eraseIdx j) ∧
      (p.setWorker j w').workers.Perm (w' :: p.workers.eraseIdx j) :=
  ⟨Concurrency.System.perm_eraseIdx at_, Concurrency.System.perm_set w' at_⟩

theorem sum_setWorker {M : Type} [AddCommMonoid M] (f : Worker → M) (at_ : p.workers[j]? = some w)
    (w' : Worker) :
    ((p.setWorker j w').workers.map f).sum + f w = (p.workers.map f).sum + f w' := by
  obtain ⟨hbefore, hafter⟩ := perm_workers at_ w'
  rw [(hbefore.map f).sum_eq, (hafter.map f).sum_eq, List.map_cons, List.map_cons, List.sum_cons,
    List.sum_cons]
  calc
    f w' + ((p.workers.eraseIdx j).map f).sum + f w =
        f w + (f w' + ((p.workers.eraseIdx j).map f).sum) := add_comm _ _
    _ = f w + (((p.workers.eraseIdx j).map f).sum + f w') := by rw [add_comm (f w')]
    _ = f w + ((p.workers.eraseIdx j).map f).sum + f w' := (add_assoc _ _ _).symm

theorem held_setWorker (at_ : p.workers[j]? = some w) (w' : Worker) :
    (w.duty.parcel?.toList ++ (p.setWorker j w').held).Perm (w'.duty.parcel?.toList ++ p.held) := by
  obtain ⟨hbefore, hafter⟩ := perm_workers at_ w'
  have hcons (w : Worker) : (w :: p.workers.eraseIdx j).filterMap (·.duty.parcel?) =
      w.duty.parcel?.toList ++ (p.workers.eraseIdx j).filterMap (·.duty.parcel?) := by
    rw [List.filterMap_cons]
    cases w.duty.parcel? <;> rfl
  have hbefore' := hbefore.filterMap (·.duty.parcel?)
  have hafter' := hafter.filterMap (·.duty.parcel?)
  rw [hcons] at hbefore' hafter'
  refine (hafter'.append_left _).trans (List.Perm.trans ?_ (hbefore'.append_left _).symm)
  rw [← List.append_assoc, ← List.append_assoc]
  exact List.perm_append_comm.append_right _

/-- What is so of the bus and the workers at every moment, if these chunks were published. -/
structure Sound (chunks : List Chunk) (p : Pool) : Prop where
  labelled : p.traffic.Labelled
  accounts : p.traffic.Accounts
  accepted : p.manifest.accepted = chunks
  closed : p.world.bus.closed = true
  capacity : 0 < p.world.bus.capacity
  held : p.held.Perm p.manifest.held
  handedOut : (p.held.map (·.number) ++ (p.succeeded ++ p.retried)).Perm p.manifest.handedOut
  acked : p.succeeded = p.manifest.acked

variable {chunks : List Chunk}

theorem held_opening (world : Concurrency.World) (capacity : Nat) (chunks : List Chunk)
    (size : Nat) : (opening world capacity chunks size).held = [] := by
  apply List.filterMap_eq_nil_iff.mpr
  intro w hw
  rw [List.eq_of_mem_replicate hw]
  rfl

theorem sound_opening (world : Concurrency.World) (capacity : Nat) (chunks : List Chunk)
    (size : Nat) : (opening world capacity chunks size).Sound chunks := by
  have hstocked := Traffic.stocked_kept capacity chunks
  have hheld := held_opening world capacity chunks size
  constructor
  · exact hstocked.labelled
  · exact hstocked.accounts
  · exact hstocked.accepted
  · rfl
  · have hcapacity : (opening world capacity chunks size).world.bus.capacity = max capacity 1 :=
      hstocked.capacity
    omega
  · rw [hheld, show (opening world capacity chunks size).manifest.held = [] from hstocked.held]
  · rw [hheld,
      show (opening world capacity chunks size).manifest.handedOut = [] from hstocked.handedOut]
    exact .refl _
  · exact hstocked.acked.symm

theorem Sound.same (h : p.Sound chunks) (traffic : p'.traffic = p.traffic)
    (held : p'.held.Perm p.held) (succeeded : p'.succeeded = p.succeeded)
    (retried : p'.retried = p.retried) : p'.Sound chunks := by
  have hbus : p'.world.bus = p.world.bus := congrArg Traffic.bus traffic
  have hmanifest : p'.manifest = p.manifest := congrArg Traffic.toManifest traffic
  constructor
  · rw [traffic]
    exact h.labelled
  · rw [traffic]
    exact h.accounts
  · rw [hmanifest]
    exact h.accepted
  · rw [hbus]
    exact h.closed
  · rw [hbus]
    exact h.capacity
  · rw [hmanifest]
    exact held.trans h.held
  · rw [hmanifest, succeeded, retried]
    exact ((held.map _).append_right _).trans h.handedOut
  · rw [hmanifest, succeeded]
    exact h.acked

theorem Sound.moved {t : Traffic} (h : p.Sound chunks) (same : p.traffic.SameBus t)
    (labelled : t.Labelled) (moved : p.traffic.Moved t) : (p.setTraffic t).Sound chunks where
  labelled := labelled
  accounts := h.accounts.moved moved
  accepted := moved.accepted.trans h.accepted
  closed := same.closed.trans h.closed
  capacity := same.capacity.symm ▸ h.capacity
  held := moved.held.symm ▸ h.held
  handedOut := moved.handedOut.symm ▸ h.handedOut
  acked := h.acked.trans moved.acked.symm

theorem Sound.take {t : Traffic} (h : p.Sound chunks) (at_ : p.workers[j]? = some w)
    (idle : w.duty = .idle) (leaves : p.traffic.handOut? = some (q, t)) :
    (p.take j w q t).Sound chunks := by
  obtain ⟨labelled, first, rfl, change⟩ := Traffic.labelled_handOut h.labelled leaves
  have same := Traffic.sameBus_handOut leaves
  have hheld : (p.take j w first.again t).held.Perm (first.again :: p.held) := by
    have hset := held_setWorker at_ { w with duty := .busy first.again .loading }
    rw [idle] at hset
    exact hset
  refine ⟨labelled, h.accounts.handedOut change, change.accepted.trans h.accepted,
    same.closed.trans h.closed, same.capacity.symm ▸ h.capacity, ?_, ?_,
    h.acked.trans change.acked.symm⟩
  · show List.Perm _ t.held
    rw [change.held]
    exact hheld.trans ((h.held.cons _).trans (List.perm_append_singleton _ _).symm)
  · show List.Perm _ t.handedOut
    rw [change.handedOut]
    refine ((hheld.map _).append_right _).trans ?_
    exact (h.handedOut.cons _).trans (List.perm_append_singleton _ _).symm

theorem Sound.finish {t : Traffic} {result : Outcome ChunkOutcome} (h : p.Sound chunks)
    (at_ : p.workers[j]? = some w) (busy : w.duty = .busy q (.settled result))
    (settles : p.traffic.settle? q (acknowledges result) = some t) :
    (p.finish j w q result t).Sound chunks := by
  obtain ⟨labelled, change⟩ := Traffic.labelled_settle h.labelled settles
  have same := Traffic.sameBus_settle settles
  have hheld : (q :: (p.finish j w q result t).held).Perm p.held := by
    have hset := held_setWorker at_ ⟨.idle, w.stats.after result⟩
    rw [busy] at hset
    exact hset
  have hhandedOut : (q.number :: ((p.finish j w q result t).held.map (·.number) ++
      (p.succeeded ++ p.retried))).Perm t.handedOut := by
    rw [change.handedOut]
    exact ((hheld.map (·.number)).append_right _).trans h.handedOut
  refine ⟨labelled, h.accounts.settled change, change.accepted.trans h.accepted,
    same.closed.trans h.closed, same.capacity.symm ▸ h.capacity, ?_, ?_, ?_⟩
  · exact (hheld.trans (h.held.trans change.held)).cons_inv
  · refine List.Perm.trans ?_ hhandedOut
    unfold succeeded retried
    rw [filterMap_finish, filterMap_finish]
    refine List.Perm.trans (List.Perm.append_left _ ?_) List.perm_middle
    cases result with
    | ok outcome =>
      show (p.succeeded ++ [q.number] ++ (p.retried ++ [])).Perm _
      rw [List.append_nil, List.append_assoc]
      exact List.perm_middle
    | error f =>
      show (p.succeeded ++ [] ++ (p.retried ++ [q.number])).Perm _
      rw [List.append_nil, ← List.append_assoc]
      exact List.perm_append_singleton _ _
  · have hacked : p.succeeded = p.traffic.acked := h.acked
    apply (filterMap_finish _ result t).trans
    cases change.given with
    | acked yes _ _ acked _ =>
      cases result with
      | ok outcome => exact (congrArg (· ++ [q.number]) hacked).trans acked.symm
      | error f => cases yes
    | dropped no _ _ _ acked _ | returned no _ _ _ acked _ =>
      cases result with
      | ok outcome => cases no
      | error f => exact (List.append_nil _).trans (hacked.trans acked.symm)

theorem Sound.mem_held {stage : Stage} (h : p.Sound chunks) (at_ : p.workers[j]? = some w)
    (busy : w.duty = .busy q stage) : q ∈ p.traffic.held := by
  apply h.held.mem_iff.mp
  exact List.mem_filterMap.mpr ⟨w, List.mem_of_getElem? at_, by rw [busy]; rfl⟩

theorem Sound.chunk {stage : Stage} (h : p.Sound chunks) (at_ : p.workers[j]? = some w)
    (busy : w.duty = .busy q stage) : chunks[q.number]? = some q.delivery.chunk := by
  have hparcels : q ∈ p.traffic.parcels := List.mem_append_right _ (h.mem_held at_ busy)
  rw [← h.accepted]
  exact h.accounts.chunks q hparcels

theorem Sound.step (h : p.Sound chunks) (step : Step p a p') : p'.Sound chunks := by
  -- the parcel of a worker that goes on with it
  have hkeeps {w w' : Worker} {j : Nat} (at_ : p.workers[j]? = some w)
      (parcel : w'.duty.parcel? = w.duty.parcel?) : (p.setWorker j w').held.Perm p.held := by
    have hset := held_setWorker at_ w'
    rw [parcel] at hset
    exact (List.perm_append_left_iff _).mp hset
  cases step with
  | received at_ idle leaves => exact h.take at_ idle leaves
  | left at_ idle _ => exact h.same rfl (hkeeps at_ (by rw [idle]; rfl)) rfl rfl
  | thought at_ busy _ => exact h.same rfl (hkeeps at_ (by rw [busy]; rfl)) rfl rfl
  | @handled j w q stage c next at_ busy _ =>
    apply h.same (traffic_handle c next)
    · exact hkeeps at_ (by rw [busy]; rfl)
    · exact (filterMap_handle _ c next).trans (List.append_nil _)
    · exact (filterMap_handle _ c next).trans (List.append_nil _)
  | finished at_ busy settles => exact h.finish at_ busy settles
  | resent sends =>
    obtain ⟨labelled, moved⟩ := Traffic.labelled_resend h.labelled sends
    exact h.moved (Traffic.sameBus_resend sends) labelled moved
  | letIn enters =>
    obtain ⟨labelled, moved⟩ := Traffic.labelled_letIn h.labelled enters
    exact h.moved (Traffic.sameBus_letIn enters) labelled moved
  | cancelled id => exact h.same rfl (.refl _) rfl rfl
  | supplied supply available =>
    cases supply <;> exact h.same rfl (.refl _) rfl rfl
  | waited now => exact h.same rfl (.refl _) rfl rfl

end Pool

end CatalogIntake
