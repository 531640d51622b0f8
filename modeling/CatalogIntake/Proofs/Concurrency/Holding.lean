import CatalogIntake.Proofs.Concurrency.Depot
import CatalogIntake.Proofs.Concurrency.Ledger

/-!
The messages in the hands of workers and those whose rows have been counted. Seen from the
messages, a step publishes one, hands one out, takes a worker further with the one in hand, settles
it, or does nothing.
-/

namespace CatalogIntake

theorem Call.counts_error (c : Call) (f : Failure) : c.counts (.error f) = false := by
  cases c <;> rfl

namespace Stage

variable {chunk : Chunk} {stage next : Stage}

theorem isSettled_of_goes (h : Goes chunk stage next) : stage.isSettled = false := by
  cases h <;> rfl

theorem isSettled_of_asks {c : Call} {answer : c.Answer} (h : Asks chunk stage c answer next) :
    stage.isSettled = false := by
  cases h <;> rfl

end Stage

namespace Concurrency

open Sql

def Duty.holding? : Duty → Option (Delivery × Stage)
  | .busy d stage => some (d, stage)
  | _ => none

def Event.counting? : Event → Option Delivery
  | handled _ d c answer => if c.counts answer then some d else none
  | _ => none

namespace System

def holding (s : System) (j : Nat) : Option (Delivery × Stage) :=
  s.workers[j]?.bind (·.duty.holding?)

def countings (s : System) : List Delivery := s.history.filterMap Event.counting?

def countedIds (s : System) : List (Option Int) := s.countings.map (·.messageId)

theorem counted_eq (s : System) : s.counted = s.countings.map (·.chunk) := by
  unfold counted countings
  rw [List.map_filterMap]
  congr 1
  funext e
  cases e with
  | handled j d c answer =>
    simp only [Event.counted?, Event.counting?]
    split <;> rfl
  | _ => rfl

section Views

variable {s s' : System} {j : Nat} {w : Worker}

theorem holding_of_busy {d : Delivery} {stage : Stage} (at_ : s.workers[j]? = some w)
    (busy : w.duty = .busy d stage) : s.holding j = some (d, stage) := by
  unfold holding
  rw [at_]
  simp [busy, Duty.holding?]

theorem busy_of_holding {d : Delivery} {stage : Stage} (h : s.holding j = some (d, stage)) :
    ∃ w, s.workers[j]? = some w ∧ w.duty = .busy d stage := by
  obtain ⟨w, at_, hduty⟩ := Option.bind_eq_some_iff.mp h
  refine ⟨w, at_, ?_⟩
  unfold Duty.holding? at hduty
  split at hduty
  · cases hduty
    assumption
  · cases hduty

theorem holding_opening (world : World) (workers j : Nat) :
    (opening world workers).holding j = none := by
  rw [Option.eq_none_iff_forall_ne_some]
  rintro ⟨d, stage⟩ h
  obtain ⟨w, at_, busy⟩ := busy_of_holding h
  rw [duty_opening at_] at busy
  cases busy

theorem holding_of_workers (h : s'.workers = s.workers) (k : Nat) : s'.holding k = s.holding k := by
  unfold holding
  rw [h]

theorem holding_setWorker {t : System} (workers : t.workers = s.workers)
    (at_ : s.workers[j]? = some w) (w' : Worker) (k : Nat) :
    (t.setWorker j w').holding k = if k = j then w'.duty.holding? else s.holding k := by
  have hlt : j < s.workers.length := (List.getElem?_eq_some_iff.mp at_).1
  unfold holding setWorker
  simp only [workers, List.getElem?_set]
  by_cases h : k = j
  · subst h
    simp [hlt]
  · have hne : ¬j = k := fun hjk => h hjk.symm
    simp [h, hne]

theorem countedIds_of_countings (h : s'.countings = s.countings) :
    s'.countedIds = s.countedIds := by
  unfold countedIds
  rw [h]

theorem countedIds_append {counts : Bool} {d : Delivery}
    (h : s'.countings = s.countings ++ if counts then [d] else []) :
    s'.countedIds = s.countedIds ++ if counts then [d.messageId] else [] := by
  unfold countedIds
  rw [h, List.map_append]
  split <;> rfl

theorem countings_concat {e : Event} (history : s'.history = s.history ++ [e]) :
    s'.countings = s.countings ++ (Event.counting? e).toList := by
  unfold countings
  rw [history, filterMap_concat]

theorem taken_concat {e : Event} (history : s'.history = s.history ++ [e]) :
    s'.taken = s.taken ++ (Event.taken? e).toList := by
  unfold taken
  rw [history, filterMap_concat]

end Views

end System

inductive Shift (s : Depot) (e : Errand) (s' : Depot) : Prop
  | rested (table : s.table.Withholds s'.table) (taken : s'.system.taken = s.system.taken)
      (countings : s'.system.countings = s.system.countings)
      (holding : ∀ k, s'.system.holding k = s.system.holding k)
  | published {chunk : Chunk} (table : s'.table = s.table.insert s.settings.routingKey chunk)
      (taken : s'.system.taken = s.system.taken ++ [chunk])
      (countings : s'.system.countings = s.system.countings)
      (holding : ∀ k, s'.system.holding k = s.system.holding k)
  | claimed {j : Nat} {d : Delivery} {trouble : Trouble} (errand : e = .claim j trouble)
      (claims : QueueTable.Claims s.now s.settings s.table (.ok (some d)) s'.table)
      (idle : s.system.holding j = none) (taken : s'.system.taken = s.system.taken)
      (countings : s'.system.countings = s.system.countings)
      (holding : ∀ k, s'.system.holding k =
        if k = j then some (d, .loading) else s.system.holding k)
  | worked {j : Nat} {d : Delivery} {stage next : Stage} (counts : Bool)
      (table : s'.table = s.table) (had : s.system.holding j = some (d, stage))
      (open_ : stage.isSettled = false) (uncounted : counts = true → stage.isCounted = false)
      (isCounted : next.isCounted = (stage.isCounted || counts))
      (taken : s'.system.taken = s.system.taken)
      (countings : s'.system.countings = s.system.countings ++ if counts then [d] else [])
      (holding : ∀ k, s'.system.holding k = if k = j then some (d, next) else s.system.holding k)
  | settled {j : Nat} {d : Delivery} {result : Outcome ChunkOutcome} {answer : Outcome Unit}
      {trouble : Trouble} (errand : e = .settle j trouble)
      (settles : (Queue.settle d result).run (QueueTable.serve s.now trouble) s.table =
        (answer, s'.table))
      (had : s.system.holding j = some (d, .settled result))
      (taken : s'.system.taken = s.system.taken)
      (countings : s'.system.countings = s.system.countings)
      (holding : ∀ k, s'.system.holding k = if k = j then none else s.system.holding k)

theorem Shift.quiet {s s' : Depot} {e : Errand} (table : s'.table = s.table)
    (workers : s'.system.workers = s.system.workers)
    (history : s'.system.history = s.system.history ∨ ∃ i c answer,
      s'.system.history = s.system.history ++ [.asked i c answer]) : Shift s e s' := by
  have holding (k : Nat) : s'.system.holding k = s.system.holding k :=
    System.holding_of_workers workers k
  have withholds : s.table.Withholds s'.table := table ▸ .refl _
  rcases history with history | ⟨i, c, answer, history⟩
  · refine .rested withholds ?_ ?_ holding
    · unfold System.taken
      rw [history]
    · unfold System.countings
      rw [history]
  · refine .rested withholds ?_ ?_ holding
    · rw [System.taken_concat history]
      exact List.append_nil _
    · rw [System.countings_concat history]
      exact List.append_nil _

namespace Depot

variable {s s' : Depot} {e : Errand}

theorem shift_of_inside {a : Action} {system : System} (apart : s.system.isInside a = true)
    (step : System.Step s.system a system) : Shift s (.inside a) { s with system } := by
  have atWork {j : Nat} {w : Worker} (at_ : s.system.workers[j]? = some w)
      (ha : a = .work j) : w.duty.isAtWork = true := by
    subst ha
    simpa [System.isInside, at_] using apart
  -- only workers that are at work put messages down or count them
  cases step with
  | read _ => exact .quiet rfl rfl (.inl rfl)
  | go _ _ _ => exact .quiet rfl rfl (.inl rfl)
  | refused _ _ _ _ => exact .quiet rfl rfl (.inr ⟨_, _, _, rfl⟩)
  | @published i p _ _ _ _ _ at_ _ _ _ asks _ =>
    have hpoint : p.state.point.isPublishing = true := by
      cases asks with
      | published hpoint =>
        rw [hpoint]
        rfl
    simp [System.isInside, at_, hpoint] at apart
  | asked _ _ _ _ _ => exact .quiet rfl rfl (.inr ⟨_, _, _, rfl⟩)
  | received at_ idle _ =>
    have h := atWork at_ rfl
    rw [idle] at h
    cases h
  | left at_ idle _ =>
    have h := atWork at_ rfl
    rw [idle] at h
    cases h
  | @thought j w d stage next at_ busy goes =>
    obtain ⟨before, after⟩ := Stage.isCounted_of_goes goes
    refine .worked (j := j) (d := d) false rfl (System.holding_of_busy at_ busy)
      (Stage.isSettled_of_goes goes) (fun h => nomatch h) ?_ rfl (List.append_nil _).symm
      (System.holding_setWorker rfl at_ _)
    rw [before, after]
    rfl
  | @handled j w d stage next c answer world at_ busy replies asks =>
    refine .worked (j := j) (d := d) (c.counts answer) rfl
      (System.holding_of_busy at_ busy) (Stage.isSettled_of_asks asks)
      (Stage.not_isCounted_of_counts asks) (Stage.isCounted_of_asks asks) ?_ ?_
      (System.holding_setWorker rfl at_ _)
    · exact (System.taken_concat (s := s.system) (e := .handled j d c answer) rfl).trans
        (List.append_nil _)
    · refine (System.countings_concat (s := s.system) (e := .handled j d c answer) rfl).trans ?_
      simp only [Event.counting?]
      split <;> rfl
  | settled at_ busy =>
    have h := atWork at_ rfl
    rw [busy] at h
    cases h
  | started _ => exact .quiet rfl rfl (.inl rfl)
  | hired =>
    refine .rested (.refl _) rfl rfl fun k => ?_
    unfold System.holding
    simp only [List.getElem?_append]
    split
    · rfl
    · rename_i hlt
      rw [List.getElem?_eq_none (Nat.le_of_not_lt hlt)]
      cases hget : [({} : Worker)][k - s.system.workers.length]? with
      | none => rfl
      | some w =>
        have hw := List.mem_of_getElem? hget
        rw [List.mem_singleton.mp hw]
        rfl
  | cancelled _ => exact .quiet rfl rfl (.inl rfl)
  | supplied _ _ => exact .quiet rfl rfl (.inl rfl)
  | closed => exact .quiet rfl rfl (.inl rfl)
  | waited _ => exact .quiet rfl rfl (.inl rfl)

theorem Step.shift (step : Step s e s') : Shift s e s' := by
  cases step with
  | inside apart step => exact shift_of_inside apart step
  | denied _ _ => exact .quiet rfl rfl (.inr ⟨_, _, _, rfl⟩)
  | @faulted j w d stage next c f at_ busy asks =>
    have hcounts : c.counts (.error f) = false := Call.counts_error c f
    refine .worked (j := j) (d := d) false rfl (System.holding_of_busy at_ busy)
      (Stage.isSettled_of_asks asks) (fun h => nomatch h) ?_ ?_ ?_
      (System.holding_setWorker rfl at_ _)
    · rw [Stage.isCounted_of_asks asks, hcounts]
    · exact (System.taken_concat (s := s.system) (e := .handled j d c (.error f)) rfl).trans
        (List.append_nil _)
    · refine (System.countings_concat (s := s.system) (e := .handled j d c (.error f)) rfl).trans ?_
      simp [Event.counting?, hcounts]
  | @published i p chunk state trouble at_ asks =>
    refine .published rfl ?_ ?_ (System.holding_of_workers rfl)
    · exact System.taken_concat (s := s.system) (e := .taken i chunk) rfl
    · exact (System.countings_concat (s := s.system) (e := .taken i chunk) rfl).trans
        (List.append_nil _)
  | @claimed j w d table trouble at_ idle claims =>
    refine .claimed (d := d) rfl (QueueTable.claims_of_run claims) ?_ rfl rfl
      (System.holding_setWorker rfl at_ _)
    unfold System.holding
    rw [at_]
    simp [idle, Duty.holding?]
  | missed claims _ =>
    exact .rested (QueueTable.claims_of_run claims).withholds rfl rfl fun _ => rfl
  | @settled j w d result answer table trouble at_ busy settles =>
    refine .settled (j := j) rfl settles
      (System.holding_of_busy at_ busy) ?_ ?_ (System.holding_setWorker rfl at_ _)
    · exact (System.taken_concat (s := s.system) (e := .settled j d result) rfl).trans
        (List.append_nil _)
    · exact (System.countings_concat (s := s.system) (e := .settled j d result) rfl).trans
        (List.append_nil _)

end Depot

end Concurrency

end CatalogIntake
