import CatalogIntake.Proofs.Concurrency.Effect
import CatalogIntake.Proofs.Concurrency.Timeliness
import Mathlib.Algebra.Order.BigOperators.Group.List

/-!
What the counters of a job rest on. Rows are counted as stored once their products are in the
catalogue, and as failed once their errors are in the log; an attempt whose rows cannot be counted
leaves more behind than the counters say. Of the three stores only the log has to be available.
-/

namespace CatalogIntake

/-- No more rows are counted as stored than have been; a failed attempt counts none of its rows. -/
theorem Stage.stored_le_of_asks {chunk : Chunk} {stage next : Stage} {c : Call}
    {answer : c.Answer} (h : Stage.Asks chunk stage c answer next) (fits : stage.Fits chunk) :
    next.stored + c.processed answer ≤ stage.stored + (c.inserted answer).length := by
  by_cases kept : ∃ f, next = .settled (.error f)
  · obtain ⟨f, rfl⟩ := kept
    cases h with
    | unloaded => exact Int.le_refl 0
    | @uncounted stored _ =>
      have hpos : 0 ≤ stored.processed := fits.1
      simpa [Stage.stored, Call.processed, Call.inserted] using hpos
  · exact Int.le_of_eq (Stage.stored_of_asks h fun f hf => kept ⟨f, hf⟩)

theorem Stage.Fits.stored_nonneg {chunk : Chunk} {stage : Stage} (h : stage.Fits chunk) :
    0 ≤ stage.stored := by
  cases stage with
  | single _ _ _ | logging _ | counting _ => exact h.1
  | _ => exact Int.le_refl 0

theorem Stage.logged_nonneg (stage : Stage) : 0 ≤ stage.logged := by
  cases stage with
  | counting stored => exact Int.natCast_nonneg _
  | _ => exact Int.le_refl 0

theorem Stage.logged_le_of_asks {chunk : Chunk} {stage next : Stage} {c : Call}
    {answer : c.Answer} (h : Stage.Asks chunk stage c answer next)
    (saves : ∀ candidates, c = .saveErrors candidates → c.saved answer = candidates) :
    next.logged + c.failed answer ≤ stage.logged + (c.saved answer).length := by
  by_cases kept : ∃ f, next = .settled (.error f)
  · obtain ⟨f, rfl⟩ := kept
    cases h with
    | unloaded => exact Int.le_refl 0
    | uncounted => simp [Stage.logged, Call.failed, Call.saved]
  · exact Int.le_of_eq (Stage.logged_of_asks h (fun f hf => kept ⟨f, hf⟩) saves)

theorem Producing.Asks.uncounted_le {settings : ImportSettings} {p next : Producing} {c : Call}
    {answer : c.Answer} (h : Producing.Asks settings p c answer next)
    (saves : ∀ candidates, c = .saveErrors candidates → c.saved answer = candidates) :
    next.point.uncounted + c.failed answer ≤ p.point.uncounted + (c.saved answer).length := by
  cases kept : next.point.isFailing with
  | false => exact Int.le_of_eq (h.uncounted_eq kept saves)
  | true =>
    cases h with
    | logged _ _ => cases kept
    | counted at_ =>
      rw [at_, proceed_uncounted]
      simp [Point.uncounted, Call.failed, Call.saved]
    | _ => exact Int.add_nonneg (Int.natCast_nonneg _) (Int.natCast_nonneg _)

namespace Concurrency

namespace World

/-- The counter of stored rows of a job, which is zero for an unknown one. -/
def processed (w : World) (id : JobId) : Int := ((w.jobs.get? id).map (·.processedRows)).getD 0

def failed (w : World) (id : JobId) : Int := ((w.jobs.get? id).map (·.failedRows)).getD 0

variable {w w' : World} {id : JobId}

theorem counters_of_get? {job : Job} (known : w.jobs.get? id = some job) :
    w.processed id = job.processedRows ∧ w.failed id = job.failedRows := by
  unfold processed failed
  rw [known]
  exact ⟨rfl, rfl⟩

theorem counters_congr (h : w'.jobs.get? id = w.jobs.get? id) :
    w'.processed id = w.processed id ∧ w'.failed id = w.failed id := by
  unfold processed failed
  rw [h]
  exact ⟨rfl, rfl⟩

theorem counters_of_map {f : Job → Job} (h : w'.jobs.get? id = (w.jobs.get? id).map f)
    (same : ∀ job,
      (f job).processedRows = job.processedRows ∧ (f job).failedRows = job.failedRows) :
    w'.processed id = w.processed id ∧ w'.failed id = w.failed id := by
  unfold processed failed
  rw [h]
  cases w.jobs.get? id with
  | none => exact ⟨rfl, rfl⟩
  | some job => exact same job

theorem counters_answer {c : Call} {answer : c.Answer} (replies : w.answer c = (answer, w'))
    (create : c.isCreate = false) (own : c.jobId? = some id ∨ c.jobId? = none) :
    w'.processed id = w.processed id + c.processed answer ∧
      w'.failed id = w.failed id + c.failed answer := by
  have hget := System.get?_of_own_answer (s := ⟨w, [], [], []⟩) replies create own
  unfold processed failed
  rw [hget]
  cases hjob : w.jobs.get? id with
  | some job => exact Import.counters_after job w.now c answer
  | none =>
    -- an unknown job cannot be counted for
    cases c with
    | increment other processed failed =>
      obtain rfl : other = id := by
        rcases own with own | own
        · exact Option.some.inj own
        · cases own
      have hfst := congrArg Prod.fst replies
      rw [answer_increment, JobTable.fst_increment, hjob] at hfst
      subst hfst
      cases w.jobs.progressAvailable <;> exact ⟨rfl, rfl⟩
    | _ => exact ⟨rfl, rfl⟩

end World

def Duty.amountFor (id : JobId) (f : Stage → Int) : Duty → Int
  | .busy d stage => if d.chunk.jobId = id then f stage else 0
  | _ => 0

theorem Duty.amountFor_of_rest {f : Stage → Int} {id : JobId} {d : Delivery} {stage : Stage}
    (rest : f stage = 0) : Duty.amountFor id f (.busy d stage) = 0 := by
  simp only [amountFor]
  split
  · exact rest
  · rfl

namespace Event

def inserted : Event → List Product
  | handled _ _ c answer => c.inserted answer
  | _ => []

def insertedFor (id : JobId) : Event → List Product
  | handled _ d c answer => if d.chunk.jobId = id then c.inserted answer else []
  | _ => []

theorem insertedFor_sublist (id : JobId) (e : Event) : (e.insertedFor id).Sublist e.inserted := by
  cases e with
  | handled worker d c answer =>
    simp only [insertedFor, inserted]
    split
    · exact List.Sublist.refl _
    · exact List.nil_sublist _
  | _ => exact List.Sublist.refl _

end Event

namespace System

def insertedFor (s : System) (id : JobId) : List Product := s.history.flatMap (Event.insertedFor id)

def tallyFor (s : System) (id : JobId) (f : Stage → Int) : Int :=
  (s.workers.map (·.duty.amountFor id f)).sum

def awaitingFor (s : System) (id : JobId) : Nat :=
  (s.producers.map fun p => if p.jobId = id then p.state.point.uncounted else 0).sum

variable {a : Action} {s s' t : System} {i j : Nat} {p q : Producer} {w : Worker}
  {f : Stage → Int} {id : JobId}

theorem insertedFor_record (id : JobId) (e : Event) :
    (s.record e).insertedFor id = s.insertedFor id ++ e.insertedFor id := by
  unfold insertedFor record
  rw [List.flatMap_append, List.flatMap_singleton]

theorem tallyFor_setWorker (id : JobId) (w' : Worker) (at_ : s.workers[j]? = some w) :
    (s.setWorker j w').tallyFor id f + w.duty.amountFor id f =
      s.tallyFor id f + w'.duty.amountFor id f :=
  sum_set (fun w => w.duty.amountFor id f) w' at_

theorem tallyFor_of_rest {w' : Worker} (workers : t.workers = s.workers)
    (at_ : s.workers[j]? = some w) (same : w'.duty.amountFor id f = w.duty.amountFor id f) :
    (t.setWorker j w').tallyFor id f = s.tallyFor id f := by
  have hset := tallyFor_setWorker (f := f) id w' ((congrArg (·[j]?) workers).trans at_)
  have htally : t.tallyFor id f = s.tallyFor id f := by
    unfold tallyFor
    rw [workers]
  omega

theorem tallyFor_nonneg (held : ∀ {j : Nat} {w : Worker} {d : Delivery} {stage : Stage},
    s.workers[j]? = some w → w.duty = .busy d stage → 0 ≤ f stage) : 0 ≤ s.tallyFor id f := by
  refine List.sum_nonneg ?_
  intro amount hamount
  obtain ⟨w, hw, rfl⟩ := List.mem_map.mp hamount
  obtain ⟨j, at_⟩ := List.getElem?_of_mem hw
  cases busy : w.duty with
  | busy d stage =>
    simp only [Duty.amountFor]
    split
    · exact held at_ busy
    · exact Int.le_refl 0
  | _ => exact Int.le_refl 0

theorem awaitingFor_setProducer (id : JobId) (at_ : s.producers[i]? = some p)
    (jobId : q.jobId = p.jobId) :
    (p.jobId ≠ id → (s.setProducer i q).awaitingFor id = s.awaitingFor id) ∧
      (p.jobId = id → (s.setProducer i q).awaitingFor id + p.state.point.uncounted =
        s.awaitingFor id + q.state.point.uncounted) := by
  have hset : (s.setProducer i q).awaitingFor id + _ = s.awaitingFor id + _ :=
    sum_set (fun p : Producer => if p.jobId = id then p.state.point.uncounted else 0) q at_
  rw [jobId] at hset
  constructor
  · intro other
    rw [if_neg other, if_neg other] at hset
    exact hset
  · intro own
    rw [if_pos own, if_pos own] at hset
    exact hset

theorem awaitingFor_of_rest (at_ : s.producers[i]? = some p) (jobId : q.jobId = p.jobId)
    (same : q.state.point.uncounted = p.state.point.uncounted) :
    (s.setProducer i q).awaitingFor id = s.awaitingFor id := by
  obtain ⟨other, own⟩ := awaitingFor_setProducer id at_ jobId
  by_cases hid : p.jobId = id
  · have := own hid
    omega
  · exact other hid

theorem awaitingFor_letIn (ticket : Option Nat) :
    (s.letIn ticket).awaitingFor id = s.awaitingFor id := by
  unfold letIn
  split
  · rfl
  · split
    · rename_i p hp
      exact awaitingFor_of_rest (q := { p with waiting := false }) hp rfl rfl
    · rfl

/-- What a step means to the rows of a job: nothing, or it is a call of its producer or of a worker
with one of its chunks. -/
inductive Bearing (s s' : System) (id : JobId) : Prop
  | nothing (counters : s'.world.processed id = s.world.processed id ∧
        s'.world.failed id = s.world.failed id)
      (errors : s.world.errors.count id ≤ s'.world.errors.count id)
      (inserted : s'.insertedFor id = s.insertedFor id)
      (tally : ∀ {f : Stage → Int}, Resting f → s'.tallyFor id f = s.tallyFor id f)
      (awaiting : s'.awaitingFor id = s.awaitingFor id)
  | asked {i : Nat} {p : Producer} {c : Call} {answer : c.Answer} {next : Producing}
      (at_ : s.producers[i]? = some p) (own : p.jobId = id)
      (asks : Producing.Asks p.settings p.state c answer next)
      (replies : s.world.answer c = (answer, s'.world))
      (inserted : s'.insertedFor id = s.insertedFor id)
      (tally : ∀ f, s'.tallyFor id f = s.tallyFor id f)
      (awaiting : s'.awaitingFor id + p.state.point.uncounted =
        s.awaitingFor id + next.point.uncounted)
  | handled {j : Nat} {w : Worker} {d : Delivery} {stage next : Stage} {c : Call}
      {answer : c.Answer} (at_ : s.workers[j]? = some w) (busy : w.duty = .busy d stage)
      (own : d.chunk.jobId = id) (asks : Stage.Asks d.chunk stage c answer next)
      (replies : s.world.answer c = (answer, s'.world))
      (inserted : s'.insertedFor id = s.insertedFor id ++ c.inserted answer)
      (tally : ∀ f, s'.tallyFor id f + f stage = s.tallyFor id f + f next)
      (awaiting : s'.awaitingFor id = s.awaitingFor id)

theorem errors_of_answer {c : Call} {answer : c.Answer} {world : World}
    (replies : s.world.answer c = (answer, world)) :
    s.world.errors.count id ≤ world.errors.count id := by
  have hcount := World.errors_answer s.world c id
  rw [replies] at hcount
  exact hcount ▸ Nat.le_add_right _ _

theorem bearing_of_asked {c : Call} {answer : c.Answer} {world : World} {next : Producing}
    (at_ : s.producers[i]? = some p) (replies : s.world.answer c = (answer, world))
    (asks : Producing.Asks p.settings p.state c answer next) :
    Bearing s (({ s with world }.record (.asked i c answer)).setProducer i (p.goTo next)) id := by
  have hat : ({ s with world }.record (.asked i c answer)).producers[i]? = some p := at_
  obtain ⟨other, own⟩ := awaitingFor_setProducer (q := p.goTo next) id hat asks.jobId
  obtain ⟨hown, hcreate⟩ := asks.callJobId
  have hinserted : ({ s with world }.record (.asked i c answer)).insertedFor id =
      s.insertedFor id := (insertedFor_record id _).trans (List.append_nil _)
  by_cases hid : p.jobId = id
  · exact .asked at_ hid asks replies hinserted (fun _ => rfl) (own hid)
  · have hget := (get?_of_other_answer replies hcreate hown hid).2
    exact .nothing (World.counters_congr hget) (errors_of_answer replies) hinserted (fun _ => rfl)
      (other hid)

theorem bearing_of_handled {d : Delivery} {stage next : Stage} {c : Call} {answer : c.Answer}
    {world : World} (at_ : s.workers[j]? = some w) (busy : w.duty = .busy d stage)
    (replies : s.world.answer c = (answer, world))
    (asks : Stage.Asks d.chunk stage c answer next) :
    Bearing s (({ s with world }.record (.handled j d c answer)).setWorker j
      { w with duty := .busy d next }) id := by
  have hat : ({ s with world }.record (.handled j d c answer)).workers[j]? = some w := at_
  obtain ⟨hown, hcreate, -⟩ := asks.jobId
  have hinserted := insertedFor_record (s := { s with world }) id (.handled j d c answer)
  by_cases hid : d.chunk.jobId = id
  · refine .handled at_ busy hid asks replies ?_ ?_ rfl
    · rw [Event.insertedFor, if_pos hid] at hinserted
      exact hinserted
    · intro f
      have hset := tallyFor_setWorker (f := f) id { w with duty := .busy d next } hat
      rw [busy, Duty.amountFor, Duty.amountFor, if_pos hid, if_pos hid] at hset
      exact hset
  · have hget := (get?_of_other_answer replies hcreate hown hid).2
    refine .nothing (World.counters_congr hget) (errors_of_answer replies) ?_ ?_ rfl
    · rw [Event.insertedFor, if_neg hid, List.append_nil] at hinserted
      exact hinserted
    · intro f _
      refine tallyFor_of_rest rfl hat ?_
      rw [busy, Duty.amountFor, Duty.amountFor, if_neg hid, if_neg hid]

theorem Step.bearing (step : Step s a s') (id : JobId) : Bearing s s' id := by
  cases step with
  | read at_ =>
    exact .nothing ⟨rfl, rfl⟩ (Nat.le_refl _) rfl (fun _ => rfl) (awaitingFor_of_rest at_ rfl rfl)
  | go at_ _ goes =>
    exact .nothing ⟨rfl, rfl⟩ (Nat.le_refl _) rfl (fun _ => rfl)
      (awaitingFor_of_rest at_ goes.jobId goes.uncounted_eq)
  | @refused i p chunk state at_ _ _ asks =>
    have hat : (s.record (.asked i (.publish chunk) (.fail .busClosed))).producers[i]? = some p :=
      at_
    exact .nothing ⟨rfl, rfl⟩ (Nat.le_refl _) ((insertedFor_record id _).trans (List.append_nil _))
      (fun _ => rfl) (awaitingFor_of_rest hat asks.jobId asks.uncounted_of_publish)
  | @published i p q chunk state admission bus at_ _ _ _ asks moved =>
    have hat : ((s.setBus bus).record (.taken i chunk)).producers[i]? = some p := at_
    have hstate : q.state = state := congrArg Producer.state moved
    refine .nothing ⟨rfl, rfl⟩ (Nat.le_refl _)
      ((insertedFor_record (s := s.setBus bus) id _).trans (List.append_nil _)) (fun _ => rfl)
      (awaitingFor_of_rest hat ?_ ?_)
    · rw [Producer.jobId, hstate]
      exact asks.jobId
    · rw [hstate]
      exact asks.uncounted_of_publish
  | asked at_ _ _ replies asks => exact bearing_of_asked at_ replies asks
  | @received j w d admitted bus at_ idle _ =>
    refine .nothing ?_ ?_ ?_ ?_ (awaitingFor_letIn (s := s.setBus bus) admitted)
    · refine World.counters_congr ?_
      simp only [setWorker, world_letIn]
      rfl
    · simp only [setWorker, world_letIn]
      exact Nat.le_refl _
    · show List.flatMap _ ((s.setBus bus).letIn admitted).history = _
      rw [history_letIn]
      rfl
    · intro f resting
      refine tallyFor_of_rest (workers_letIn _ _) at_ ?_
      rw [idle]
      exact Duty.amountFor_of_rest resting.loading
  | left at_ idle _ =>
    refine .nothing ⟨rfl, rfl⟩ (Nat.le_refl _) rfl (fun _ => tallyFor_of_rest rfl at_ ?_) rfl
    rw [idle]
    rfl
  | thought at_ busy goes =>
    refine .nothing ⟨rfl, rfl⟩ (Nat.le_refl _) rfl (fun resting => tallyFor_of_rest rfl at_ ?_) rfl
    rw [busy, Duty.amountFor, Duty.amountFor, resting.goes goes]
  | handled at_ busy replies asks => exact bearing_of_handled at_ busy replies asks
  | @settled j w d result at_ busy =>
    refine .nothing ⟨rfl, rfl⟩ (Nat.le_refl _) ?_ (fun resting => tallyFor_of_rest rfl at_ ?_) rfl
    · exact (insertedFor_record (s := s.setBus (s.world.bus.settleWith d result)) id
        (.settled j d result)).trans (List.append_nil _)
    · rw [busy]
      exact (Duty.amountFor_of_rest (resting.settled result)).symm
  | @started settings jobId source fresh =>
    refine .nothing ?_ (Nat.le_refl _) rfl (fun _ => rfl) ?_
    · by_cases hid : id = jobId
      · -- the new job begins where an unknown one stands
        subst hid
        unfold World.processed World.failed
        rw [get?_started_self fresh, fresh]
        exact ⟨rfl, rfl⟩
      · exact World.counters_congr (get?_started hid)
    · unfold awaitingFor
      rw [List.map_append, List.sum_append]
      simp [Producer.start, Producing.start, Point.uncounted]
  | hired =>
    refine .nothing ⟨rfl, rfl⟩ (Nat.le_refl _) rfl (fun _ => ?_) rfl
    unfold tallyFor
    rw [List.map_append, List.sum_append]
    exact Int.add_zero _
  | cancelled other =>
    refine .nothing ?_ (Nat.le_refl _) rfl (fun _ => rfl) rfl
    by_cases hid : id = other
    · refine World.counters_of_map ((JobTable.get?_finish ..).trans (if_pos hid)) ?_
      exact Job.finished_rows _ _ _
    · exact World.counters_congr ((JobTable.get?_finish ..).trans (if_neg hid))
  | supplied supply value =>
    cases supply <;> exact .nothing ⟨rfl, rfl⟩ (Nat.le_refl _) rfl (fun _ => rfl) rfl
  | closed => exact .nothing ⟨rfl, rfl⟩ (Nat.le_refl _) rfl (fun _ => rfl) rfl
  | waited now => exact .nothing ⟨rfl, rfl⟩ (Nat.le_refl _) rfl (fun _ => rfl) rfl

/-- What is counted of a job and what is about to be counted is in the stores. -/
structure Backed (s : System) (id : JobId) : Prop where
  stored : s.world.processed id + s.tallyFor id Stage.stored ≤ (s.insertedFor id).length
  logged : s.world.failed id + s.tallyFor id Stage.logged + s.awaitingFor id ≤
    s.world.errors.count id

theorem Backed.step (h : s.Backed id) (sound : s.Sound) (labelled : s.Labelled)
    (available : s.world.errors.available = true) (step : Step s a s') : s'.Backed id := by
  obtain ⟨hstored, hlogged⟩ := h
  have saves {c : Call} {answer : c.Answer} (replies : s.world.answer c = (answer, s'.world))
      (candidates : List ErrorCandidate) (hc : c = .saveErrors candidates) :
      c.saved answer = candidates := by
    subst hc
    exact World.saved_of_available available (congrArg Prod.fst replies)
  have saved {c : Call} {answer : c.Answer} (replies : s.world.answer c = (answer, s'.world))
      (named : ∀ e ∈ c.saved answer, e.jobId = id) :
      s'.world.errors.count id = s.world.errors.count id + (c.saved answer).length := by
    have hsaved : ∀ e ∈ c.saved (s.world.answer c).1, e.jobId = id := by
      rw [replies]
      exact named
    have hcount := World.errors_answer_of_named hsaved
    rw [replies] at hcount
    exact hcount
  -- a call that counts rows takes them from what its caller had stored or logged before
  cases step.bearing id with
  | nothing counters errors inserted tally awaiting =>
    have hs := tally resting_stored
    have hl := tally resting_logged
    constructor
    · rw [counters.1, inserted, hs]
      exact hstored
    · rw [counters.2, awaiting, hl]
      omega
  | @asked i p c answer next at_ own asks replies inserted tally awaiting =>
    obtain ⟨hown, hcreate⟩ := asks.callJobId
    rw [show p.state.run.jobId = id from own] at hown
    obtain ⟨hprocessed, hfailed⟩ := World.counters_answer replies hcreate hown
    obtain ⟨_, himport⟩ := sound.imports at_
    have herrors := saved replies fun e he => (himport.reads.named e (asks.saved he)).trans own
    have hcalled := asks.uncounted_le (saves replies)
    constructor
    · rw [hprocessed, asks.stores.2, Int.add_zero, inserted, tally]
      exact hstored
    · rw [hfailed, herrors, tally]
      push_cast
      omega
  | handled at_ busy own asks replies inserted tally awaiting =>
    obtain ⟨hown, hcreate, -⟩ := asks.jobId
    rw [own] at hown
    obtain ⟨hprocessed, hfailed⟩ := World.counters_answer replies hcreate hown
    have herrors := saved replies fun e he =>
      (labelled at_ busy e (Stage.saved_of_asks asks he)).trans own
    have hcalled := Stage.stored_le_of_asks asks (sound.fitting at_ busy)
    have hcalled' := Stage.logged_le_of_asks asks (saves replies)
    have hs := tally Stage.stored
    have hl := tally Stage.logged
    constructor
    · rw [hprocessed, inserted, List.length_append]
      push_cast
      omega
    · rw [hfailed, herrors, awaiting]
      push_cast
      omega

theorem backed_opening {world : World} (fresh : world.jobs.get? id = none) (workers : Nat) :
    (opening world workers).Backed id := by
  have htally (f : Stage → Int) : (opening world workers).tallyFor id f = 0 := by
    simp [tallyFor, opening, Duty.amountFor]
  constructor
  · rw [htally]
    show ((world.jobs.get? id).map _).getD 0 + 0 ≤ _
    rw [fresh]
    exact Int.natCast_nonneg _
  · rw [htally]
    show ((world.jobs.get? id).map _).getD 0 + 0 + 0 ≤ _
    rw [fresh]
    exact Int.natCast_nonneg _

def inserted (s : System) : List Product := s.history.flatMap Event.inserted

theorem insertedFor_sublist (s : System) (id : JobId) : (s.insertedFor id).Sublist s.inserted := by
  unfold insertedFor inserted
  induction s.history with
  | nil => exact List.Sublist.refl _
  | cons e rest ih =>
    rw [List.flatMap_cons, List.flatMap_cons]
    exact (e.insertedFor_sublist id).append ih

/-- The catalogue holds what it held, and what workers have stored. -/
theorem Step.products {stock : List Product} (step : Step s a s')
    (h : s.world.products.products = stock ++ s.inserted) :
    s'.world.products.products = stock ++ s'.inserted := by
  have recorded {t : System} {e : Event} (history : t.history = s.history ++ [e])
      (products : t.world.products.products = s.world.products.products ++ e.inserted) :
      t.world.products.products = stock ++ t.inserted := by
    unfold inserted
    rw [products, h, history, List.flatMap_append, List.flatMap_singleton, List.append_assoc]
    rfl
  have answered {c : Call} {answer : c.Answer} {world : World}
      (replies : s.world.answer c = (answer, world)) :
      world.products.products = s.world.products.products ++ c.inserted answer := by
    have hproducts := World.products_answer s.world c
    rw [replies] at hproducts
    exact hproducts
  cases step with
  | refused _ _ _ _ => exact recorded rfl (List.append_nil _).symm
  | published _ _ _ _ _ _ => exact recorded rfl (List.append_nil _).symm
  | asked _ _ _ replies asks =>
    refine recorded rfl ((answered replies).trans ?_)
    rw [asks.stores.1]
    rfl
  | handled _ _ replies _ => exact recorded rfl (answered replies)
  | settled _ _ => exact recorded rfl (List.append_nil _).symm
  | received _ _ _ =>
    unfold inserted
    simp only [setWorker, world_letIn, history_letIn]
    exact h
  | supplied supply value => cases supply <;> exact h
  | _ => exact h

theorem errorsAvailable_answer (w : World) (c : Call) :
    (w.answer c).2.errors.available = w.errors.available := by
  cases c with
  | saveErrors candidates => exact ErrorLog.available_save ..
  | _ => rfl

theorem Step.errorsAvailable (step : Step s a s') (on : a ≠ .supply .errors false)
    (h : s.world.errors.available = true) : s'.world.errors.available = true := by
  have answered {c : Call} {answer : c.Answer} {world : World}
      (replies : s.world.answer c = (answer, world)) : world.errors.available = true := by
    have havailable := errorsAvailable_answer s.world c
    rw [replies] at havailable
    exact havailable.trans h
  cases step with
  | asked _ _ _ replies _ => exact answered replies
  | handled _ _ replies _ => exact answered replies
  | received _ _ _ =>
    simp only [setWorker, world_letIn]
    exact h
  | supplied supply value =>
    cases supply with
    | errors =>
      cases value with
      | true => rfl
      | false => exact absurd rfl on
    | _ => exact h
  | _ => exact h

/-- A run from these jobs and this stock, during which the log has been available. -/
structure Evident (jobs : JobTable) (stock : List Product) (s : System) : Prop where
  sound : s.Sound
  labelled : s.Labelled
  available : s.world.errors.available = true
  products : s.world.products.products = stock ++ s.inserted
  known : ∀ {id : JobId}, s.world.jobs.get? id = none → jobs.get? id = none
  own : ∀ {i : Nat} {p : Producer}, s.producers[i]? = some p → jobs.get? p.jobId = none
  backed : ∀ {id : JobId}, jobs.get? id = none → s.Backed id

theorem Evident.step {jobs : JobTable} {stock : List Product} (h : s.Evident jobs stock)
    (on : a ≠ .supply .errors false) (step : Step s a s') : s'.Evident jobs stock where
  sound := h.sound.step step
  labelled := Labelled.step h.labelled step
  available := step.errorsAvailable on h.available
  products := step.products h.products
  known := by
    intro id hnone
    refine h.known ?_
    by_contra hne
    have hsome := step.known (Option.isSome_iff_ne_none.mpr hne)
    rw [hnone] at hsome
    cases hsome
  own := by
    intro i p' hp'
    rcases step.origin hp' with ⟨p, hp⟩ | ⟨-, _, id, _, rfl, fresh, -⟩
    · obtain ⟨q, hq, -, -, hid, -⟩ := step.continues h.sound.registered hp
      obtain rfl : q = p' := Option.some.inj (hq.symm.trans hp')
      rw [hid]
      exact h.own hp
    · exact h.known fresh
  backed := fun fresh => (h.backed fresh).step h.sound h.labelled h.available step

/-- Whatever happens to the catalogue, to the progress of jobs, to the bus and to the imports, there
is an error in the log for every row that is counted as failed, and a product in the catalogue, put
there for a chunk of the job, for every row that is counted as stored. -/
theorem counters_never_ahead {now : Instant} {jobs : JobTable} {errors : ErrorLog}
    {products : Catalogue} {capacity workers : Nat} {schedule : List Action}
    (available : errors.available = true) (on : ∀ a ∈ schedule, a ≠ .supply .errors false)
    (run : (opening (.opening now jobs errors products capacity) workers).run schedule = some s)
    (at_ : s.producers[i]? = some p) :
    ∃ job, s.world.jobs.get? p.jobId = some job ∧
      job.failedRows ≤ s.world.errors.count p.jobId ∧
      job.processedRows ≤ (s.insertedFor p.jobId).length ∧
      ∃ added, s.world.products.products = products.products ++ added ∧
        (s.insertedFor p.jobId).Sublist added := by
  have start : (opening (.opening now jobs errors products capacity) workers).Evident jobs
      products.products :=
    { sound := sound_opening ..
      labelled := labelled_opening _ workers
      available := available
      products := (List.append_nil _).symm
      known := fun hnone => hnone
      own := fun hp => by simp [opening] at hp
      backed := fun fresh => backed_opening fresh workers }
  have reached : s.Evident jobs products.products :=
    run_invariant_of (Q := (· ≠ .supply .errors false)) (fun on step h => h.step on step) on run
      start
  obtain ⟨job, himport⟩ := reached.sound.imports at_
  have hjob : s.world.jobs.get? p.jobId = some job := himport.here
  obtain ⟨hstored, hlogged⟩ := reached.backed (reached.own at_)
  obtain ⟨hprocessed, hfailed⟩ := World.counters_of_get? hjob
  refine ⟨job, hjob, ?_, ?_, s.inserted, reached.products, s.insertedFor_sublist _⟩
  · have hheld : 0 ≤ s.tallyFor p.jobId Stage.logged :=
      tallyFor_nonneg fun _ _ => Stage.logged_nonneg _
    omega
  · have hheld : 0 ≤ s.tallyFor p.jobId Stage.stored :=
      tallyFor_nonneg fun at_ busy => (reached.sound.fitting at_ busy).stored_nonneg
    omega

section Mug

/-- The counters of jobs cannot be updated when the mug is to be counted, so that its chunk is
returned and tried again. By then the mug is in the catalogue. -/
def mugTwice : List Action :=
  [.start { chunkSize := 1 } ⟨7⟩ [.parsed mug, .rejected 2 "too few fields" none],
    .read 0, .read 0] ++
  List.replicate 4 (.produce 0) ++ .supply .progress false :: List.replicate 6 (.work 0) ++
    .supply .progress true :: List.replicate 8 (.work 0) ++ List.replicate 7 (.produce 0)

theorem mug_counters_never_ahead : ∃ s p job,
    ErrorLog.empty.available = true ∧ (∀ a ∈ mugTwice, a ≠ .supply .errors false) ∧
      (opening (.opening ⟨0, 0⟩ .empty .empty .empty 1) 1).run mugTwice = some s ∧
      s.producers[0]? = some p ∧ s.world.jobs.get? p.jobId = some job ∧
      job.failedRows ≤ s.world.errors.count p.jobId ∧
      job.processedRows ≤ (s.insertedFor p.jobId).length ∧
      ∃ added, s.world.products.products = [] ++ added ∧ (s.insertedFor p.jobId).Sublist added := by
  have hrun : ((opening (.opening ⟨0, 0⟩ .empty .empty .empty 1) 1).run mugTwice).any
      (fun s => s.producers[0]?.isSome) = true := by
    decide +kernel
  obtain ⟨s, hs, hp⟩ := (Option.any_eq_true _ _).mp hrun
  obtain ⟨p, hp⟩ := Option.isSome_iff_exists.mp hp
  have on : ∀ a ∈ mugTwice, a ≠ .supply .errors false := by
    simp [mugTwice]
  obtain ⟨job, hjob, hfailed, hprocessed, hadded⟩ := counters_never_ahead rfl on hs hp
  exact ⟨s, p, job, rfl, on, hs, hp, hjob, hfailed, hprocessed, hadded⟩

end Mug

end System

end Concurrency

end CatalogIntake
