import CatalogIntake.Proofs.Concurrency.Undisturbed
import Mathlib.Algebra.BigOperators.Group.List.Basic

namespace CatalogIntake.Concurrency

namespace World

variable {w : World}

theorem products_answer (w : World) (c : Call) :
    (w.answer c).2.products.products = w.products.products ++ c.inserted (w.answer c).1 := by
  cases c with
  | insertBatch batch =>
    rw [answer_insertBatch]
    unfold Catalogue.insertBatch
    split
    · exact (List.append_nil _).symm
    · split
      · exact (List.append_nil _).symm
      · rfl
  | insertOne product =>
    rw [answer_insertOne]
    unfold Catalogue.insertOne
    split
    · exact (List.append_nil _).symm
    · split
      · exact (List.append_nil _).symm
      · rfl
  | _ => exact (List.append_nil _).symm

theorem ids_answer (w : World) (c : Call) : w.products.ids ⊆ (w.answer c).2.products.ids := by
  unfold Catalogue.ids
  rw [products_answer, List.map_append]
  exact List.subset_append_left _ _

theorem inserted_answer {c : Call} {product : Product}
    (hproduct : product ∈ c.inserted (w.answer c).1) :
    product.internalId ∈ (w.answer c).2.products.ids := by
  unfold Catalogue.ids
  rw [products_answer, List.map_append]
  exact List.mem_append_right _ (List.mem_map_of_mem hproduct)

theorem errors_answer (w : World) (c : Call) (id : JobId) :
    (w.answer c).2.errors.count id =
      w.errors.count id + ((c.saved (w.answer c).1).map (·.jobId)).count id := by
  cases c with
  | saveErrors candidates =>
    rw [answer_saveErrors]
    cases available : w.errors.available with
    | true =>
      rw [ErrorLog.count_save w.errors available]
      unfold ErrorLog.save
      rw [if_pos available]
      rfl
    | false =>
      unfold ErrorLog.save
      rw [available]
      rfl
  | _ => rfl

theorem saved_of_available {candidates : List ErrorCandidate} {answer : Outcome Unit}
    (available : w.errors.available = true)
    (replies : (w.answer (.saveErrors candidates)).1 = answer) :
    Call.saved (.saveErrors candidates) answer = candidates := by
  rw [answer_saveErrors] at replies
  unfold ErrorLog.save at replies
  rw [if_pos available] at replies
  rw [← replies]
  rfl

/-- With the catalogue available, it grows by what a call has inserted, and all of that is new. -/
theorem Available.products_answer (h : w.Available) (c : Call) :
    (w.answer c).2.products.products = w.products.products ++ c.inserted (w.answer c).1 ∧
      ((c.inserted (w.answer c).1).map (·.internalId)).Nodup ∧
      ∀ product ∈ c.inserted (w.answer c).1, product.internalId ∉ w.products.ids := by
  refine ⟨w.products_answer c, ?_⟩
  cases c with
  | insertBatch batch =>
    rw [answer_insertBatch]
    rcases w.products.insertBatch_cases h.products batch with ⟨hnodup, hfresh, heq⟩ | ⟨f, heq⟩
    · rw [heq]
      exact ⟨hnodup, hfresh⟩
    · rw [heq]
      exact ⟨List.nodup_nil, fun _ hproduct => by cases hproduct⟩
  | insertOne product =>
    rw [answer_insertOne]
    rcases w.products.insertOne_cases h.products product with ⟨hfresh, heq⟩ | ⟨-, f, heq⟩
    · rw [heq]
      refine ⟨List.nodup_singleton _, ?_⟩
      intro inserted hinserted
      rw [List.mem_singleton.mp hinserted]
      exact hfresh
    · rw [heq]
      exact ⟨List.nodup_nil, fun _ hproduct => by cases hproduct⟩
  | _ => exact ⟨List.nodup_nil, fun _ hproduct => by cases hproduct⟩

/-- What the catalogue holds besides a stock stays new and without repetition. -/
theorem Available.additions_answer (h : w.Available) (c : Call) {stock added : List Product}
    (products : w.products.products = stock ++ added) (nodup : (added.map (·.internalId)).Nodup)
    (fresh : ∀ product ∈ added, product.internalId ∉ stock.map (·.internalId)) :
    (w.answer c).2.products.products = stock ++ (added ++ c.inserted (w.answer c).1) ∧
      ((added ++ c.inserted (w.answer c).1).map (·.internalId)).Nodup ∧
      ∀ product ∈ added ++ c.inserted (w.answer c).1,
        product.internalId ∉ stock.map (·.internalId) := by
  obtain ⟨hproducts, hnodup, hfresh⟩ := h.products_answer c
  have hids : w.products.ids = stock.map (·.internalId) ++ added.map (·.internalId) := by
    unfold Catalogue.ids
    rw [products, List.map_append]
  refine ⟨?_, ?_, ?_⟩
  · rw [hproducts, products, List.append_assoc]
  · rw [List.map_append, List.nodup_append]
    refine ⟨nodup, hnodup, ?_⟩
    rintro internalId hadded other hother rfl
    obtain ⟨product, hproduct, rfl⟩ := List.mem_map.mp hother
    refine hfresh product hproduct ?_
    rw [hids]
    exact List.mem_append_right _ hadded
  · intro product hproduct
    rcases List.mem_append.mp hproduct with hproduct | hproduct
    · exact fresh product hproduct
    · intro hstock
      refine hfresh product hproduct ?_
      rw [hids]
      exact List.mem_append_left _ hstock

theorem Available.refused (h : w.Available) {product : Product} {f : Failure}
    (replies : (w.answer (.insertOne product)).1 = .error f) :
    product.internalId ∈ w.products.ids := by
  rw [answer_insertOne] at replies
  rcases w.products.insertOne_cases h.products product with ⟨-, heq⟩ | ⟨hthere, -⟩
  · rw [heq] at replies
    cases replies
  · exact hthere

theorem count_of_named {candidates : List ErrorCandidate} {id : JobId}
    (named : ∀ e ∈ candidates, e.jobId = id) :
    (candidates.map (·.jobId)).count id = candidates.length := by
  have hall : ∀ other ∈ candidates.map (·.jobId), id = other := by
    intro other hother
    obtain ⟨e, he, rfl⟩ := List.mem_map.mp hother
    exact (named e he).symm
  rw [List.count_eq_length.mpr hall, List.length_map]

theorem errors_answer_of_named {c : Call} {id : JobId}
    (named : ∀ e ∈ c.saved (w.answer c).1, e.jobId = id) :
    (w.answer c).2.errors.count id = w.errors.count id + (c.saved (w.answer c).1).length := by
  rw [errors_answer, count_of_named named]

end World

def Duty.amount (f : Stage → Int) : Duty → Int
  | .busy _ stage => f stage
  | _ => 0

structure Resting (f : Stage → Int) : Prop where
  loading : f .loading = 0
  settled : ∀ result, f (.settled result) = 0
  goes : ∀ {chunk : Chunk} {stage next : Stage}, Stage.Goes chunk stage next → f next = f stage

theorem resting_stored : Resting Stage.stored where
  loading := rfl
  settled := fun _ => rfl
  goes := Stage.stored_of_goes

theorem resting_logged : Resting Stage.logged where
  loading := rfl
  settled := fun _ => rfl
  goes := Stage.logged_of_goes

namespace System

def tally (s : System) (f : Stage → Int) : Int := (s.workers.map (·.duty.amount f)).sum

def awaiting (s : System) : Nat := (s.producers.map (·.state.point.uncounted)).sum

variable {a : Action} {s s' : System} {i j : Nat} {p q : Producer} {w : Worker} {f : Stage → Int}

theorem sum_set {α M : Type} [AddCommMonoid M] {l : List α} {k : Nat} {x : α} (g : α → M) (y : α)
    (at_ : l[k]? = some x) : ((l.set k y).map g).sum + g x = (l.map g).sum + g y := by
  rw [((perm_set y at_).map g).sum_eq, ((perm_eraseIdx at_).map g).sum_eq]
  rw [List.map_cons, List.map_cons, List.sum_cons, List.sum_cons]
  ac_rfl

theorem tally_setWorker (w' : Worker) (at_ : s.workers[j]? = some w) :
    (s.setWorker j w').tally f + w.duty.amount f = s.tally f + w'.duty.amount f :=
  sum_set (fun w => w.duty.amount f) w' at_

theorem tally_of_workers (h : s'.workers = s.workers) : s'.tally f = s.tally f := by
  unfold tally
  rw [h]

theorem awaiting_setProducer (at_ : s.producers[i]? = some p) :
    (s.setProducer i q).awaiting + p.state.point.uncounted =
      s.awaiting + q.state.point.uncounted :=
  sum_set (fun p => p.state.point.uncounted) q at_

theorem awaiting_letIn (ticket : Option Nat) : (s.letIn ticket).awaiting = s.awaiting := by
  unfold letIn
  split
  · rfl
  · split
    · rename_i p hp
      have h := awaiting_setProducer (q := { p with waiting := false }) hp
      simp only at h
      omega
    · rfl

/-- What a step does to the stores, and to what is held back from the counters. -/
inductive Effect (s s' : System) : Prop
  | nothing (products : s'.world.products = s.world.products)
      (errors : s'.world.errors = s.world.errors) (jobs : s'.world.jobs = s.world.jobs)
      (counted : s'.counted = s.counted)
      (tally : ∀ {f : Stage → Int}, Resting f → s'.tally f = s.tally f)
      (awaiting : s'.awaiting = s.awaiting)
  | asked {i : Nat} {p p' : Producer} {c : Call} {answer : c.Answer}
      (at_ : s.producers[i]? = some p) (next_ : s'.producers[i]? = some p')
      (asks : Producing.Asks p.settings p.state c answer p'.state)
      (replies : (s.world.answer c).1 = answer) (world : s'.world = (s.world.answer c).2)
      (counted : s'.counted = s.counted) (workers : s'.workers = s.workers)
      (awaiting : s'.awaiting + p.state.point.uncounted = s.awaiting + p'.state.point.uncounted)
  | handled {j : Nat} {w w' : Worker} {d : Delivery} {stage next : Stage} {c : Call}
      {answer : c.Answer} (at_ : s.workers[j]? = some w) (busy : w.duty = .busy d stage)
      (next_ : s'.workers[j]? = some w') (busy' : w'.duty = .busy d next)
      (asks : Stage.Asks d.chunk stage c answer next)
      (replies : (s.world.answer c).1 = answer) (world : s'.world = (s.world.answer c).2)
      (counted : s'.counted = s.counted ++ if c.counts answer then [d.chunk] else [])
      (tally : ∀ f : Stage → Int, s'.tally f + f stage = s.tally f + f next)
      (awaiting : s'.awaiting = s.awaiting)

/-- A worker takes a delivery, leaves, goes on by itself or settles. -/
theorem tally_of_rest {t : System} {w' : Worker} (workers : t.workers = s.workers)
    (at_ : s.workers[j]? = some w) (same : w'.duty.amount f = w.duty.amount f) :
    (t.setWorker j w').tally f = s.tally f := by
  have hat : t.workers[j]? = some w := by
    rw [workers]
    exact at_
  have hset := tally_setWorker (f := f) w' hat
  rw [tally_of_workers workers] at hset
  omega

theorem awaiting_of_rest {t : System} (awaiting : t.awaiting = s.awaiting)
    (at_ : t.producers[i]? = some p)
    (same : q.state.point.uncounted = p.state.point.uncounted) :
    (t.setProducer i q).awaiting = s.awaiting := by
  have hset := awaiting_setProducer (q := q) at_
  omega

theorem counted_concat (e : Event) :
    (s.record e).counted = s.counted ++ e.counted?.toList := filterMap_concat _ _ _

theorem Step.effect (step : Step s a s') (calm : a.isCalm = true) : Effect s s' := by
  cases step with
  | read at_ => exact .nothing rfl rfl rfl rfl (fun _ => rfl) (awaiting_of_rest rfl at_ rfl)
  | go at_ _ goes =>
    exact .nothing rfl rfl rfl rfl (fun _ => rfl) (awaiting_of_rest rfl at_ goes.uncounted_eq)
  | @refused i p chunk state at_ _ _ asks =>
    have hat : (s.record (.asked i (.publish chunk) (.fail .busClosed))).producers[i]? = some p :=
      at_
    exact .nothing rfl rfl rfl ((counted_concat _).trans (List.append_nil _)) (fun _ => rfl)
      (awaiting_of_rest rfl hat asks.uncounted_of_publish)
  | @published i p q chunk state admission bus at_ _ _ _ asks moved =>
    have hat : ((s.setBus bus).record (.taken i chunk)).producers[i]? = some p := at_
    have hstate : q.state = state := congrArg Producer.state moved
    refine .nothing rfl rfl rfl ?_ (fun _ => rfl) (awaiting_of_rest rfl hat ?_)
    · exact (counted_concat (s := s.setBus bus) (.taken i chunk)).trans (List.append_nil _)
    · rw [hstate]
      exact asks.uncounted_of_publish
  | @asked i p c answer world state at_ _ _ replies asks =>
    have hat : ({ s with world }.record (.asked i c answer)).producers[i]? = some p := at_
    refine .asked at_ ((getElem?_setProducer hat i).trans (if_pos rfl)) asks ?_ ?_ ?_ rfl ?_
    · rw [replies]
    · rw [replies]
      rfl
    · exact (counted_concat (s := { s with world }) (.asked i c answer)).trans (List.append_nil _)
    · exact awaiting_setProducer hat
  | @received j w d admitted bus at_ idle _ =>
    refine .nothing ?_ ?_ ?_ ?_ ?_ (awaiting_letIn (s := s.setBus bus) admitted)
    · simp only [setWorker, world_letIn]
      rfl
    · simp only [setWorker, world_letIn]
      rfl
    · simp only [setWorker, world_letIn]
      rfl
    · show List.filterMap _ ((s.setBus bus).letIn admitted).history = _
      rw [history_letIn]
      rfl
    · intro f resting
      refine tally_of_rest (workers_letIn _ _) at_ ?_
      rw [idle]
      exact resting.loading
  | left at_ idle _ =>
    refine .nothing rfl rfl rfl rfl (fun _ => tally_of_rest rfl at_ ?_) rfl
    rw [idle]
    rfl
  | thought at_ busy goes =>
    refine .nothing rfl rfl rfl rfl (fun resting => tally_of_rest rfl at_ ?_) rfl
    rw [busy]
    exact resting.goes goes
  | @handled j w d stage next c answer world at_ busy replies asks =>
    have hat : ({ s with world }.record (.handled j d c answer)).workers[j]? = some w := at_
    refine .handled at_ busy ((getElem?_setWorker hat).trans (if_pos rfl)) rfl asks ?_ ?_ ?_ ?_ rfl
    · rw [replies]
    · rw [replies]
      rfl
    · refine (counted_concat (s := { s with world }) (.handled j d c answer)).trans ?_
      show s.counted ++ _ = _
      cases hcounts : c.counts answer <;> simp [Event.counted?, hcounts]
    · intro f
      have hset := tally_setWorker (f := f) { w with duty := .busy d next } hat
      rw [busy] at hset
      exact hset
  | @settled j w d result at_ busy =>
    refine .nothing rfl rfl rfl ?_ (fun resting => tally_of_rest rfl at_ ?_) rfl
    · exact (counted_concat (s := s.setBus (s.world.bus.settleWith d result))
        (.settled j d result)).trans (List.append_nil _)
    · rw [busy]
      exact (resting.settled result).symm
  | waited now => exact .nothing rfl rfl rfl rfl (fun _ => rfl) rfl
  | started _ | hired | cancelled _ | supplied _ _ | closed => cases calm

end System

end CatalogIntake.Concurrency
