import CatalogIntake.Proofs.Crowd.Consuming
import Mathlib.Algebra.BigOperators.Ring.Finset
import Mathlib.Data.Finset.Card

/-!
Consuming is confluent. Which consumer stores an internal id, and for which job, depends on the
order of calls; how many rows each job has accounted for and how many rows are stored in all does
not.
-/

namespace CatalogIntake

open Concurrency

namespace Chunk

def products (chunks : List Chunk) : List Product :=
  (chunks.flatMap (·.records)).filterMap fun record => (Product.ofRecord record).toOption

def newIds (chunks : List Chunk) (stock : List Product) : Finset String :=
  ((products chunks).map (·.internalId)).toFinset \ (stock.map (·.internalId)).toFinset

def Apart (id : JobId) (chunks : List Chunk) : Prop :=
  ∀ mine ∈ products (ofJob id chunks), ∀ other ∈ chunks, other.jobId ≠ id →
    ∀ product ∈ products [other], product.internalId ≠ mine.internalId

variable {chunks : List Chunk} {id : JobId}

theorem mem_products {product : Product} : product ∈ products chunks ↔
    ∃ chunk ∈ chunks, ∃ record ∈ chunk.records, Product.ofRecord record = .ok product := by
  simp only [products, List.mem_filterMap, List.mem_flatMap, Product.toOption_ofRecord]
  constructor
  · rintro ⟨record, ⟨chunk, hchunk, hrecord⟩, hproduct⟩
    exact ⟨chunk, hchunk, record, hrecord, hproduct⟩
  · rintro ⟨chunk, hchunk, record, hrecord, hproduct⟩
    exact ⟨record, ⟨chunk, hchunk, hrecord⟩, hproduct⟩

theorem mem_ofJob {chunk : Chunk} :
    chunk ∈ ofJob id chunks ↔ chunk ∈ chunks ∧ chunk.jobId = id := by
  unfold ofJob
  rw [List.mem_filter, decide_eq_true_iff]

theorem ofJob_ofJob : ofJob id (ofJob id chunks) = ofJob id chunks := by
  unfold ofJob
  rw [List.filter_filter]
  simp

theorem apart_ofJob : Apart id (ofJob id chunks) :=
  fun _ _ _ hother hne => absurd (mem_ofJob.mp hother).2 hne

end Chunk

/-- What consumers of these chunks have done to the stores when all have come to an end. -/
structure Consumed (w : World) (chunks : List Chunk) (x : World) (outcomes : List ChunkOutcome) :
    Prop where
  jobIds : outcomes.map (·.jobId) = chunks.map (·.jobId)
  rows : ∀ id, x.processed id + x.failed id =
    w.processed id + w.failed id + Chunk.rowCount (Chunk.ofJob id chunks)
  stored : ∀ ids : Finset JobId, (∀ chunk ∈ chunks, chunk.jobId ∈ ids) →
    ∑ id ∈ ids, x.processed id =
      ∑ id ∈ ids, w.processed id + (Chunk.newIds chunks w.products.products).card
  apart : ∀ id, Chunk.Apart id chunks →
    x.processed id = w.processed id +
      (Chunk.newIds (Chunk.ofJob id chunks) w.products.products).card
  /-- One call reports that the job is completed if it is, and none if it is not. -/
  completed : ∀ chunk ∈ chunks, ∃ job, x.jobs.get? chunk.jobId = some job ∧
    (outcomes.countP fun o => o.jobId = chunk.jobId && o.completed) =
      if job.status = .completed then 1 else 0

namespace Handling

def outcome (t : Handling) : ChunkOutcome :=
  match t.stage with
  | .settled (.ok outcome) => outcome
  | _ => .ofDropped t.chunk

theorem Stands.settled {ids : List String} {t : Handling} (h : t.Stands ids)
    {result : Outcome ChunkOutcome} (settled : t.stage = .settled result) :
    t.stage = .settled (.ok t.outcome) ∧ t.outcome.jobId = t.chunk.jobId ∧
      t.outcome.dropped = false := by
  have hwell := h.goesWell
  rw [settled] at hwell
  obtain ⟨o, rfl, hid, hdropped⟩ := hwell
  have houtcome : t.outcome = o := by
    unfold outcome
    rw [settled]
  rw [houtcome]
  exact ⟨settled, hid, hdropped⟩

end Handling

namespace Sharing

variable {w x : World} {chunks : List Chunk} {added : List (JobId × Product)} {ts : List Handling}
  {id : JobId}

def Settled (ts : List Handling) : Prop := ∀ t ∈ ts, t.stage = .settled (.ok t.outcome) ∧
  t.outcome.jobId = t.chunk.jobId ∧ t.outcome.dropped = false

theorem processed_of_settled (h : Sharing w chunks added x ts) (settled : Settled ts) (id : JobId) :
    x.processed id = w.processed id + (added.map (·.1)).count id := by
  have hzero : Handling.tally ts id Handling.stored = 0 := by
    refine Handling.tally_eq_zero fun t ht => ?_
    unfold Handling.stored
    rw [(settled t ht).1]
    rfl
  rw [← h.stored id, hzero, Int.add_zero]

theorem isCounted_of_settled (settled : Settled ts) {t : Handling} (ht : t ∈ ts) :
    t.stage.isCounted = true := by
  obtain ⟨hstage, -, hdropped⟩ := settled t ht
  rw [hstage]
  show (!t.outcome.dropped) = true
  rw [hdropped]
  rfl

theorem rows_of_settled (h : Sharing w chunks added x ts) (settled : Settled ts) (id : JobId) :
    x.processed id + x.failed id =
      w.processed id + w.failed id + Chunk.rowCount (Chunk.ofJob id chunks) := by
  rw [h.rows id, ← h.members, Handling.rowCount_ofJob]
  congr 1
  refine Handling.tally_congr fun t ht => ?_
  unfold Handling.countedRows
  rw [isCounted_of_settled settled ht]
  rfl

theorem completions_of_settled (settled : Settled ts) (id : JobId) :
    Handling.tally ts id Handling.completions =
      ((ts.map Handling.outcome).countP fun o => o.jobId = id && o.completed) := by
  induction ts with
  | nil => rfl
  | cons t ts ih =>
    obtain ⟨hstage, hid, -⟩ := settled t List.mem_cons_self
    have hrest := ih fun u hu => settled u (List.mem_cons_of_mem t hu)
    unfold Handling.tally Handling.amountFor Handling.completions at hrest ⊢
    rw [List.map_cons, List.sum_cons, hrest, List.map_cons, List.countP_cons, hid, hstage]
    by_cases hjob : t.chunk.jobId = id <;> cases hcompleted : t.outcome.completed <;>
      simp [hjob, hcompleted, Stage.hasCompleted, Int.add_comm]

/-- An id that rows can be stored with was there or has been added. -/
theorem mem_added (h : Sharing w chunks added x ts) (settled : Settled ts) {product : Product}
    (hproduct : product ∈ Chunk.products chunks)
    (hnew : product.internalId ∉ w.products.products.map (·.internalId)) :
    ∃ e ∈ added, e.2.internalId = product.internalId := by
  obtain ⟨chunk, hchunk, record, hrecord, hmapped⟩ := Chunk.mem_products.mp hproduct
  rw [← h.members] at hchunk
  obtain ⟨t, ht, rfl⟩ := List.mem_map.mp hchunk
  have hcounted := isCounted_of_settled settled ht
  have hids := (h.stands t ht).tried hcounted record hrecord product hmapped
  unfold Catalogue.ids at hids
  rw [h.products, List.map_append] at hids
  rcases List.mem_append.mp hids with hids | hids
  · exact absurd hids hnew
  · rw [List.map_map] at hids
    exact List.mem_map.mp hids

/-- Of what has been added, these are the products of these chunks. -/
theorem card_newIds_of (h : Sharing w chunks added x ts) {part : List Chunk}
    {mine : List (JobId × Product)} (sub : mine.Sublist added)
    (from_ : ∀ e ∈ mine, e.2 ∈ Chunk.products part)
    (all : ∀ product ∈ Chunk.products part,
      product.internalId ∉ w.products.products.map (·.internalId) →
        ∃ e ∈ mine, e.2.internalId = product.internalId) :
    (Chunk.newIds part w.products.products).card = mine.length := by
  have hnodup : ((mine.map (·.2)).map (·.internalId)).Nodup :=
    h.nodup.sublist ((sub.map _).map _)
  have hids : Chunk.newIds part w.products.products =
      ((mine.map (·.2)).map (·.internalId)).toFinset := by
    ext internalId
    unfold Chunk.newIds
    rw [Finset.mem_sdiff, List.mem_toFinset, List.mem_toFinset, List.mem_toFinset]
    constructor
    · rintro ⟨hpart, hnew⟩
      obtain ⟨product, hproduct, rfl⟩ := List.mem_map.mp hpart
      obtain ⟨e, he, hid⟩ := all product hproduct hnew
      rw [← hid]
      exact List.mem_map_of_mem (List.mem_map_of_mem he)
    · intro hmine
      obtain ⟨product, hproduct, rfl⟩ := List.mem_map.mp hmine
      refine ⟨?_, h.fresh product ((sub.map _).subset hproduct)⟩
      obtain ⟨e, he, rfl⟩ := List.mem_map.mp hproduct
      exact List.mem_map_of_mem (from_ e he)
  rw [hids, List.toFinset_card_of_nodup hnodup, List.length_map, List.length_map]

theorem card_newIds (h : Sharing w chunks added x ts) (settled : Settled ts) :
    (Chunk.newIds chunks w.products.products).card = added.length := by
  refine h.card_newIds_of (List.Sublist.refl added) (fun e he => ?_)
    fun product => h.mem_added settled
  obtain ⟨chunk, hchunk, -, hrecord⟩ := h.sources e he
  exact Chunk.mem_products.mpr ⟨chunk, hchunk, hrecord⟩

theorem card_newIds_ofJob (h : Sharing w chunks added x ts) (settled : Settled ts)
    (apart : Chunk.Apart id chunks) :
    (Chunk.newIds (Chunk.ofJob id chunks) w.products.products).card =
      (added.map (·.1)).count id := by
  have hcount : (added.map (·.1)).count id = (added.filter (·.1 = id)).length := by
    rw [List.count, List.countP_map, List.countP_eq_length_filter]
    rfl
  rw [hcount]
  refine h.card_newIds_of List.filter_sublist (fun e he => ?_) fun product hproduct hnew => ?_
  · obtain ⟨he, hid⟩ := List.mem_filter.mp he
    obtain ⟨chunk, hchunk, hjob, hrecord⟩ := h.sources e he
    exact Chunk.mem_products.mpr
      ⟨chunk, Chunk.mem_ofJob.mpr ⟨hchunk, hjob.trans (of_decide_eq_true hid)⟩, hrecord⟩
  · obtain ⟨chunk, hchunk, hrecord⟩ := Chunk.mem_products.mp hproduct
    obtain ⟨e, he, hsame⟩ := h.mem_added settled
      (Chunk.mem_products.mpr ⟨chunk, (Chunk.mem_ofJob.mp hchunk).1, hrecord⟩) hnew
    refine ⟨e, List.mem_filter.mpr ⟨he, decide_eq_true ?_⟩, hsame⟩
    -- no other job has a product with this id
    obtain ⟨source, hsource, hjob, hmapped⟩ := h.sources e he
    by_contra hne
    refine apart product hproduct source hsource (hjob ▸ hne) e.2 ?_ hsame
    exact Chunk.mem_products.mpr ⟨source, List.mem_singleton_self source, hmapped⟩

theorem consumed (h : Sharing w chunks added x ts) (settled : Settled ts)
    (known : ∀ chunk ∈ chunks, ∃ job, w.jobs.get? chunk.jobId = some job ∧ job.Awaits chunks) :
    Consumed w chunks x (ts.map Handling.outcome) where
  jobIds := by
    rw [← h.members, List.map_map, List.map_map]
    exact List.map_congr_left fun t ht => (settled t ht).2.1
  rows := h.rows_of_settled settled
  stored := by
    intro ids covers
    have hmem : ∀ id ∈ (added.map (·.1) : Multiset JobId), id ∈ ids := by
      intro id hid
      obtain ⟨e, he, rfl⟩ := List.mem_map.mp (Multiset.mem_coe.mp hid)
      obtain ⟨chunk, hchunk, hjob, -⟩ := h.sources e he
      exact hjob ▸ covers chunk hchunk
    have hcount := Multiset.sum_count_eq_card hmem
    simp only [Multiset.coe_count, Multiset.coe_card, List.length_map] at hcount
    rw [Finset.sum_congr rfl fun id _ => h.processed_of_settled settled id,
      Finset.sum_add_distrib, h.card_newIds settled, ← hcount, Nat.cast_sum]
  apart := by
    intro id apart
    rw [h.processed_of_settled settled id, h.card_newIds_ofJob settled apart]
  completed := by
    intro chunk hchunk
    obtain ⟨job, hjob, awaits⟩ := known chunk hchunk
    obtain ⟨job', hjob', -, hstatus⟩ := h.jobs hjob
    refine ⟨job', hjob', Int.ofNat_inj.mp ?_⟩
    rw [JobTable.id_of_get? hjob, completions_of_settled settled] at hstatus
    rcases hstatus with ⟨hstatus, hzero⟩ | ⟨hstatus, hone, -⟩
    · rw [if_neg (by rw [hstatus, awaits.processing]; decide)]
      exact hzero
    · rw [if_pos hstatus]
      exact hone

end Sharing

structure Starting (w : World) (chunks : List Chunk) : Prop where
  available : w.Available
  filled : ∀ chunk ∈ chunks, chunk.records ≠ []
  awaited : ∀ chunk ∈ chunks, ∃ job, w.jobs.get? chunk.jobId = some job ∧ job.Awaits chunks

theorem Starting.ofJob {w : World} {chunks : List Chunk} (h : Starting w chunks) (id : JobId) :
    Starting w (Chunk.ofJob id chunks) where
  available := h.available
  filled := fun chunk hchunk => h.filled chunk (Chunk.mem_ofJob.mp hchunk).1
  awaited := by
    intro chunk hchunk
    obtain ⟨hmem, rfl⟩ := Chunk.mem_ofJob.mp hchunk
    obtain ⟨job, hjob, awaits⟩ := h.awaited chunk hmem
    refine ⟨job, hjob, { awaits with total := ?_ }⟩
    have htotal := awaits.total
    rw [JobTable.id_of_get? hjob] at htotal ⊢
    rw [Chunk.ofJob_ofJob]
    exact htotal

theorem Starting.consumed {w : World} {chunks : List Chunk} (h : Starting w chunks) {x : World}
    {results : List (Outcome ChunkOutcome)}
    (ends : Crowd.Ends World.host ⟨w, chunks.map consume⟩ x results) :
    ∃ outcomes, results = outcomes.map .ok ∧ Consumed w chunks x outcomes := by
  obtain ⟨schedule, run⟩ := ends
  have keeps := Sharing.keeps h.filled h.awaited
  have hplans : chunks.map consume =
      (chunks.map (⟨·, .loading⟩)).map Handling.machine.plan := by
    rw [List.map_map]
    rfl
  rw [hplans] at run
  obtain ⟨ts, ⟨added, sharing⟩, hmoves⟩ :=
    keeps.run_to_end ⟨[], .start h.available chunks⟩ run rfl
  have returned {t : Handling} (ht : t ∈ ts) : t.move = .halt (.ok t.outcome) ∧
      t.stage = .settled (.ok t.outcome) ∧ t.outcome.jobId = t.chunk.jobId ∧
      t.outcome.dropped = false := by
    have hmem : t.move ∈ results.map .halt := by
      rw [← hmoves]
      exact List.mem_map_of_mem ht
    obtain ⟨result, -, hmove⟩ := List.mem_map.mp hmem
    have hstage := Handling.settled_of_move hmove.symm
    obtain ⟨hsettled, hrest⟩ := (sharing.stands t ht).settled hstage
    obtain rfl : result = .ok t.outcome := Stage.settled.inj (hstage.symm.trans hsettled)
    exact ⟨hmove.symm, hsettled, hrest⟩
  have consumed := sharing.consumed (fun t ht => (returned ht).2) h.awaited
  refine ⟨ts.map Handling.outcome, ?_, consumed⟩
  have injective : Function.Injective (@Move.halt Handling (Outcome ChunkOutcome)) :=
    fun _ _ h => Move.halt.inj h
  refine injective.list_map ?_
  rw [List.map_map, List.map_map]
  exact hmoves.symm.trans (List.map_congr_left fun t ht => (returned ht).1)

/-- Whatever the order of the calls, and whatever is in the catalogue already. A job that shares no
internal id with the others is left as it would be on its own. -/
theorem consuming_confluent {w x : World} {chunks : List Chunk}
    {results : List (Outcome ChunkOutcome)} (starting : Starting w chunks)
    (ends : Crowd.Ends World.host ⟨w, chunks.map consume⟩ x results) :
    (∃ outcomes, results = outcomes.map .ok ∧ Consumed w chunks x outcomes) ∧
      ∀ id, Chunk.Apart id chunks →
        (∃ y own, Crowd.Ends World.host ⟨w, (Chunk.ofJob id chunks).map consume⟩ y own) ∧
        ∀ y own, Crowd.Ends World.host ⟨w, (Chunk.ofJob id chunks).map consume⟩ y own →
          x.processed id = y.processed id := by
  obtain ⟨outcomes, hresults, consumed⟩ := starting.consumed ends
  refine ⟨⟨outcomes, hresults, consumed⟩, fun id apart => ⟨?_, fun y own alone => ?_⟩⟩
  · exact Crowd.exists_ends World.host () _ w
  · obtain ⟨_, -, own⟩ := (starting.ofJob id).consumed alone
    have halone := own.apart id Chunk.apart_ofJob
    rw [Chunk.ofJob_ofJob] at halone
    rw [consumed.apart id apart, halone]

section Table

def tableWorld : World :=
  let jobs := (JobTable.empty.create { Job.started ⟨7⟩ ⟨0, 0⟩ with totalRows := some 2 }).2
  .opening ⟨0, 0⟩ (jobs.create (Job.started ⟨8⟩ ⟨0, 0⟩)).2 .empty .empty 1

def plate : ProductRecord := { System.mug with internalId := "P1", name := "Plate" }

def tableChunks : List Chunk := [⟨⟨7⟩, 1, [System.mug, plate]⟩, ⟨⟨8⟩, 1, [System.mug]⟩]

def tableOrder : List (Crowd.Turn Unit Instant) :=
  [0, 1, 1, 0, 0, 1, 0, 1, 0, 0, 0, 0].map (.call · ())

theorem starting_table : Starting tableWorld tableChunks where
  available := ⟨rfl, rfl, rfl⟩
  filled := by decide
  awaited := by
    intro chunk hchunk
    rcases List.mem_pair.mp hchunk with rfl | rfl
    · exact ⟨_, rfl, rfl, rfl, rfl, .inr rfl⟩
    · exact ⟨_, rfl, rfl, rfl, rfl, .inl rfl⟩

theorem table_consuming_confluent : ∃ x results, Starting tableWorld tableChunks ∧
    Crowd.Ends World.host ⟨tableWorld, tableChunks.map consume⟩ x results ∧
    (∃ outcomes, results = outcomes.map .ok ∧ Consumed tableWorld tableChunks x outcomes) ∧
      ∀ id, Chunk.Apart id tableChunks →
        (∃ y own, Crowd.Ends World.host
          ⟨tableWorld, (Chunk.ofJob id tableChunks).map consume⟩ y own) ∧
        ∀ y own, Crowd.Ends World.host
            ⟨tableWorld, (Chunk.ofJob id tableChunks).map consume⟩ y own →
          x.processed id = y.processed id := by
  have hends : (Crowd.run World.host ⟨tableWorld, tableChunks.map consume⟩ tableOrder).any
      Crowd.isOver = true := by
    decide +kernel
  obtain ⟨⟨x, plans⟩, hrun, hover⟩ := (Option.any_eq_true _ _).mp hends
  obtain ⟨results, hplans⟩ := Crowd.exists_results hover
  obtain rfl : plans = results.map .done := hplans
  have ends : Crowd.Ends World.host ⟨tableWorld, tableChunks.map consume⟩ x results :=
    ⟨tableOrder, hrun⟩
  exact ⟨x, results, starting_table, ends, consuming_confluent starting_table ends⟩

end Table

end CatalogIntake
