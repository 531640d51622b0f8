import CatalogIntake.Proofs.Concurrency.Effect

/-!
What an undisturbed import has stored. The catalogue holds what it held before and, once each, new
products of published records; all that can be stored of a counted chunk is there. The counters of
the job lag behind the catalogue and the error log by what is in the hands of workers and of the
producer.
-/

namespace CatalogIntake.Concurrency

variable {a : Action} {s s' : System} {stock added : List Product} {id : JobId}

namespace System

structure Alone (s : System) (id : JobId) : Prop where
  producers : ∀ {i : Nat} {p : Producer}, s.producers[i]? = some p → p.jobId = id
  hands : ∀ {j : Nat} {w : Worker} {d : Delivery} {stage : Stage}, s.workers[j]? = some w →
    w.duty = .busy d stage → d.chunk.jobId = id

theorem Alone.of_taken (h : s.Alone id) (undisturbed : s.Undisturbed) {chunk : Chunk}
    (hchunk : chunk ∈ s.taken) : chunk.jobId = id := by
  obtain ⟨i, p, hp, hid⟩ := undisturbed.owned hchunk
  exact hid.trans (h.producers hp)

theorem taken_of_offered (balanced : s.Balanced) {chunk : Chunk} (hchunk : chunk ∈ s.offered) :
    chunk ∈ s.taken := by
  have hcount := balanced.chunks chunk
  have hpos := List.count_pos_iff.mpr hchunk
  exact List.count_pos_iff.mp (by omega)

theorem taken_of_busy (balanced : s.Balanced) {j : Nat} {w : Worker} {d : Delivery} {stage : Stage}
    (at_ : s.workers[j]? = some w) (busy : w.duty = .busy d stage)
    (uncounted_ : stage.isCounted = false) : d.chunk ∈ s.taken := by
  have hopen := mem_openFor_of_busy at_ busy uncounted_
  have hpublished := (balanced.published_perm _).mem_iff.mpr (List.mem_append_right _ hopen)
  exact List.mem_of_mem_filter hpublished

theorem Alone.step (h : s.Alone id) (sound : s.Sound) (undisturbed : s.Undisturbed)
    (calm : a.isCalm = true) (step : Step s a s') : s'.Alone id where
  producers := by
    intro i p' hp'
    obtain ⟨p, hp, -, -, hid, -⟩ := step.turn_of_calm calm sound.registered hp'
    exact hid.trans (h.producers hp)
  hands := by
    intro j w d stage at_ busy
    cases step.comes at_ busy with
    | stays hw hbusy => exact h.hands hw hbusy
    | received leaves =>
      obtain ⟨first, deliveries, hd, -⟩ := Bus.receive_delivery leaves
      refine h.of_taken undisturbed (taken_of_offered sound.balanced ?_)
      have hchunk : d.chunk = first.chunk := by
        rw [hd]
      unfold offered
      rw [deliveries, hchunk]
      exact List.mem_cons_self
    | goes hw hbusy _ => exact h.hands hw hbusy
    | asks hw hbusy _ _ _ => exact h.hands hw hbusy

theorem job_after {c : Call} {answer : c.Answer} {job' : Job}
    (world : s'.world = (s.world.answer c).2) (replies : (s.world.answer c).1 = answer)
    (create : c.isCreate = false) (own : c.jobId? = some id ∨ c.jobId? = none)
    (known : s'.world.jobs.get? id = some job') :
    ∃ job, s.world.jobs.get? id = some job ∧
      job'.processedRows = job.processedRows + c.processed answer ∧
      job'.failedRows = job.failedRows + c.failed answer := by
  have hget : s'.world.jobs.get? id =
      (s.world.jobs.get? id).map (Job.after s.world.now c answer) :=
    get?_of_own_answer (Prod.ext replies world.symm) create own
  rw [hget] at known
  obtain ⟨job, hjob, rfl⟩ := Option.map_eq_some_iff.mp known
  exact ⟨job, hjob, Import.counters_after job s.world.now c answer⟩

structure Stocked (stock : List Product) (id : JobId) (added : List Product) (s : System) :
    Prop where
  products : s.world.products.products = stock ++ added
  nodup : (added.map (·.internalId)).Nodup
  fresh : ∀ product ∈ added, product.internalId ∉ stock.map (·.internalId)
  sources : ∀ product ∈ added, ∃ chunk ∈ s.taken, ∃ record ∈ chunk.records,
    Product.ofRecord record = .ok product
  tried : ∀ chunk ∈ s.counted, Stage.Tried chunk s.world.products.ids
  duties : ∀ {j : Nat} {w : Worker} {d : Delivery} {stage : Stage}, s.workers[j]? = some w →
    w.duty = .busy d stage → stage.Stocks d.chunk s.world.products.ids
  stored : ∀ {job : Job}, s.world.jobs.get? id = some job →
    job.processedRows + s.tally Stage.stored = added.length

structure Logged (id : JobId) (s : System) : Prop where
  named : ∀ {j : Nat} {w : Worker} {d : Delivery} {stage : Stage}, s.workers[j]? = some w →
    w.duty = .busy d stage → ∀ e ∈ stage.errors, e.jobId = d.chunk.jobId
  count : ∀ {job : Job}, s.world.jobs.get? id = some job →
    (s.world.errors.count id : Int) = job.failedRows + s.tally Stage.logged + s.awaiting

theorem taken_mono (step : Step s a s') (sound : s.Sound) : s.taken ⊆ s'.taken := by
  rcases taken_of_step step sound.registered with hsame | ⟨_, _, _, _, _, hnew⟩
  · rw [hsame]
    exact List.Subset.refl _
  · rw [hnew]
    exact List.subset_append_left _ _

theorem ids_mono (step : Step s a s') (calm : a.isCalm = true) :
    s.world.products.ids ⊆ s'.world.products.ids := by
  have grown {c : Call} (world : s'.world = (s.world.answer c).2) :
      s.world.products.ids ⊆ s'.world.products.ids := by
    rw [world]
    exact s.world.ids_answer c
  cases step.effect calm with
  | nothing products _ _ _ _ _ =>
    rw [products]
    exact List.Subset.refl _
  | asked _ _ _ _ world _ _ _ => exact grown world
  | handled _ _ _ _ _ _ world _ _ _ => exact grown world

theorem Stocked.duties_step (h : s.Stocked stock id added) (undisturbed : s.Undisturbed)
    (calm : a.isCalm = true) (step : Step s a s') {j : Nat} {v : Worker} {d : Delivery}
    {stage : Stage} (at_ : s'.workers[j]? = some v) (busy : v.duty = .busy d stage) :
    stage.Stocks d.chunk s'.world.products.ids := by
  have grows := ids_mono step calm
  cases step.comes at_ busy with
  | stays hw hbusy => exact (h.duties hw hbusy).mono grows
  | received _ => trivial
  | goes hw hbusy goes =>
    exact ((h.duties hw hbusy).goes goes (undisturbed.duties hw hbusy).2).mono grows
  | @asks w before _ c answer hw hbusy asks replies world =>
    refine (h.duties hw hbusy).asks asks grows ?_ ?_
    · intro product hproduct
      rw [world]
      rw [← replies] at hproduct
      exact World.inserted_answer hproduct
    · intro product f hc hanswer
      subst hc
      exact undisturbed.available.refused (replies.trans (eq_of_heq hanswer))

theorem Stocked.quiet (h : s.Stocked stock id added) (sound : s.Sound)
    (undisturbed : s.Undisturbed) (calm : a.isCalm = true) (step : Step s a s')
    (products : s'.world.products.products = s.world.products.products)
    (counted_ : s'.counted = s.counted) (tally_ : s'.tally Stage.stored = s.tally Stage.stored)
    (jobs : ∀ {job' : Job}, s'.world.jobs.get? id = some job' →
      ∃ job, s.world.jobs.get? id = some job ∧ job'.processedRows = job.processedRows) :
    s'.Stocked stock id added where
  products := products.trans h.products
  nodup := h.nodup
  fresh := h.fresh
  sources := by
    intro product hproduct
    obtain ⟨chunk, hchunk, hrecord⟩ := h.sources product hproduct
    exact ⟨chunk, taken_mono step sound hchunk, hrecord⟩
  tried := by
    intro chunk hchunk
    rw [counted_] at hchunk
    exact (h.tried chunk hchunk).mono (ids_mono step calm)
  duties := fun at_ busy => h.duties_step undisturbed calm step at_ busy
  stored := by
    intro job' hjob'
    obtain ⟨job, hjob, hprocessed⟩ := jobs hjob'
    rw [hprocessed, tally_]
    exact h.stored hjob

theorem Stocked.handled (h : s.Stocked stock id added) (sound : s.Sound)
    (undisturbed : s.Undisturbed) (undisturbed' : s'.Undisturbed) (alone : s.Alone id)
    (calm : a.isCalm = true) (step : Step s a s') {j : Nat} {w w' : Worker} {d : Delivery}
    {stage next : Stage} {c : Call} {answer : c.Answer} (at_ : s.workers[j]? = some w)
    (busy : w.duty = .busy d stage) (next_ : s'.workers[j]? = some w')
    (busy' : w'.duty = .busy d next) (asks : Stage.Asks d.chunk stage c answer next)
    (replies : (s.world.answer c).1 = answer) (world : s'.world = (s.world.answer c).2)
    (counted_ : s'.counted = s.counted ++ if c.counts answer then [d.chunk] else [])
    (tally_ : s'.tally Stage.stored + stage.stored = s.tally Stage.stored + next.stored) :
    s'.Stocked stock id (added ++ c.inserted answer) := by
  have grows := ids_mono step calm
  have taken_ := taken_mono step sound
  obtain ⟨hproducts, hnodup, hfresh⟩ :=
    undisturbed.available.additions_answer c h.products h.nodup h.fresh
  rw [replies] at hproducts hnodup hfresh
  constructor
  case products =>
    rw [world, hproducts]
  case nodup => exact hnodup
  case fresh => exact hfresh
  case sources =>
    intro product hproduct
    rcases List.mem_append.mp hproduct with hproduct | hproduct
    · obtain ⟨chunk, hchunk, hrecord⟩ := h.sources product hproduct
      exact ⟨chunk, taken_ hchunk, hrecord⟩
    · obtain ⟨huncounted, hrecord⟩ := (h.duties at_ busy).inserted asks hproduct
      exact ⟨d.chunk, taken_ (taken_of_busy sound.balanced at_ busy huncounted), hrecord⟩
  case tried =>
    intro chunk hchunk
    rw [counted_] at hchunk
    rcases List.mem_append.mp hchunk with hchunk | hchunk
    · exact (h.tried chunk hchunk).mono grows
    · split at hchunk
      · rename_i hcounts
        rw [List.mem_singleton.mp hchunk]
        exact ((h.duties at_ busy).tried asks hcounts).mono grows
      · cases hchunk
  case duties => exact fun at_ busy => h.duties_step undisturbed calm step at_ busy
  case stored =>
    intro job' hjob'
    obtain ⟨hown, hcreate, -⟩ := asks.jobId
    rw [alone.hands at_ busy] at hown
    obtain ⟨job, hjob, hprocessed, -⟩ := job_after world replies hcreate hown hjob'
    have hstored := h.stored hjob
    have hstage := Stage.stored_of_asks asks (undisturbed'.duties next_ busy').1
    rw [hprocessed, List.length_append]
    omega

theorem Stocked.step (h : s.Stocked stock id added) (sound : s.Sound)
    (undisturbed : s.Undisturbed) (undisturbed' : s'.Undisturbed) (alone : s.Alone id)
    (calm : a.isCalm = true) (step : Step s a s') : ∃ added', s'.Stocked stock id added' := by
  cases step.effect calm with
  | nothing products _ jobs counted tally _ =>
    refine ⟨added, h.quiet sound undisturbed calm step (congrArg _ products) counted
      (tally resting_stored) ?_⟩
    intro job hjob
    rw [jobs] at hjob
    exact ⟨job, hjob, rfl⟩
  | @asked i p p' c answer at_ _ asks replies world counted workers _ =>
    obtain ⟨hnone, hzero⟩ := asks.stores
    refine ⟨added, h.quiet sound undisturbed calm step ?_ counted (tally_of_workers workers) ?_⟩
    · rw [world, World.products_answer, replies, hnone, List.append_nil]
    · intro job' hjob'
      obtain ⟨hown, hcreate⟩ := asks.callJobId
      rw [show p.state.run.jobId = id from alone.producers at_] at hown
      obtain ⟨job, hjob, hprocessed, -⟩ := job_after world replies hcreate hown hjob'
      rw [hzero, Int.add_zero] at hprocessed
      exact ⟨job, hjob, hprocessed⟩
  | handled at_ busy next_ busy' asks replies world counted tally _ =>
    exact ⟨_, h.handled sound undisturbed undisturbed' alone calm step at_ busy next_ busy' asks
      replies world counted (tally _)⟩

theorem Logged.step (h : s.Logged id) (sound : s.Sound) (undisturbed : s.Undisturbed)
    (undisturbed' : s'.Undisturbed) (alone : s.Alone id) (calm : a.isCalm = true)
    (step : Step s a s') : s'.Logged id where
  named := Labelled.step h.named step
  count := by
    intro job' hjob'
    cases step.effect calm with
    | nothing _ errors jobs _ tally awaiting =>
      rw [jobs] at hjob'
      rw [errors, tally resting_logged, awaiting]
      exact h.count hjob'
    | @asked i p p' c answer at_ next_ asks replies world _ workers awaiting =>
      obtain ⟨hown, hcreate⟩ := asks.callJobId
      rw [show p.state.run.jobId = id from alone.producers at_] at hown
      obtain ⟨job, hjob, -, hfailed⟩ := job_after world replies hcreate hown hjob'
      have hcount := h.count hjob
      have hnamed : ∀ e ∈ c.saved (s.world.answer c).1, e.jobId = id := by
        intro e he
        rw [replies] at he
        obtain ⟨_, himport⟩ := sound.imports at_
        exact (himport.reads.named e (asks.saved he)).trans (alone.producers at_)
      have hpoint := asks.uncounted_eq (undisturbed'.smooth next_).1 (by
        intro candidates hc
        subst hc
        exact World.saved_of_available undisturbed.available.errors replies)
      have herrors := World.errors_answer_of_named hnamed
      rw [replies] at herrors
      rw [world, herrors, tally_of_workers workers, hfailed]
      push_cast
      omega
    | @handled j w w' d stage next c answer at_ busy next_ busy' asks replies world _ tally
        awaiting =>
      obtain ⟨hown, hcreate, -⟩ := asks.jobId
      rw [alone.hands at_ busy] at hown
      obtain ⟨job, hjob, -, hfailed⟩ := job_after world replies hcreate hown hjob'
      have hcount := h.count hjob
      have htally := tally Stage.logged
      have hnamed : ∀ e ∈ c.saved (s.world.answer c).1, e.jobId = id := by
        intro e he
        rw [replies] at he
        exact (h.named at_ busy e (Stage.saved_of_asks asks he)).trans (alone.hands at_ busy)
      have hstage := Stage.logged_of_asks asks (undisturbed'.duties next_ busy').1 (by
        intro candidates hc
        subst hc
        exact World.saved_of_available undisturbed.available.errors replies)
      have herrors := World.errors_answer_of_named hnamed
      rw [replies] at herrors
      rw [world, herrors, awaiting, hfailed]
      push_cast
      omega

end System

end CatalogIntake.Concurrency
