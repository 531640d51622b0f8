import CatalogIntake.Proofs.Concurrency.Stocktaking
import Mathlib.Data.Finset.Card

/-!
The outcome of an import that nothing disturbs. Whatever the sizes and whatever the order of steps,
each internal id that can be stored and is not in the catalogue yet is stored once, all other rows
that count are failed and logged, and the total is the number of rows.
-/

namespace CatalogIntake

namespace RowEvent

def products (events : List RowEvent) : List Product :=
  (records events).filterMap fun record => (Product.ofRecord record).toOption

/-- The internal ids that a source adds to a stock. -/
def newIds (events : List RowEvent) (stock : List Product) : Finset String :=
  ((products events).map (·.internalId)).toFinset \ (stock.map (·.internalId)).toFinset

theorem mem_products {events : List RowEvent} {product : Product} :
    product ∈ products events ↔
      ∃ record ∈ records events, Product.ofRecord record = .ok product := by
  simp only [products, List.mem_filterMap, Product.toOption_ofRecord]

theorem ofRows_ok (layout : Layout) (rowNumber : Int) (rows : List (List String)) :
    (ofRows layout rowNumber (rows.map .ok)).length = rows.length ∧
      ∀ e ∈ ofRows layout rowNumber (rows.map .ok), e.isFault = false := by
  induction rows generalizing rowNumber with
  | nil => exact ⟨rfl, fun e he => by cases he⟩
  | cons row rest ih =>
    obtain ⟨hlength, hclean⟩ := ih (rowNumber + 1)
    refine ⟨congrArg (· + 1) hlength, ?_⟩
    intro e he
    rcases List.mem_cons.mp he with rfl | he
    · cases layout.read rowNumber row <;> rfl
    · exact hclean e he

end RowEvent

namespace Concurrency.System

variable {a : Action} {s s' : System} {stock added : List Product} {id : JobId}

structure Staffed (s : System) : Prop where
  any : s.workers ≠ []
  gone : ∀ {j : Nat} {w : Worker}, s.workers[j]? = some w → w.duty = .gone →
    s.world.bus.isDrained = true

theorem drained_stays (step : Step s a s') (balanced : s.Balanced)
    (drained : s.world.bus.isDrained = true) : s'.world.bus.isDrained = true := by
  obtain ⟨hclosed, hzero⟩ := Bus.isDrained_iff.mp drained
  obtain ⟨hoffered, hheld⟩ := held_of_drained balanced drained
  have answered {c : Call} {answer : c.Answer} {world : World}
      (replies : s.world.answer c = (answer, world)) : world.bus.isDrained = true := by
    have hbus := congrArg (fun r => r.2.bus) replies
    rw [World.answer_bus] at hbus
    rw [← hbus]
    exact drained
  cases step with
  | published _ _ enters taken_ _ _ =>
    rcases Bus.publish_cases enters with ⟨hrefused, -⟩ | ⟨-, hopen, -⟩
    · exact absurd hrefused taken_
    · rw [hclosed] at hopen
      cases hopen
  | asked _ _ _ replies _ => exact answered replies
  | handled _ _ replies _ => exact answered replies
  | received _ _ leaves =>
    obtain ⟨first, deliveries, -⟩ := Bus.receive_delivery leaves
    unfold offered at hoffered
    rw [deliveries] at hoffered
    cases hoffered
  | settled at_ busy => exact absurd busy (not_busy_of_held hheld at_)
  | supplied supply _ => cases supply <;> exact drained
  | closed => exact Bus.isDrained_iff.mpr ⟨rfl, hzero⟩
  | _ => exact drained

theorem Staffed.step (h : s.Staffed) (balanced : s.Balanced) (step : Step s a s') :
    s'.Staffed := by
  have stays (drained : s.world.bus.isDrained = true) : s'.world.bus.isDrained = true :=
    drained_stays step balanced drained
  have same (workers : s'.workers = s.workers) : s'.Staffed := by
    constructor
    · rw [workers]
      exact h.any
    · intro j w hw hgone
      rw [workers] at hw
      exact stays (h.gone hw hgone)
  have set {t : System} {k : Nat} {w w' : Worker} (hs' : s' = t.setWorker k w')
      (workers : t.workers = s.workers) (hk : s.workers[k]? = some w)
      (leaves : w'.duty = .gone → s.world.bus.isDrained = true) : s'.Staffed := by
    have hat : t.workers[k]? = some w := by
      rw [workers]
      exact hk
    constructor
    · rw [hs']
      unfold setWorker
      rw [workers]
      intro hnil
      have hlength := congrArg List.length hnil
      rw [List.length_set] at hlength
      exact h.any (List.length_eq_zero_iff.mp hlength)
    · intro j v hv hgone
      rw [hs', getElem?_setWorker hat] at hv
      split at hv
      · rw [← Option.some.inj hv] at hgone
        exact stays (leaves hgone)
      · rw [workers] at hv
        exact stays (h.gone hv hgone)
  cases step with
  | received at_ _ _ => exact set rfl (workers_letIn _ _) at_ (by exact fun hgone => nomatch hgone)
  | left at_ _ ends => exact set rfl rfl at_ fun _ => (Bus.isDrained_of_receive ends).1
  | thought at_ _ _ => exact set rfl rfl at_ (by exact fun hgone => nomatch hgone)
  | handled at_ _ _ _ => exact set rfl rfl at_ (by exact fun hgone => nomatch hgone)
  | settled at_ _ => exact set rfl rfl at_ (by exact fun hgone => nomatch hgone)
  | hired =>
    constructor
    · exact List.append_ne_nil_of_right_ne_nil _ (by simp)
    · intro j v hv hgone
      have hat : (s.workers ++ [({} : Worker)])[j]? = some v := hv
      rw [List.getElem?_append] at hat
      split at hat
      · exact h.gone hat hgone
      · have hmem := List.mem_of_getElem? hat
        rw [List.mem_singleton.mp hmem] at hgone
        cases hgone
  | _ => exact same rfl

theorem staffed_opening (world : World) {workers : Nat} (any : workers ≠ 0) :
    (opening world workers).Staffed where
  any := by
    intro hnil
    have hlength := congrArg List.length hnil
    exact any ((List.length_replicate ..).symm.trans hlength)
  gone := by
    intro j w hw hgone
    rw [duty_opening hw] at hgone
    cases hgone

section Beginning

variable (now : Instant) (capacity workers : Nat) (settings : ImportSettings) (id : JobId)
  (source : List RowEvent) (stock : List Product) {i j : Nat} {p : Producer} {w : Worker}

def beginning : System :=
  let s := opening (.opening now .empty .empty ⟨stock, true⟩ capacity) workers
  { s with
    world := { s.world with jobs := (s.world.jobs.create (Job.started id now)).2 }
    producers := [.start settings id source] }

theorem job_beginning :
    (beginning now capacity workers settings id source stock).world.jobs.get? id =
      some (Job.started id now) :=
  get?_started_self (s := opening (.opening now .empty .empty ⟨stock, true⟩ capacity) workers) rfl

variable {now capacity workers settings id source stock}

theorem producer_beginning
    (at_ : (beginning now capacity workers settings id source stock).producers[i]? = some p) :
    p = .start settings id source :=
  List.mem_singleton.mp (List.mem_of_getElem? at_)

theorem not_busy_beginning {d : Delivery} {stage : Stage}
    (at_ : (beginning now capacity workers settings id source stock).workers[j]? = some w) :
    w.duty ≠ .busy d stage := by
  rw [(List.mem_replicate.mp (List.mem_of_getElem? at_)).2]
  exact fun h => nomatch h

theorem tally_beginning (f : Stage → Int) :
    (beginning now capacity workers settings id source stock).tally f = 0 := by
  simp [tally, beginning, opening, Duty.amount]

theorem undisturbed_beginning (rows : source ≠ []) (clean : ∀ e ∈ source, e.isFault = false) :
    (beginning now capacity workers settings id source stock).Undisturbed where
  available := ⟨rfl, rfl, rfl⟩
  dropped := rfl
  owned := fun hchunk => by cases hchunk
  closed := fun hclosed => by cases hclosed
  sources := by
    intro i p at_
    rw [producer_beginning at_]
    exact ⟨rows, clean⟩
  smooth := by
    intro i p at_
    rw [producer_beginning at_]
    exact ⟨rfl, rfl⟩
  status := by
    intro i p job at_ hjob
    rw [producer_beginning at_] at hjob
    have hstarted := job_beginning now capacity workers settings id source stock
    rw [← Option.some.inj (hstarted.symm.trans hjob)]
    exact .inl rfl
  duties := fun at_ busy => absurd busy (not_busy_beginning at_)

theorem alone_beginning : (beginning now capacity workers settings id source stock).Alone id where
  producers := by
    intro i p at_
    rw [producer_beginning at_]
    rfl
  hands := fun at_ busy => absurd busy (not_busy_beginning at_)

theorem stocked_beginning :
    (beginning now capacity workers settings id source stock).Stocked stock id [] where
  products := (List.append_nil stock).symm
  nodup := List.nodup_nil
  fresh := fun _ hproduct => by cases hproduct
  sources := fun _ hproduct => by cases hproduct
  tried := fun _ hchunk => by cases hchunk
  duties := fun at_ busy => absurd busy (not_busy_beginning at_)
  stored := by
    intro job hjob
    have hstarted := job_beginning now capacity workers settings id source stock
    rw [← Option.some.inj (hstarted.symm.trans hjob)]
    exact (Int.zero_add _).trans (tally_beginning Stage.stored)

theorem logged_beginning : (beginning now capacity workers settings id source stock).Logged id where
  named := fun at_ busy => absurd busy (not_busy_beginning at_)
  count := by
    intro job hjob
    have hstarted := job_beginning now capacity workers settings id source stock
    rw [← Option.some.inj (hstarted.symm.trans hjob)]
    exact ((Int.add_zero _).trans ((Int.zero_add _).trans (tally_beginning Stage.logged))).symm

end Beginning

structure Importing (settings : ImportSettings) (source : List RowEvent) (stock : List Product)
    (id : JobId) (s : System) : Prop where
  sound : s.Sound
  undisturbed : s.Undisturbed
  alone : s.Alone id
  staffed : s.Staffed
  followed : s.Followed
  stocked : ∃ added, s.Stocked stock id added
  logged : s.Logged id
  producer : ∃ p, s.producers[0]? = some p ∧ p.settings = settings ∧ p.source = source

namespace Importing

variable {settings : ImportSettings} {source : List RowEvent}

theorem step (h : s.Importing settings source stock id) (calm : a.isCalm = true)
    (step : Step s a s') : s'.Importing settings source stock id := by
  have undisturbed := h.undisturbed.step h.sound calm step
  obtain ⟨added, stocked⟩ := h.stocked
  obtain ⟨p, hp, hsettings, hsource⟩ := h.producer
  obtain ⟨p', hp', hsettings', hsource', -⟩ := step.continues h.sound.registered hp
  exact
    { sound := h.sound.step step
      undisturbed
      alone := h.alone.step h.sound h.undisturbed calm step
      staffed := h.staffed.step h.sound.balanced step
      followed := Followed.step h.followed h.sound step
      stocked := stocked.step h.sound h.undisturbed undisturbed h.alone calm step
      logged := h.logged.step h.sound h.undisturbed undisturbed h.alone calm step
      producer := ⟨p', hp', hsettings'.trans hsettings, hsource'.trans hsource⟩ }

theorem start {now : Instant} {capacity workers : Nat} (any : workers ≠ 0) (rows : source ≠ [])
    (clean : ∀ e ∈ source, e.isFault = false)
    (step : Step (opening (.opening now .empty .empty ⟨stock, true⟩ capacity) workers)
      (.start settings id source) s) : s.Importing settings source stock id := by
  have sound := (sound_opening now .empty .empty ⟨stock, true⟩ capacity workers).step step
  have staffed := (staffed_opening (.opening now .empty .empty ⟨stock, true⟩ capacity) any).step
    (balanced_opening _ workers rfl rfl) step
  have followed : s.Followed := Followed.step (followed_opening _ workers)
    (sound_opening now .empty .empty ⟨stock, true⟩ capacity workers) step
  cases step with
  | started fresh =>
    exact
      { sound
        undisturbed := undisturbed_beginning rows clean
        alone := alone_beginning
        staffed
        followed
        stocked := ⟨[], stocked_beginning⟩
        logged := logged_beginning
        producer := ⟨_, rfl, rfl, rfl⟩ }

theorem close (h : s.Importing settings source stock id)
    (ended : ∀ p ∈ s.producers, p.outcome?.isSome = true) :
    (s.setBus s.world.bus.close).Importing settings source stock id := by
  obtain ⟨added, stocked⟩ := h.stocked
  exact
    { sound := h.sound.step .closed
      undisturbed :=
        { h.undisturbed with
          available := ⟨h.undisturbed.available.products, h.undisturbed.available.errors,
            h.undisturbed.available.progress⟩
          closed := by
            intro _ i p hp
            obtain ⟨outcome, houtcome⟩ :=
              Option.isSome_iff_exists.mp (ended p (List.mem_of_getElem? hp))
            refine ⟨outcome, ?_⟩
            unfold Producer.outcome? at houtcome
            split at houtcome
            · rename_i hpoint
              rw [hpoint, Option.some.inj houtcome]
            · cases houtcome }
      alone := ⟨h.alone.producers, h.alone.hands⟩
      staffed := h.staffed.step h.sound.balanced .closed
      followed := Followed.step h.followed h.sound .closed
      stocked := ⟨added, { stocked with }⟩
      logged := { h.logged with }
      producer := h.producer }

/-- With all workers gone, the bus has drained and the producer has finished. -/
theorem finished (h : s.Importing settings source stock id)
    (joined : ∀ w ∈ s.workers, w.duty = .gone) : s.world.bus.isDrained = true ∧
      ∀ {i : Nat} {p : Producer}, s.producers[i]? = some p → p.state.point = .ended .finished := by
  obtain ⟨w, hw⟩ := List.exists_mem_of_ne_nil _ h.staffed.any
  obtain ⟨j, hj⟩ := List.mem_iff_getElem?.mp hw
  have hdrained := h.staffed.gone hj (joined w hw)
  refine ⟨hdrained, ?_⟩
  intro i p hp
  obtain ⟨outcome, hended⟩ := h.undisturbed.closed (Bus.isDrained_iff.mp hdrained).1 hp
  obtain ⟨hfailing, hstopped⟩ := h.undisturbed.smooth hp
  rw [hended] at hfailing hstopped
  cases outcome with
  | finished => exact hended
  | cancelled => cases hstopped
  | failed reason => cases hfailing

/-- The internal ids of the products that were added are those that were new. -/
theorem newIds_eq (h : s.Importing settings source stock id) (stocked : s.Stocked stock id added)
    {p : Producer} {job : Job} (himport : Import p (s.book p.jobId) job) (hid : p.jobId = id)
    (hsource : p.source = source) (final : p.state.point.isFinal = true)
    (closed : s.openFor id = []) :
    RowEvent.newIds source stock = (added.map (·.internalId)).toFinset := by
  have hperm := h.sound.balanced.published_perm id
  rw [closed, List.append_nil] at hperm
  have hrecords := (himport.reads.final final).1
  rw [hsource] at hrecords
  have hpublished : (s.book p.jobId).published = s.published id := by
    rw [hid]
    rfl
  have hids : s.world.products.ids = stock.map (·.internalId) ++ added.map (·.internalId) := by
    unfold Catalogue.ids
    rw [stocked.products, List.map_append]
  ext internalId
  unfold RowEvent.newIds
  rw [Finset.mem_sdiff, List.mem_toFinset, List.mem_toFinset, List.mem_toFinset]
  constructor
  · rintro ⟨hnew, hstock⟩
    obtain ⟨product, hproduct, rfl⟩ := List.mem_map.mp hnew
    obtain ⟨record, hrecord, hmapped⟩ := RowEvent.mem_products.mp hproduct
    rw [← hrecords] at hrecord
    obtain ⟨chunk, hchunk, hmem⟩ := List.mem_flatMap.mp hrecord
    rw [hpublished] at hchunk
    have hcounted : chunk ∈ s.counted := List.mem_of_mem_filter (hperm.mem_iff.mp hchunk)
    have hthere := stocked.tried chunk hcounted record hmem product hmapped
    rw [hids] at hthere
    exact (List.mem_append.mp hthere).resolve_left hstock
  · intro hadded
    obtain ⟨product, hproduct, rfl⟩ := List.mem_map.mp hadded
    refine ⟨List.mem_map.mpr ⟨product, ?_, rfl⟩, stocked.fresh product hproduct⟩
    obtain ⟨chunk, hchunk, record, hrecord, hmapped⟩ := stocked.sources product hproduct
    refine RowEvent.mem_products.mpr ⟨record, ?_, hmapped⟩
    have hown := h.alone.of_taken h.undisturbed hchunk
    rw [← hrecords, hpublished]
    exact List.mem_flatMap.mpr ⟨chunk, List.mem_filter.mpr ⟨hchunk, by simpa using hown⟩, hrecord⟩

end Importing

/-- What an import comes to: nothing of it depends on the sizes or on the order of steps. -/
structure Totals (settings : ImportSettings) (source : List RowEvent) (stock : List Product)
    (s : System) (job : Job) : Prop where
  total : job.totalRows = some source.length
  processed : job.processedRows = (RowEvent.newIds source stock).card
  stored : s.world.products.ids.toFinset =
    (stock.map (·.internalId)).toFinset ∪ RowEvent.newIds source stock
  failed : settings.parseFailures = .count →
    job.failedRows = source.length - job.processedRows
  failedLogOnly : settings.parseFailures = .logOnly →
    job.failedRows = source.length - RowEvent.rejections source - job.processedRows
  logged : s.world.errors.count job.id = job.failedRows
  status : job.status = .completed ↔
    settings.parseFailures = .count ∨ RowEvent.rejections source = 0

theorem tally_of_gone {f : Stage → Int} (joined : ∀ w ∈ s.workers, w.duty = .gone) :
    s.tally f = 0 := by
  unfold tally
  rw [List.map_congr_left (g := fun _ => (0 : Int)) fun w hw => by rw [joined w hw]; rfl]
  simp

theorem awaiting_of_finished (ended : ∀ p ∈ s.producers, p.state.point = .ended .finished) :
    s.awaiting = 0 := by
  unfold awaiting
  rw [List.map_congr_left (g := fun _ => (0 : Nat)) fun p hp => by rw [ended p hp]; rfl]
  simp

namespace Importing

variable {settings : ImportSettings} {source : List RowEvent}

theorem run (h : s.Importing settings source stock id) {schedule : List Action}
    (calm : ∀ a ∈ schedule, a.isCalm = true) (run : s.run schedule = some s') :
    s'.Importing settings source stock id :=
  run_invariant_of (Q := fun a => a.isCalm = true) (fun calm step h => h.step calm step) calm run h

/-- The job is completed unless there are rows that do not count. -/
theorem completed_iff (h : s.Importing settings source stock id)
    (joined : ∀ w ∈ s.workers, w.duty = .gone) {p : Producer} {job : Job}
    (at_ : s.producers[0]? = some p) (known : s.world.jobs.get? p.jobId = some job) :
    job.status = .completed ↔
      settings.parseFailures = .count ∨ RowEvent.rejections source = 0 := by
  obtain ⟨hdrained, hended⟩ := h.finished joined
  obtain ⟨q, hq, hsettings, hsource⟩ := h.producer
  obtain rfl : p = q := Option.some.inj (at_.symm.trans hq)
  have hkept : job.status ≠ .cancelled := by
    rcases h.undisturbed.status at_ known with hstatus | hstatus
    · rw [hstatus]
      decide
    · rw [hstatus]
      decide
  have hfinished : p.outcome? = some .finished := by
    unfold Producer.outcome?
    rw [hended at_]
  have hdelivered : ∀ chunk ∈ s.dropped, chunk.jobId ≠ p.jobId := by
    rw [h.undisturbed.dropped]
    exact fun _ hchunk => by cases hchunk
  obtain ⟨hcount, hlog⟩ :=
    Followed.completed h.followed h.sound at_ hfinished known hkept hdrained hdelivered
  rw [hsettings] at hcount hlog
  rw [hsource] at hlog
  cases hpolicy : settings.parseFailures with
  | count => exact ⟨fun _ => .inl rfl, fun _ => (hcount hpolicy).1⟩
  | logOnly =>
    rw [hlog hpolicy, ← rejections_eq_zero_iff]
    constructor
    · exact .inr
    · rintro (hcount | hnone)
      · cases hcount
      · exact hnone

theorem totals (h : s.Importing settings source stock id)
    (joined : ∀ w ∈ s.workers, w.duty = .gone) :
    ∃ job, s.world.jobs.get? id = some job ∧ Totals settings source stock s job := by
  obtain ⟨hdrained, hended⟩ := h.finished joined
  obtain ⟨p, at_, hsettings, hsource⟩ := h.producer
  have hid : p.jobId = id := h.alone.producers at_
  obtain ⟨job, himport⟩ := h.sound.imports at_
  have known : s.world.jobs.get? p.jobId = some job := himport.here
  have hfinal : p.state.point.isFinal = true := by
    rw [hended at_]
    rfl
  have hdelivered : ∀ chunk ∈ s.dropped, chunk.jobId ≠ p.jobId := by
    rw [h.undisturbed.dropped]
    exact fun _ hchunk => by cases hchunk
  have hopen := openFor_of_drained h.sound hdrained hdelivered
  obtain ⟨haccounted, hrows⟩ := rowsAccounted_of_finished h.sound himport hfinal hopen
  have hlength := RowEvent.length_eq (h.undisturbed.sources at_).2
  obtain ⟨added, hstocked⟩ := h.stocked
  rw [hid] at hopen
  have hnew := h.newIds_eq hstocked himport hid hsource hfinal hopen
  have hjob : s.world.jobs.get? id = some job := hid ▸ known
  have hprocessed := hstocked.stored hjob
  rw [tally_of_gone joined, Int.add_zero] at hprocessed
  have hcard : job.processedRows = (RowEvent.newIds source stock).card := by
    rw [hnew, List.toFinset_card_of_nodup hstocked.nodup, List.length_map, hprocessed]
  rw [hsettings, hsource] at haccounted
  rw [hsource] at hrows hlength
  refine ⟨job, hjob, ?_⟩
  constructor
  case total =>
    rw [himport.agrees.total, hended at_]
    show some p.state.run.rowsRead = _
    rw [show p.state.run.rowsRead = p.rowsRead from rfl, hrows, ← hlength]
    rfl
  case processed => exact hcard
  case stored =>
    unfold Catalogue.ids
    rw [hstocked.products, List.map_append, List.toFinset_append, hnew]
  case failed =>
    intro hcount
    unfold Job.rowsAccounted ImportSettings.counted at haccounted
    rw [hcount] at haccounted
    simp only at haccounted
    omega
  case failedLogOnly =>
    intro hlog
    unfold Job.rowsAccounted ImportSettings.counted at haccounted
    rw [hlog] at haccounted
    simp only at haccounted
    omega
  case logged =>
    have hlogged := h.logged.count hjob
    have hawaiting : s.awaiting = 0 := by
      refine awaiting_of_finished fun p' hp' => ?_
      obtain ⟨i, hi⟩ := List.mem_iff_getElem?.mp hp'
      exact hended hi
    rw [tally_of_gone joined, hawaiting] at hlogged
    rw [JobTable.id_of_get? hjob, hlogged]
    simp
  case status => exact h.completed_iff joined at_ known

end Importing

/-- A file of at least one row is imported to its end, and then the bus is closed and the workers
leave; the steps of readers, producer and workers come in any order. -/
theorem import_outcome {now : Instant} {path : String} {octets : List UInt8}
    {headers : List String} {layout : Layout} {rows : List (List String)}
    {settings : ImportSettings} {before after : List Action} {t : System}
    (header : (Csv.read octets).header = .ok headers)
    (columns : Layout.ofHeaders headers = .ok layout)
    (decoded : (Csv.read octets).rows = rows.map .ok) (any : rows ≠ [])
    (calm : ∀ a ∈ before ++ after, a.isCalm = true)
    (imports : (opening (.opening now .empty .empty ⟨stock, true⟩ settings.busCapacity)
      (max settings.workerCount 1)).run
        (.start settings id (RowEvent.ofPath path (.ok (.file octets))) :: before) = some s)
    (ended : ∀ p ∈ s.producers, p.outcome?.isSome = true)
    (closes : s.run (.close :: after) = some t) (joined : ∀ w ∈ t.workers, w.duty = .gone) :
    (RowEvent.ofPath path (.ok (.file octets))).length = rows.length ∧
      ∃ job, t.world.jobs.get? id = some job ∧
        Totals settings (RowEvent.ofPath path (.ok (.file octets))) stock t job := by
  have hsource : RowEvent.ofPath path (.ok (.file octets)) =
      RowEvent.ofRows layout 1 (rows.map .ok) := by
    unfold RowEvent.ofPath RowEvent.ofSource
    simp only [header, columns, decoded]
  rw [hsource] at imports ⊢
  obtain ⟨hlength, hclean⟩ := RowEvent.ofRows_ok layout 1 rows
  have hrows : RowEvent.ofRows layout 1 (rows.map .ok) ≠ [] := by
    intro hnil
    rw [hnil] at hlength
    exact any (List.length_eq_zero_iff.mp hlength.symm)
  refine ⟨hlength, ?_⟩
  simp only [run] at imports closes
  split at imports
  · rename_i s₁ hstart
    have h₁ := Importing.start (by omega) hrows hclean (step_of_act hstart)
    have hs := h₁.run (fun a ha => calm a (List.mem_append_left _ ha)) imports
    have ht := (hs.close ended).run (fun a ha => calm a (List.mem_append_right _ ha)) closes
    exact ht.totals joined
  · cases imports

section Shelf

def kettle : Product where
  internalId := "K1"
  name := "Kettle"
  description := ""
  brand := ""
  category := ""
  price := ⟨20, 0⟩
  currency := "EUR"
  stock := 1
  ean := ""
  color := ""
  size := ""
  availability := ""

def shelfHeaders : List String := Column.all.map Column.header

def shelfRows : List (List String) :=
  [["M1", "Mug", "", "", "", "5", "EUR", "3", "", "", "", ""],
    ["K1", "Kettle", "", "", "", "20", "EUR", "1", "", "", "", ""],
    ["T1"]]

def shelf : List UInt8 :=
  (String.intercalate "\n" ((shelfHeaders :: shelfRows).map rawRow)).toUTF8.toList

def shelfSettings : ImportSettings := { chunkSize := 2, workerCount := 2 }

def shelfBefore : List Action :=
  List.replicate 3 (.read 0) ++ List.replicate 12 (.produce 0) ++ List.replicate 12 (.work 0)

def shelfAfter : List Action := [.work 0, .work 1]

def hasJoined (s : System) : Bool :=
  s.workers.all fun w =>
    match w.duty with
    | .gone => true
    | _ => false

theorem gone_of_hasJoined (h : s.hasJoined = true) : ∀ w ∈ s.workers, w.duty = .gone := by
  intro w hw
  have hgone := List.all_eq_true.mp h w hw
  split at hgone
  · assumption
  · cases hgone

/-- The kettle is in the catalogue already: one of three rows is stored. -/
theorem shelf_import_outcome : ∃ s t job,
    (opening (.opening ⟨0, 0⟩ .empty .empty ⟨[kettle], true⟩ shelfSettings.busCapacity)
      (max shelfSettings.workerCount 1)).run
        (.start shelfSettings ⟨7⟩ (RowEvent.ofPath "shelf.csv" (.ok (.file shelf))) ::
          shelfBefore) = some s ∧
      s.run (.close :: shelfAfter) = some t ∧ t.world.jobs.get? ⟨7⟩ = some job ∧
      Totals shelfSettings (RowEvent.ofPath "shelf.csv" (.ok (.file shelf))) [kettle] t job := by
  have hends : ((opening (.opening ⟨0, 0⟩ .empty .empty ⟨[kettle], true⟩
      shelfSettings.busCapacity) (max shelfSettings.workerCount 1)).run
        (.start shelfSettings ⟨7⟩ (RowEvent.ofPath "shelf.csv" (.ok (.file shelf))) ::
          shelfBefore)).any (fun s => s.producers.all (·.outcome?.isSome) &&
            (s.run (.close :: shelfAfter)).any hasJoined) = true := by
    decide +kernel
  obtain ⟨s, hs, hends⟩ := (Option.any_eq_true _ _).mp hends
  obtain ⟨hended, hends⟩ := (Bool.and_eq_true _ _).mp hends
  obtain ⟨t, ht, hjoined⟩ := (Option.any_eq_true _ _).mp hends
  have hheader : (Csv.read shelf).header = .ok shelfHeaders := by decide +kernel
  have hdecoded : (Csv.read shelf).rows = shelfRows.map .ok := by decide +kernel
  have hcolumns : Layout.missing shelfHeaders = [] := by decide +kernel
  have hcalm : ∀ a ∈ shelfBefore ++ shelfAfter, a.isCalm = true := by decide
  obtain ⟨-, job, hjob, htotals⟩ := import_outcome hheader
    (by unfold Layout.ofHeaders; rw [hcolumns]) hdecoded (by decide) hcalm hs
    (List.all_eq_true.mp hended) ht (gone_of_hasJoined hjoined)
  exact ⟨s, t, job, hs, ht, hjob, htotals⟩

end Shelf

end Concurrency.System

end CatalogIntake
