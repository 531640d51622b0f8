import CatalogIntake.Proofs.Consumer.Bench
import CatalogIntake.Proofs.Pipeline.Storing

/-!
What a consumer does to the rows of its chunk and to its job, whichever stores are off at whichever
of its calls. Each row is stored or becomes one error, and the job counts all of them or none.
-/

namespace CatalogIntake

open Concurrency

/-- The error has the number of the record's row, and the job that the record belongs to. -/
def ErrorCandidate.IsAbout (jobId : JobId) (record : ProductRecord) (e : ErrorCandidate) : Prop :=
  e.jobId = jobId ∧ e.rowNumber = record.rowNumber

structure Division where
  kept : List (ProductRecord × Product)
  lost : List ProductRecord

namespace Division

def records (d : Division) : List ProductRecord := d.kept.map (·.1) ++ d.lost

def keep (d : Division) (q : ProductRecord × Product) : Division := { d with kept := d.kept ++ [q] }

def lose (d : Division) (record : ProductRecord) : Division := { d with lost := d.lost ++ [record] }

/-- The catalogue has grown from `stock` to `products`, by as many products as are counted, and for
each row that has not been stored there is one error. -/
structure Fits (d : Division) (jobId : JobId) (stock products : List Product) (processed : Int)
    (errors : List ErrorCandidate) : Prop where
  mapped : ∀ q ∈ d.kept, Product.ofRecord q.1 = .ok q.2
  products : products = stock ++ d.kept.map (·.2)
  processed : processed = d.kept.length
  errors : List.Forall₂ (ErrorCandidate.IsAbout jobId) d.lost errors

variable {d : Division} {jobId : JobId} {stock products : List Product} {processed : Int}
  {errors : List ErrorCandidate} {record : ProductRecord} {product : Product}

theorem records_keep (d : Division) (q : ProductRecord × Product) :
    (d.keep q).records.Perm (d.records ++ [q.1]) := by
  unfold records keep
  rw [List.map_append, List.append_assoc, List.append_assoc]
  exact List.Perm.append_left _ List.perm_append_comm

theorem records_lose (d : Division) (record : ProductRecord) :
    (d.lose record).records = d.records ++ [record] := by
  simp [records, lose]

theorem Fits.keep (h : d.Fits jobId stock products processed errors)
    (maps : Product.ofRecord record = .ok product) :
    (d.keep (record, product)).Fits jobId stock (products ++ [product]) (processed + 1) errors where
  mapped := by
    intro q hq
    rcases List.mem_append.mp hq with hq | hq
    · exact h.mapped q hq
    · rw [List.mem_singleton.mp hq]
      exact maps
  products := by
    rw [h.products]
    simp [Division.keep]
  processed := by
    rw [h.processed]
    simp [Division.keep]
  errors := h.errors

theorem Fits.lose (h : d.Fits jobId stock products processed errors) (record : ProductRecord)
    (message : String) : (d.lose record).Fits jobId stock products processed
      (errors ++ [ErrorCandidate.ofRecord jobId record message]) where
  mapped := h.mapped
  products := h.products
  processed := h.processed
  errors := List.rel_append h.errors (.cons ⟨rfl, rfl⟩ .nil)

theorem Fits.rows (h : d.Fits jobId stock products processed errors) :
    processed + errors.length = d.records.length := by
  rw [h.processed, ← h.errors.length_eq]
  simp [records]

end Division

namespace Bench

variable {x : Bench} {d : Division} {jobId : JobId} {stock : List Product} {processed : Int}
  {errors : List ErrorCandidate}

theorem products_answer (x : Bench) {c : Call} (fits : c.fits x.met.jobs = true) :
    (x.answer c).2.world.products.products =
      x.world.products.products ++ c.inserted (x.answer c).1 := by
  rw [answer_of_fits x fits, ← x.products_met]
  exact x.met.products_answer c

theorem storeEach_divides {rest : List (ProductRecord × Product)}
    (fits : d.Fits jobId stock x.world.products.products processed errors)
    (maps : ∀ q ∈ rest, Product.ofRecord q.1 = .ok q.2) :
    let ran := Plan.run Bench.answer (storeEach jobId processed errors rest) x
    ∃ d' : Division, d'.records.Perm (d.records ++ rest.map (·.1)) ∧
      d'.Fits jobId stock ran.2.world.products.products ran.1.processed ran.1.errors := by
  induction rest generalizing d processed errors x with
  | nil =>
    refine ⟨d, ?_, fits⟩
    rw [List.map_nil, List.append_nil]
  | cons first rest ih =>
    obtain ⟨record, product⟩ := first
    have hproducts := x.products_answer (c := .insertOne product) rfl
    have hrest (q : ProductRecord × Product) (hq : q ∈ rest) : Product.ofRecord q.1 = .ok q.2 :=
      maps q (List.mem_cons_of_mem _ hq)
    unfold storeEach
    rw [Plan.run_call]
    cases hreply : (x.answer (.insertOne product)).1 with
    | ok reply =>
      rw [hreply] at hproducts
      have hfits := fits.keep (maps _ List.mem_cons_self)
      rw [← show _ = x.world.products.products ++ [product] from hproducts] at hfits
      obtain ⟨d', hperm, hfits'⟩ := ih hfits hrest
      refine ⟨d', ?_, hfits'⟩
      have hkeep := (d.records_keep (record, product)).append_right (rest.map (·.1))
      simpa using hperm.trans hkeep
    | error f =>
      rw [hreply] at hproducts
      have hfits := fits.lose record f.text
      rw [← show _ = x.world.products.products from hproducts.trans (List.append_nil _)] at hfits
      obtain ⟨d', hperm, hfits'⟩ := ih hfits hrest
      refine ⟨d', ?_, hfits'⟩
      simpa [d.records_lose record] using hperm

theorem storeMapped_divides {mapped : List (ProductRecord × Product)} {lost : List ProductRecord}
    (maps : ∀ q ∈ mapped, Product.ofRecord q.1 = .ok q.2)
    (about : List.Forall₂ (ErrorCandidate.IsAbout jobId) lost errors) (x : Bench) :
    let ran := Plan.run Bench.answer (storeMapped jobId errors mapped) x
    ∃ d : Division, d.records.Perm (mapped.map (·.1) ++ lost) ∧
      d.Fits jobId x.world.products.products ran.2.world.products.products ran.1.processed
        ran.1.errors := by
  have hnone : Division.Fits ⟨[], lost⟩ jobId x.world.products.products
      x.world.products.products 0 errors :=
    ⟨fun q hq => (by cases hq), (List.append_nil _).symm, rfl, about⟩
  cases mapped with
  | nil => exact ⟨⟨[], lost⟩, .refl _, hnone⟩
  | cons first rest =>
    have hproducts := x.products_answer (c := .insertBatch ((first :: rest).map (·.2))) rfl
    unfold storeMapped
    rw [Plan.run_call]
    cases hreply : (x.answer (.insertBatch ((first :: rest).map (·.2)))).1 with
    | ok reply =>
      rw [hreply] at hproducts
      exact ⟨⟨first :: rest, lost⟩, .refl _, maps, hproducts, rfl, about⟩
    | error f =>
      rw [hreply] at hproducts
      rw [← show _ = x.world.products.products from hproducts.trans (List.append_nil _)] at hnone ⊢
      obtain ⟨d, hperm, hfits⟩ := storeEach_divides hnone maps
      exact ⟨d, hperm.trans List.perm_append_comm, hfits⟩

theorem mapRecords_divides (jobId : JobId) (records : List ProductRecord) :
    ∃ lost : List ProductRecord,
      ((mapRecords jobId records).1.map (·.1) ++ lost).Perm records ∧
      List.Forall₂ (ErrorCandidate.IsAbout jobId) lost (mapRecords jobId records).2 := by
  induction records with
  | nil => exact ⟨[], .refl _, .nil⟩
  | cons record rest ih =>
    obtain ⟨lost, hperm, habout⟩ := ih
    unfold mapRecords
    cases Product.ofRecord record with
    | ok product => exact ⟨lost, hperm.cons record, habout⟩
    | error fault =>
      exact ⟨record :: lost, List.perm_middle.trans (hperm.cons record), .cons ⟨rfl, rfl⟩ habout⟩

/-- A job that is no longer in progress has none of the rows stored. -/
theorem storeChunk_divides (status : JobStatus) (chunk : Chunk) (x : Bench) :
    let ran := Plan.run Bench.answer (storeChunk status chunk) x
    ∃ d : Division, d.records.Perm chunk.records ∧
      d.Fits chunk.jobId x.world.products.products ran.2.world.products.products ran.1.processed
        ran.1.errors := by
  unfold storeChunk
  split
  · obtain ⟨lost, hrecords, habout⟩ := mapRecords_divides chunk.jobId chunk.records
    obtain ⟨d, hperm, hfits⟩ := storeMapped_divides
      (fun q hq => ((Stage.mem_mapRecords chunk.jobId chunk.records q.1 q.2).mp hq).2) habout x
    exact ⟨d, hperm.trans hrecords, hfits⟩
  · refine ⟨⟨[], chunk.records⟩, .refl _, fun q hq => (by cases hq), (List.append_nil _).symm, rfl,
      ?_⟩
    apply List.forall₂_map_right_iff.mpr
    exact List.forall₂_same.mpr fun record _ => ⟨rfl, rfl⟩

structure Logged (errors : List ErrorCandidate) (x y : Bench) : Prop where
  jobs : y.world.jobs.jobs = x.world.jobs.jobs
  products : y.world.products.products = x.world.products.products
  reported : y.reported = x.reported ++ errors
  steady : ∀ supply, x.Steady supply → y.Steady supply

theorem logErrors_saves (errors : List ErrorCandidate) {x : Bench} (clean : x.isUnsaved = false) :
    let y := (Plan.run Bench.answer (logErrors errors) x).2
    Logged errors x y ∧
      if y.isUnsaved then y.world.errors.entries = x.world.errors.entries
      else ∃ now, y.world.errors.entries =
        ErrorLog.append x.world.errors.entries now errors := by
  unfold logErrors
  by_cases none : errors.isEmpty
  · rw [if_pos none, List.isEmpty_iff.mp none]
    simp only [Plan.run, clean]
    exact ⟨⟨rfl, rfl, (List.append_nil _).symm, fun _ h => h⟩, x.world.now, rfl⟩
  · have hanswer := answer_of_fits x (c := .saveErrors errors) rfl
    rw [if_neg none, Plan.run_call]
    refine ⟨⟨x.jobs_met, x.products_met, ?_, fun _ h => h.answer _⟩, ?_⟩
    · simp [Plan.run, Bench.reported, hanswer, Answered.reported]
    · unfold Bench.isUnsaved at clean
      by_cases available : x.met.errors.available
      · simp [Plan.run, Bench.isUnsaved, hanswer, Answered.isUnsaved, ErrorLog.save, available,
          clean]
        exact ⟨_, rfl⟩
      · simp [Plan.run, Bench.isUnsaved, hanswer, Answered.isUnsaved, ErrorLog.save, available,
          Outcome.fail]

/-- Nothing has been done in between but to look at the jobs and to change them. -/
structure Filed (x y : Bench) : Prop where
  products : y.world.products.products = x.world.products.products
  entries : y.world.errors.entries = x.world.errors.entries
  reported : y.reported = x.reported
  unsaved : y.isUnsaved = x.isUnsaved

theorem Filed.trans {x y z : Bench} (first : Filed x y) (second : Filed y z) : Filed x z where
  products := second.products.trans first.products
  entries := second.entries.trans first.entries
  reported := second.reported.trans first.reported
  unsaved := second.unsaved.trans first.unsaved

theorem Filed.answer (x : Bench) (c : Call) (files : c.files = true) :
    Filed x (x.answer c).2 := by
  cases c with
  | getJob _ | increment _ _ _ | completeIfDone _ =>
    exact
      { products := x.products_met
        entries := x.entries_met
        reported := by simp [Bench.reported, Bench.answer, Answered.reported]
        unsaved := by simp [Bench.isUnsaved, Bench.answer, Answered.isUnsaved] }
  | _ => cases files

/-- The check tells whether the job was ready to be completed, and completes it then. -/
theorem checkAndComplete_checks (id : JobId) (x : Bench) :
    let ran := Plan.run Bench.answer (checkAndComplete id) x
    Filed x ran.2 ∧ ran.1 = .ok ((x.world.jobs.get? id).any (·.isReadyIn (some .i64))) ∧
      ∃ now, ∀ other, ran.2.world.jobs.get? other =
        if other = id then (x.world.jobs.get? other).map (Job.checkedIn (some .i64) now)
        else x.world.jobs.get? other := by
  have hfiled := Filed.answer x (.completeIfDone id) rfl
  have hreply : (x.answer (.completeIfDone id)).1 =
      .ok ((x.world.jobs.get? id).any (·.isReadyIn (some .i64))) := by
    rw [← x.get?_met, ← JobTable.fst_completeIfDoneIn _ _ _ x.met.now]
    rfl
  have hjobs (other : JobId) : (x.answer (.completeIfDone id)).2.world.jobs.get? other =
      if other = id then (x.world.jobs.get? other).map (Job.checkedIn (some .i64) x.met.now)
      else x.world.jobs.get? other := by
    rw [← x.get?_met, ← JobTable.get?_completeIfDoneIn]
    rfl
  unfold checkAndComplete
  rw [Plan.run_call, hreply]
  cases (x.world.jobs.get? id).any (·.isReadyIn (some .i64)) with
  | false => exact ⟨hfiled, rfl, _, hjobs⟩
  | true =>
    refine ⟨hfiled.trans (.answer _ (.getJob id) rfl), rfl, x.met.now, ?_⟩
    intro other
    exact (get?_met _ other).trans (hjobs other)

theorem concluding_checks (chunk : Chunk) (stored : Storing) (x : Bench) :
    let ran := Plan.run Bench.answer
      (Stage.concluding chunk stored (checkAndComplete chunk.jobId)) x
    Filed x ran.2 ∧ ran.1 = .ok (Stage.outcome chunk stored
      ((x.world.jobs.get? chunk.jobId).any (·.isReadyIn (some .i64)))) ∧
      ∃ now, ∀ other, ran.2.world.jobs.get? other =
        if other = chunk.jobId then (x.world.jobs.get? other).map (Job.checkedIn (some .i64) now)
        else x.world.jobs.get? other := by
  obtain ⟨hfiled, hresult, hjobs⟩ := checkAndComplete_checks chunk.jobId x
  unfold Stage.concluding
  rw [Plan.run_bind, hresult]
  exact ⟨hfiled, rfl, hjobs⟩

/-- The rows of a chunk are added to the counters of its job, which they may complete; or they are
not, when the progress of jobs is off at that moment. -/
theorem account_counts {chunk : Chunk} {x : Bench} {job : Job}
    (known : x.world.jobs.get? chunk.jobId = some job) (stored : Storing) :
    let ran := Plan.run Bench.answer (account chunk stored) x
    let counted := job.countedIn (some .i64) stored.processed stored.errors.length
    Filed x ran.2 ∧
      ((∃ f, ran.1 = .error f) ∧ ran.2.world.jobs.jobs = x.world.jobs.jobs ∧
          ¬x.Steady .progress ∨
        ran.1 = .ok (Stage.outcome chunk stored (counted.isReadyIn (some .i64))) ∧
          ∃ now, ∀ id, ran.2.world.jobs.get? id =
            if id = chunk.jobId then some (counted.checkedIn (some .i64) now)
            else x.world.jobs.get? id) := by
  have hfiled := Filed.answer x
    (.increment chunk.jobId stored.processed stored.errors.length) rfl
  unfold account
  rw [Plan.run_call]
  cases available : x.met.jobs.progressAvailable with
  | false =>
    have hrefused : x.met.jobs.incrementIn (some .i64) chunk.jobId stored.processed
        stored.errors.length = (.fail .jobStoreUnavailable, x.met.jobs) := by
      unfold JobTable.incrementIn
      rw [available]
      rfl
    have hreply : (x.answer (.increment chunk.jobId stored.processed stored.errors.length)).1 =
        .fail .jobStoreUnavailable := congrArg Prod.fst hrefused
    rw [hreply]
    refine ⟨hfiled, .inl ⟨⟨_, rfl⟩, ?_, ?_⟩⟩
    · exact (congrArg (fun r => r.2.jobs) hrefused).trans x.jobs_met
    · intro steady
      have hmet := steady.met
      rw [World.isAvailable, available] at hmet
      cases hmet
  | true =>
    have hreply : (x.answer (.increment chunk.jobId stored.processed stored.errors.length)).1 =
        .ok (job.countedIn (some .i64) stored.processed stored.errors.length).counters := by
      show (x.met.jobs.incrementIn _ _ _ _).1 = _
      rw [JobTable.fst_incrementIn, if_pos available, x.get?_met, known]
      rfl
    have hjobs (id : JobId) : (x.answer
        (.increment chunk.jobId stored.processed stored.errors.length)).2.world.jobs.get? id =
          if id = chunk.jobId then
            some (job.countedIn (some .i64) stored.processed stored.errors.length)
          else x.world.jobs.get? id := by
      show (x.met.jobs.incrementIn _ _ _ _).2.get? id = _
      rw [JobTable.get?_incrementIn, x.get?_met]
      by_cases hid : id = chunk.jobId
      · rw [if_pos ⟨hid, available⟩, if_pos hid, hid, known]
        rfl
      · rw [if_neg fun h => hid h.1, if_neg hid]
    obtain ⟨hchecked, hresult, now, hafter⟩ := concluding_checks chunk stored
      (x.answer (.increment chunk.jobId stored.processed stored.errors.length)).2
    rw [hjobs, if_pos rfl] at hresult
    rw [hreply]
    refine ⟨hfiled.trans hchecked, .inr ⟨hresult, now, ?_⟩⟩
    intro id
    refine (hafter id).trans ?_
    rw [hjobs]
    split <;> rfl

theorem finishing_counts {chunk : Chunk} {x : Bench} {job : Job}
    (known : x.world.jobs.get? chunk.jobId = some job) (clean : x.isUnsaved = false)
    (stored : Storing) :
    let ran := Plan.run Bench.answer (Stage.finishing chunk stored) x
    let counted := job.countedIn (some .i64) stored.processed stored.errors.length
    ran.2.world.products.products = x.world.products.products ∧
      ran.2.reported = x.reported ++ stored.errors ∧
      (if ran.2.isUnsaved then ran.2.world.errors.entries = x.world.errors.entries
        else ∃ now, ran.2.world.errors.entries =
          ErrorLog.append x.world.errors.entries now stored.errors) ∧
      ((∃ f, ran.1 = .error f) ∧ ran.2.world.jobs.jobs = x.world.jobs.jobs ∧
          ¬x.Steady .progress ∨
        ran.1 = .ok (Stage.outcome chunk stored (counted.isReadyIn (some .i64))) ∧
          ∃ now, ∀ id, ran.2.world.jobs.get? id =
            if id = chunk.jobId then some (counted.checkedIn (some .i64) now)
            else x.world.jobs.get? id) := by
  obtain ⟨hlogged, hsaved⟩ := logErrors_saves stored.errors clean
  unfold Stage.finishing
  rw [Plan.run_bind]
  generalize (Plan.run Bench.answer (logErrors stored.errors) x).2 = y at hlogged hsaved
  have hget (id : JobId) : y.world.jobs.get? id = x.world.jobs.get? id := by
    unfold JobTable.get?
    rw [hlogged.jobs]
  obtain ⟨hfiled, hcounted⟩ := account_counts ((hget _).trans known) stored
  refine ⟨hfiled.products.trans hlogged.products, hfiled.reported.trans hlogged.reported, ?_, ?_⟩
  · rw [hfiled.unsaved, hfiled.entries]
    exact hsaved
  · rw [hlogged.jobs] at hcounted
    simp only [hget] at hcounted
    exact hcounted.imp (fun h => ⟨h.1, h.2.1, fun steady => h.2.2 (hlogged.steady _ steady)⟩) id

variable {w : World} {ahead : List (List Weather)} {chunk : Chunk} {job : Job}

theorem run_consume_of_unknown (x : Bench) (unknown : x.world.jobs.get? chunk.jobId = none) :
    Plan.run Bench.answer (consume chunk) x =
      (.ok (ChunkOutcome.ofDropped chunk), (x.answer (.getJob chunk.jobId)).2) := by
  have hreply : (x.answer (.getJob chunk.jobId)).1 = .ok (x.met.jobs.get? chunk.jobId) := rfl
  unfold consume
  rw [Plan.run_call, hreply, x.get?_met, unknown]
  rfl

theorem run_consume_of_known (x : Bench) (known : x.world.jobs.get? chunk.jobId = some job) :
    Plan.run Bench.answer (consume chunk) x =
      Plan.run Bench.answer ((storeChunk job.status chunk).bind (Stage.finishing chunk))
        (x.answer (.getJob chunk.jobId)).2 := by
  have hreply : (x.answer (.getJob chunk.jobId)).1 = .ok (x.met.jobs.get? chunk.jobId) := rfl
  unfold consume
  rw [Plan.run_call, hreply, x.get?_met, known]
  rfl

/-- What has become of a job when its consumer reports `o`: it has counted the rows, and is
completed now if the report says so. -/
structure Accounted (o : ChunkOutcome) (job job' : Job) : Prop where
  processed : job'.processedRows = Number.Width.i64.wrap (job.processedRows + o.processed)
  failed : job'.failedRows = Number.Width.i64.wrap (job.failedRows + o.failed)
  /-- The counters have grown by the rows, but for those that do not fit 64 bits any more. -/
  exact : job.canCount o.processed o.failed = true →
    job'.processedRows = job.processedRows + o.processed ∧
      job'.failedRows = job.failedRows + o.failed
  totalRows : job'.totalRows = job.totalRows
  status : if o.completed then job.status = .processing ∧ job'.status = .completed
    else job'.status = job.status

/-- What a consumer has done that reports `o` on its chunk, from the stores `w` on. -/
structure Conserved (chunk : Chunk) (w : World) (o : ChunkOutcome) (x : Bench) : Prop where
  rows : o.processed + o.failed = chunk.records.length
  job : ∃ job job', w.jobs.get? chunk.jobId = some job ∧
    x.world.jobs.get? chunk.jobId = some job' ∧ Accounted o job job'
  others : ∀ id, id ≠ chunk.jobId → x.world.jobs.get? id = w.jobs.get? id
  /-- The products of some records have been stored, and for each other record there is one error.
  -/
  division : ∃ d : Division, d.records.Perm chunk.records ∧
    d.Fits chunk.jobId w.products.products x.world.products.products o.processed x.reported
  failed : o.failed = x.reported.length
  /-- The log has taken all errors or none. -/
  saved : if x.isUnsaved then x.world.errors.entries = w.errors.entries
    else ∃ now, x.world.errors.entries = ErrorLog.append w.errors.entries now x.reported

theorem status_checkedIn (counters : Option Number.Width) (now : Instant) (job : Job) :
    if job.isReadyIn counters then
      job.status = .processing ∧ (job.checkedIn counters now).status = .completed
    else (job.checkedIn counters now).status = job.status := by
  unfold Job.checkedIn
  by_cases ready : job.isReadyIn counters
  · rw [if_pos ready, if_pos ready]
    exact ⟨((job.isReadyIn_iff counters).mp ready).1, rfl⟩
  · rw [if_neg ready, if_neg ready]

theorem accounted_of_counted (chunk : Chunk) (stored : Storing) (job : Job) (now : Instant) :
    let counted := job.countedIn (some .i64) stored.processed stored.errors.length
    Accounted (Stage.outcome chunk stored (counted.isReadyIn (some .i64))) job
      (counted.checkedIn (some .i64) now) := by
  intro counted
  obtain ⟨hprocessed, hfailed⟩ := counted.checkedIn_rows (some .i64) now
  refine ⟨hprocessed, hfailed, fun fits => ?_, counted.checkedIn_totalRows _ now,
    status_checkedIn _ now counted⟩
  have hexact : counted = job.counted stored.processed stored.errors.length :=
    Job.countedIn_of_canCount fits
  rw [hprocessed, hfailed, hexact]
  exact ⟨rfl, rfl⟩

end Bench

/-- The catalogue is off for the batch, and back for the second of the single rows. -/
example : (Plan.run Bench.answer (consume ⟨⟨7⟩, 0, [System.mug, System.mug]⟩)
    (.opening (.opening ⟨0, 0⟩ (JobTable.empty.create (Job.started ⟨7⟩ ⟨0, 0⟩)).2 .empty .empty 1)
      [[], [.supply .products false], [], [.supply .products true]])).1 =
    .ok ⟨⟨7⟩, 0, 1, 1, true, false, false⟩ := by rfl

end CatalogIntake
