import CatalogIntake.Proofs.Concurrency.Evidence
import CatalogIntake.Proofs.Crowd.Basic
import CatalogIntake.Proofs.Pool.Amount
import CatalogIntake.Proofs.Pool.Effort

/-!
Consumers side by side, each with a chunk, on stores that answer. They try to store the same
internal ids at the same time, for one job or for several; whoever comes first has the product, and
the others count a failed row.
-/

namespace CatalogIntake

def Stage.GoesWell (chunk : Chunk) : Stage → Prop
  | loaded status => status = .processing
  | settled result => ∃ outcome, result = .ok outcome ∧ outcome.jobId = chunk.jobId ∧
      outcome.dropped = false
  | _ => True

theorem Stage.hasCompleted_of_goes {chunk : Chunk} {stage next : Stage}
    (h : Goes chunk stage next) : stage.hasCompleted = false ∧ next.hasCompleted = false := by
  cases h <;> exact ⟨rfl, rfl⟩

theorem Stage.GoesWell.goes {chunk : Chunk} {stage next : Stage} (h : Goes chunk stage next) :
    next.GoesWell chunk := by
  cases h <;> trivial

/-- A call of a consumer about its job leaves the status alone, or is the check that completes
it. -/
theorem Stage.completes_of_asks {chunk : Chunk} {stage next : Stage} {w : Concurrency.World}
    {c : Call} (h : Asks chunk stage c (w.answer c).1 next) {job : Job}
    (known : w.jobs.get? chunk.jobId = some job) :
    let job' := Job.after w.now c (w.answer c).1 job
    job'.totalRows = job.totalRows ∧
      (job'.status = job.status ∧ next.hasCompleted = stage.hasCompleted ∨
        job.isReadyToComplete = true ∧ job'.status = .completed ∧ stage.hasCompleted = false ∧
          next.hasCompleted = true ∧ next.isCounted = true) := by
  generalize hanswer : (w.answer c).1 = answer at h
  have checked (replies : Outcome Bool)
      (hreplies : (w.answer (.completeIfDone chunk.jobId)).1 = replies) :
      replies = .ok job.isReadyToComplete := by
    rw [← hreplies, Concurrency.World.answer_completeIfDone, JobTable.fst_completeIfDone, known]
    rfl
  cases h with
  | unchecked => cases checked _ hanswer
  | notDone =>
    have hready : false = job.isReadyToComplete := Except.ok.inj (checked _ hanswer)
    refine ⟨Job.checked_totalRows _ job, .inl ⟨?_, rfl⟩⟩
    show (job.checked w.now).status = job.status
    unfold Job.checked
    rw [← hready]
    rfl
  | completed =>
    have hready : true = job.isReadyToComplete := Except.ok.inj (checked _ hanswer)
    refine ⟨Job.checked_totalRows _ job, .inr ⟨hready.symm, ?_, rfl, rfl, rfl⟩⟩
    show (job.checked w.now).status = .completed
    unfold Job.checked
    rw [← hready]
    rfl
  | unconfirmed => cases hanswer
  | _ => exact ⟨rfl, .inl ⟨rfl, rfl⟩⟩

structure Handling where
  chunk : Chunk
  stage : Stage

namespace Handling

def move (t : Handling) : Move Handling (Outcome ChunkOutcome) :=
  match t.stage.move t.chunk with
  | .go next => .go { t with stage := next }
  | .ask c next => .ask c fun answer => { t with stage := next answer }
  | .halt result => .halt result

variable {t next : Handling}

theorem goes_of_move (h : t.move = .go next) :
    next.chunk = t.chunk ∧ Stage.Goes t.chunk t.stage next.stage := by
  unfold move at h
  split at h
  · rename_i hmove
    cases h
    exact ⟨rfl, Stage.goes_of_move hmove⟩
  · cases h
  · cases h

theorem asks_of_move {c : Call} {next : c.Answer → Handling} (h : t.move = .ask c next)
    (answer : c.Answer) : (next answer).chunk = t.chunk ∧
      Stage.Asks t.chunk t.stage c answer (next answer).stage := by
  unfold move at h
  split at h
  · cases h
  · rename_i hmove
    cases h
    exact ⟨rfl, Stage.asks_of_move hmove answer⟩
  · cases h

theorem settled_of_move {result : Outcome ChunkOutcome} (h : t.move = .halt result) :
    t.stage = .settled result := by
  unfold move at h
  split at h
  · cases h
  · cases h
  · rename_i hmove
    cases h
    exact Stage.settled_of_move hmove

def machine : Machine Handling (Outcome ChunkOutcome) where
  move := move
  plan t := t.stage.plan t.chunk
  plan_eq := by
    intro t
    rw [Stage.plan_eq]
    unfold move
    cases t.stage.move t.chunk <;> rfl
  effort t := t.stage.remaining t.chunk
  effort_lt := by
    intro t next h
    obtain ⟨hchunk, hgoes⟩ := goes_of_move h
    rw [hchunk]
    exact hgoes.remaining_lt

def stored (t : Handling) : Int := t.stage.stored

def countedRows (t : Handling) : Int := if t.stage.isCounted then t.chunk.records.length else 0

def completions (t : Handling) : Int := if t.stage.hasCompleted then 1 else 0

def amountFor (id : JobId) (f : Handling → Int) (t : Handling) : Int :=
  if t.chunk.jobId = id then f t else 0

def tally (ts : List Handling) (id : JobId) (f : Handling → Int) : Int :=
  (ts.map (amountFor id f)).sum

variable {ts : List Handling} {i : Nat} {id : JobId} {f : Handling → Int}

theorem tally_set (id : JobId) (at_ : ts[i]? = some t) (next : Handling) :
    tally (ts.set i next) id f + amountFor id f t = tally ts id f + amountFor id f next :=
  Concurrency.System.sum_set (amountFor id f) next at_

theorem tally_set_of_eq (at_ : ts[i]? = some t) (chunk : next.chunk = t.chunk)
    (same : t.chunk.jobId = id → f next = f t) : tally (ts.set i next) id f = tally ts id f := by
  have hset := tally_set (f := f) id at_ next
  have hamount : amountFor id f next = amountFor id f t := by
    unfold amountFor
    rw [chunk]
    split
    · exact same ‹_›
    · rfl
  omega

theorem tally_congr {g : Handling → Int} (same : ∀ t ∈ ts, f t = g t) :
    tally ts id f = tally ts id g := by
  unfold tally
  congr 1
  refine List.map_congr_left fun t ht => ?_
  unfold amountFor
  rw [same t ht]

theorem tally_eq_zero (none : ∀ t ∈ ts, f t = 0) : tally ts id f = 0 := by
  refine List.sum_eq_zero fun amount hamount => ?_
  obtain ⟨t, ht, rfl⟩ := List.mem_map.mp hamount
  unfold amountFor
  split
  · exact none t ht
  · rfl

theorem tally_set_own (at_ : ts[i]? = some t) (chunk : next.chunk = t.chunk) :
    tally (ts.set i next) t.chunk.jobId f + f t = tally ts t.chunk.jobId f + f next := by
  have hset := tally_set (f := f) t.chunk.jobId at_ next
  unfold amountFor at hset
  rwa [chunk, if_pos rfl, if_pos rfl] at hset

end Handling

namespace Chunk

def ofJob (id : JobId) (chunks : List Chunk) : List Chunk := chunks.filter (·.jobId = id)

end Chunk

/-- A job in progress with no row counted, and the total unknown or that of its chunks. -/
structure Job.Awaits (job : Job) (chunks : List Chunk) : Prop where
  processing : job.status = .processing
  processed : job.processedRows = 0
  failed : job.failedRows = 0
  total : job.totalRows = none ∨
    job.totalRows = some (Chunk.rowCount (Chunk.ofJob job.id chunks) : Int)

namespace Concurrency

namespace World

def host : Host World Unit Instant where
  answer _ _ c w := w.answer c
  happen now w := { w with now }

end World

end Concurrency

open Concurrency

namespace Handling

structure Stands (ids : List String) (t : Handling) : Prop where
  fits : t.stage.Fits t.chunk
  stocks : t.stage.Stocks t.chunk ids
  tried : t.stage.isCounted = true → Stage.Tried t.chunk ids
  goesWell : t.stage.GoesWell t.chunk

variable {t next : Handling} {ids more : List String} {w : World}

theorem Stands.mono (h : t.Stands ids) (grows : ids ⊆ more) : t.Stands more where
  fits := h.fits
  stocks := h.stocks.mono grows
  tried := fun counted => (h.tried counted).mono grows
  goesWell := h.goesWell

theorem Stands.goes (h : t.Stands ids) (chunk : next.chunk = t.chunk)
    (goes : Stage.Goes t.chunk t.stage next.stage) : next.Stands ids := by
  refine ⟨?_, ?_, fun counted => ?_, ?_⟩
  · rw [chunk]
    exact h.fits.goes goes
  · rw [chunk]
    refine h.stocks.goes goes fun status hstage => ?_
    have hwell := h.goesWell
    rw [hstage] at hwell
    exact hwell
  · rw [(Stage.isCounted_of_goes goes).2] at counted
    cases counted
  · rw [chunk]
    exact .goes goes

theorem Stands.asks (h : t.Stands w.products.ids) (available : w.Available)
    {job : Job} (known : w.jobs.get? t.chunk.jobId = some job)
    (active : t.stage.isCounted = false → job.status = .processing)
    (chunk : next.chunk = t.chunk) {c : Call}
    (asks : Stage.Asks t.chunk t.stage c (w.answer c).1 next.stage) :
    next.Stands (w.answer c).2.products.ids := by
  have grows := w.ids_answer c
  refine ⟨?_, ?_, fun counted => ?_, ?_⟩
  · rw [chunk]
    exact h.fits.asks asks
  · rw [chunk]
    refine h.stocks.asks asks grows (fun product => World.inserted_answer) ?_
    intro product f hc hanswer
    subst hc
    exact available.refused (eq_of_heq hanswer)
  · rw [chunk]
    rw [Stage.isCounted_of_asks asks, Bool.or_eq_true] at counted
    rcases counted with counted | counts
    · exact (h.tried counted).mono grows
    · exact (h.stocks.tried asks counts).mono grows
  · rw [chunk]
    generalize hanswer : (w.answer c).1 = answer at asks
    generalize hstage : t.stage = stage at asks active
    generalize next.stage = after at asks ⊢
    cases asks with
    | unloaded => cases hanswer
    | unknown =>
      rw [World.answer_getJob, known] at hanswer
      cases hanswer
    | found =>
      rw [World.answer_getJob, known] at hanswer
      cases hanswer
      exact active rfl
    | uncounted => exact absurd hanswer (available.increment known _ _ _)
    | unchecked | notDone | unconfirmed | confirmed => exact ⟨_, rfl, rfl, rfl⟩
    | _ => trivial

end Handling

namespace Handling

variable {t next : Handling} {ts : List Handling} {i : Nat} {id : JobId} {job job' job'' : Job}

/-- The job is as it was, or one of its consumers has completed it with all its chunks counted. -/
def Follows (ts : List Handling) (job job' : Job) : Prop :=
  job'.totalRows = job.totalRows ∧
    (job'.status = job.status ∧ tally ts job.id completions = 0 ∨
      job'.status = .completed ∧ tally ts job.id completions = 1 ∧
        ∀ t ∈ ts, t.chunk.jobId = job.id → t.stage.isCounted = true)

theorem Follows.set (h : Follows ts job job') (at_ : ts[i]? = some t) (chunk : next.chunk = t.chunk)
    (same : t.chunk.jobId = job.id → next.stage.hasCompleted = t.stage.hasCompleted)
    (counted : t.stage.isCounted = true → next.stage.isCounted = true)
    (total : job''.totalRows = job'.totalRows) (status : job''.status = job'.status) :
    Follows (ts.set i next) job job'' := by
  have htally : tally (ts.set i next) job.id completions = tally ts job.id completions := by
    refine tally_set_of_eq at_ chunk fun hid => ?_
    unfold completions
    rw [same hid]
  refine ⟨total.trans h.1, ?_⟩
  rw [htally, status]
  refine h.2.imp_right fun ⟨hstatus, hone, hcounted⟩ => ⟨hstatus, hone, fun u hu hid => ?_⟩
  rcases List.mem_or_eq_of_mem_set hu with hu | rfl
  · exact hcounted u hu hid
  · rw [chunk] at hid
    exact counted (hcounted t (List.mem_of_getElem? at_) hid)

theorem rowCount_ofJob (ts : List Handling) (id : JobId) :
    (Chunk.rowCount (Chunk.ofJob id (ts.map (·.chunk))) : Int) =
      tally ts id fun t => t.chunk.records.length := by
  induction ts with
  | nil => rfl
  | cons t ts ih =>
    unfold Chunk.rowCount Chunk.ofJob tally amountFor at ih ⊢
    by_cases hid : t.chunk.jobId = id <;> simp [hid, ih]

/-- Chunks hold rows, and so all of them are counted when their rows are. -/
theorem isCounted_of_rows (filled : ∀ t ∈ ts, t.chunk.records ≠ [])
    (rows : (Chunk.rowCount (Chunk.ofJob id (ts.map (·.chunk))) : Int) ≤ tally ts id countedRows) :
    ∀ t ∈ ts, t.chunk.jobId = id → t.stage.isCounted = true := by
  intro t ht hid
  by_contra uncounted
  rw [rowCount_ofJob] at rows
  refine absurd rows (Int.not_le.mpr (List.sum_lt_sum _ _ (fun u _ => ?_) ⟨t, ht, ?_⟩))
  · unfold amountFor countedRows
    split
    · split
      · exact Int.le_refl _
      · exact Int.natCast_nonneg _
    · exact Int.le_refl _
  · have hpos := List.length_pos_iff.mpr (filled t ht)
    unfold amountFor countedRows
    rw [if_pos hid, if_pos hid, if_neg uncounted]
    exact Int.natCast_pos.mpr hpos

theorem countedRows_of_asks {c : Call} {answer : c.Answer} (chunk : next.chunk = t.chunk)
    (fits : t.stage.Fits t.chunk) (asks : Stage.Asks t.chunk t.stage c answer next.stage) :
    next.countedRows = t.countedRows + c.rows answer := by
  unfold countedRows
  rw [fits.rows asks, Stage.isCounted_of_asks asks, chunk]
  cases counts : c.counts answer with
  | false => simp
  | true =>
    rw [Stage.not_isCounted_of_counts asks counts]
    simp

end Handling

structure Sharing (w : World) (chunks : List Chunk) (added : List (JobId × Product)) (x : World)
    (ts : List Handling) : Prop where
  available : x.Available
  members : ts.map (·.chunk) = chunks
  stands : ∀ t ∈ ts, t.Stands x.products.ids
  products : x.products.products = w.products.products ++ added.map (·.2)
  nodup : ((added.map (·.2)).map (·.internalId)).Nodup
  fresh : ∀ product ∈ added.map (·.2),
    product.internalId ∉ w.products.products.map (·.internalId)
  sources : ∀ e ∈ added, ∃ chunk ∈ chunks, chunk.jobId = e.1 ∧
    ∃ record ∈ chunk.records, Product.ofRecord record = .ok e.2
  stored : ∀ id, x.processed id + Handling.tally ts id Handling.stored =
    w.processed id + (added.map (·.1)).count id
  rows : ∀ id, x.processed id + x.failed id =
    w.processed id + w.failed id + Handling.tally ts id Handling.countedRows
  jobs : ∀ {id : JobId} {job : Job}, w.jobs.get? id = some job →
    ∃ job', x.jobs.get? id = some job' ∧ Handling.Follows ts job job'

namespace Sharing

variable {w x : World} {chunks : List Chunk} {added : List (JobId × Product)} {ts : List Handling}
  {i : Nat} {t next : Handling} {job job' : Job}

theorem go (h : Sharing w chunks added x ts) (at_ : ts[i]? = some t) (hmove : t.move = .go next) :
    Sharing w chunks added x (ts.set i next) := by
  obtain ⟨hchunk, goes⟩ := Handling.goes_of_move hmove
  obtain ⟨hcounted, hcounted'⟩ := Stage.isCounted_of_goes goes
  obtain ⟨hcompleted, hcompleted'⟩ := Stage.hasCompleted_of_goes goes
  refine { h with members := ?_, stands := ?_, stored := ?_, rows := ?_, jobs := ?_ }
  · exact (Machine.map_set_of_eq (·.chunk) at_ hchunk).trans h.members
  · intro u hu
    rcases List.mem_or_eq_of_mem_set hu with hu | rfl
    · exact h.stands u hu
    · exact (h.stands t (List.mem_of_getElem? at_)).goes hchunk goes
  · intro id
    rw [Handling.tally_set_of_eq at_ hchunk fun _ => Stage.stored_of_goes goes]
    exact h.stored id
  · intro id
    rw [Handling.tally_set_of_eq at_ hchunk fun _ => ?_]
    · exact h.rows id
    · unfold Handling.countedRows
      rw [hcounted, hcounted']
      rfl
  · intro id job known
    obtain ⟨job', hjob', hfollows⟩ := h.jobs known
    refine ⟨job', hjob', hfollows.set at_ hchunk (fun _ => ?_) (fun counted => ?_) rfl rfl⟩
    · rw [hcompleted, hcompleted']
    · rw [hcounted] at counted
      cases counted

theorem mem_chunks (h : Sharing w chunks added x ts) (ht : t ∈ ts) : t.chunk ∈ chunks := by
  rw [← h.members]
  exact List.mem_map_of_mem ht

/-- As long as one of its chunks is not counted, the job is in progress. -/
theorem active (ht : t ∈ ts) (known : w.jobs.get? t.chunk.jobId = some job)
    (awaits : job.Awaits chunks) (follows : Handling.Follows ts job job')
    (uncounted_ : t.stage.isCounted = false) :
    job'.status = .processing := by
  rcases follows.2 with ⟨hstatus, -⟩ | ⟨-, -, hcounted⟩
  · exact hstatus.trans awaits.processing
  · have hcounted := hcounted t ht (JobTable.id_of_get? known).symm
    rw [uncounted_] at hcounted
    cases hcounted

/-- A job that is ready to be completed has all its chunks counted. -/
theorem counted_of_ready (h : Sharing w chunks added x ts)
    (filled : ∀ chunk ∈ chunks, chunk.records ≠ []) {id : JobId}
    (known : w.jobs.get? id = some job) (awaits : job.Awaits chunks)
    (known' : x.jobs.get? id = some job') (total : job'.totalRows = job.totalRows)
    (ready : job'.isReadyToComplete = true) :
    ∀ t ∈ ts, t.chunk.jobId = id → t.stage.isCounted = true := by
  refine Handling.isCounted_of_rows (fun t ht => filled _ (h.mem_chunks ht)) ?_
  obtain ⟨-, rows, hrows, -, hle⟩ := job'.isReadyToComplete_iff.mp ready
  -- the job has a total, and that is the number of rows of its chunks
  have hrows : job.totalRows = some rows := total.symm.trans hrows
  rcases awaits.total with hnone | hsome
  · rw [hnone] at hrows
    cases hrows
  · rw [JobTable.id_of_get? known] at hsome
    obtain rfl := Option.some.inj (hsome.symm.trans hrows)
    have hcounted := h.rows id
    obtain ⟨hprocessed, hfailed⟩ := World.counters_of_get? known
    obtain ⟨hprocessed', hfailed'⟩ := World.counters_of_get? known'
    rw [hprocessed, hfailed, hprocessed', hfailed', awaits.processed, awaits.failed] at hcounted
    unfold Job.rowsAccounted at hle
    rw [h.members]
    omega

/-- The consumers follow their job through a call that one of them makes about it. -/
theorem follows_after (h : Sharing w chunks added x ts)
    (filled : ∀ chunk ∈ chunks, chunk.records ≠ []) (at_ : ts[i]? = some t)
    (chunk : next.chunk = t.chunk) {c : Call}
    (asks : Stage.Asks t.chunk t.stage c (x.answer c).1 next.stage)
    (known : w.jobs.get? t.chunk.jobId = some job) (awaits : job.Awaits chunks)
    (known' : x.jobs.get? t.chunk.jobId = some job') (follows : Handling.Follows ts job job') :
    Handling.Follows (ts.set i next) job (Job.after x.now c (x.answer c).1 job') := by
  have hcounted : t.stage.isCounted = true → next.stage.isCounted = true := by
    intro counted
    rw [Stage.isCounted_of_asks asks, counted]
    rfl
  obtain ⟨htotal, ⟨hstatus, hsame⟩ | ⟨hready, hstatus, hbefore, hafter, hcount⟩⟩ :=
    Stage.completes_of_asks asks known'
  · exact follows.set at_ chunk (fun _ => hsame) hcounted htotal hstatus
  · have hid := JobTable.id_of_get? known
    have hall := h.counted_of_ready filled known awaits known' follows.1 hready
    have hzero : Handling.tally ts job.id Handling.completions = 0 := by
      rcases follows.2 with ⟨-, hzero⟩ | ⟨hcompleted, -⟩
      · exact hzero
      · rw [(job'.isReadyToComplete_iff.mp hready).1] at hcompleted
        cases hcompleted
    refine ⟨htotal.trans follows.1, .inr ⟨hstatus, ?_, fun u hu hu' => ?_⟩⟩
    · have htally := Handling.tally_set_own (f := Handling.completions) at_ chunk
      rw [hid] at hzero ⊢
      unfold Handling.completions at htally hzero ⊢
      rw [hbefore, hafter, hzero] at htally
      simpa using htally
    · rcases List.mem_or_eq_of_mem_set hu with hu | rfl
      · exact hall u hu (hu'.trans hid)
      · exact hcount

theorem ask (h : Sharing w chunks added x ts) (filled : ∀ chunk ∈ chunks, chunk.records ≠ [])
    (awaited : ∀ chunk ∈ chunks, ∃ job, w.jobs.get? chunk.jobId = some job ∧ job.Awaits chunks)
    (at_ : ts[i]? = some t) (chunk : next.chunk = t.chunk) {c : Call}
    (asks : Stage.Asks t.chunk t.stage c (x.answer c).1 next.stage) :
    Sharing w chunks (added ++ (c.inserted (x.answer c).1).map (t.chunk.jobId, ·))
      (x.answer c).2 (ts.set i next) := by
  have ht := List.mem_of_getElem? at_
  have stands := h.stands t ht
  obtain ⟨job, known, awaits⟩ := awaited t.chunk (h.mem_chunks ht)
  obtain ⟨job', known', follows⟩ := h.jobs known
  obtain ⟨own, create, -⟩ := asks.jobId
  have others {id : JobId} (hne : t.chunk.jobId ≠ id) :
      (x.answer c).2.jobs.get? id = x.jobs.get? id := by
    rw [x.get?_answer create, if_neg]
    rcases own with own | own
    · rw [own]
      exact fun h => hne (Option.some.inj h)
    · rw [own]
      exact fun h => nomatch h
  -- the sums over its consumers change for this job only, and with them its counters
  have counters := World.counters_answer (w := x) (Prod.eta _).symm create own
  have standing : next.Stands (x.answer c).2.products.ids :=
    stands.asks h.available known' (active ht known awaits follows) chunk asks
  have hsnd : (added ++ (c.inserted (x.answer c).1).map (t.chunk.jobId, ·)).map (·.2) =
      added.map (·.2) ++ c.inserted (x.answer c).1 := by
    simp
  obtain ⟨hproducts, hnodup, hfresh⟩ :=
    h.available.additions_answer c h.products h.nodup h.fresh
  constructor
  case available => exact h.available.answer c
  case members => exact (Machine.map_set_of_eq (·.chunk) at_ chunk).trans h.members
  case stands =>
    intro u hu
    rcases List.mem_or_eq_of_mem_set hu with hu | rfl
    · exact (h.stands u hu).mono (x.ids_answer c)
    · exact standing
  case products =>
    rw [hsnd]
    exact hproducts
  case nodup =>
    rw [hsnd]
    exact hnodup
  case fresh =>
    rw [hsnd]
    exact hfresh
  case sources =>
    intro e he
    rcases List.mem_append.mp he with he | he
    · exact h.sources e he
    · obtain ⟨product, hproduct, rfl⟩ := List.mem_map.mp he
      exact ⟨t.chunk, h.mem_chunks ht, rfl, (stands.stocks.inserted asks hproduct).2⟩
  case stored =>
    intro id
    have hcount :
        ((added ++ (c.inserted (x.answer c).1).map (t.chunk.jobId, ·)).map (·.1)).count id =
        (added.map (·.1)).count id +
          if t.chunk.jobId = id then (c.inserted (x.answer c).1).length else 0 := by
      simp [Function.comp_def, List.count_replicate]
    rw [hcount]
    by_cases hid : t.chunk.jobId = id
    · subst hid
      have htally := Handling.tally_set_own (f := Handling.stored) at_ chunk
      have hstage := Stage.stored_of_asks asks fun f hf => ?_
      · have hstored := h.stored t.chunk.jobId
        rw [counters.1, if_pos rfl]
        unfold Handling.stored at htally hstored ⊢
        push_cast
        omega
      · have hwell := standing.goesWell
        rw [hf] at hwell
        obtain ⟨outcome, houtcome, -⟩ := hwell
        cases houtcome
    · rw [Handling.tally_set_of_eq at_ chunk fun h => absurd h hid, if_neg hid,
        (World.counters_congr (others hid)).1]
      exact h.stored id
  case rows =>
    intro id
    by_cases hid : t.chunk.jobId = id
    · subst hid
      have htally := Handling.tally_set_own (f := Handling.countedRows) at_ chunk
      have hrows := Handling.countedRows_of_asks chunk stands.fits asks
      have hbefore := h.rows t.chunk.jobId
      rw [counters.1, counters.2]
      unfold Call.rows at hrows
      omega
    · rw [Handling.tally_set_of_eq at_ chunk fun h => absurd h hid,
        (World.counters_congr (others hid)).1, (World.counters_congr (others hid)).2]
      exact h.rows id
  case jobs =>
    intro id other hother
    obtain ⟨other', hother', hfollows⟩ := h.jobs hother
    have hcounted : t.stage.isCounted = true → next.stage.isCounted = true := by
      intro counted
      rw [Stage.isCounted_of_asks asks, counted]
      rfl
    by_cases hid : t.chunk.jobId = id
    · subst hid
      obtain rfl := Option.some.inj (hother.symm.trans known)
      obtain rfl := Option.some.inj (hother'.symm.trans known')
      refine ⟨_, (System.get?_of_own_answer (s := ⟨x, [], [], []⟩) rfl create own).trans
        (congrArg (Option.map _) known'), ?_⟩
      exact h.follows_after filled at_ chunk asks known awaits known' hfollows
    · refine ⟨other', (others hid).trans hother', ?_⟩
      refine hfollows.set at_ chunk (fun h => ?_) hcounted rfl rfl
      exact absurd (h.trans (JobTable.id_of_get? hother)) hid

theorem start (available : w.Available) (chunks : List Chunk) :
    Sharing w chunks [] w (chunks.map (⟨·, .loading⟩)) := by
  have loading {t : Handling} (ht : t ∈ chunks.map (⟨·, .loading⟩)) : t.stage = .loading := by
    obtain ⟨chunk, -, rfl⟩ := List.mem_map.mp ht
    rfl
  have none {f : Stage → Int} (hf : f .loading = 0) (id : JobId) :
      Handling.tally (chunks.map (⟨·, .loading⟩)) id (fun t => f t.stage) = 0 := by
    refine Handling.tally_eq_zero fun t ht => ?_
    rw [loading ht]
    exact hf
  constructor
  case available => exact available
  case members =>
    rw [List.map_map]
    exact List.map_id' chunks
  case stands =>
    intro t ht
    obtain ⟨chunk, -, rfl⟩ := List.mem_map.mp ht
    exact ⟨trivial, trivial, (fun counted => by cases counted), trivial⟩
  case products => exact (List.append_nil _).symm
  case nodup => exact List.nodup_nil
  case fresh => exact fun _ hproduct => by cases hproduct
  case sources => exact fun _ he => by cases he
  case stored =>
    intro id
    rw [show Handling.tally _ id Handling.stored = 0 from none (f := Stage.stored) rfl id]
    rfl
  case rows =>
    intro id
    have hzero : Handling.tally (chunks.map (⟨·, .loading⟩)) id Handling.countedRows = 0 := by
      refine Handling.tally_eq_zero fun t ht => ?_
      unfold Handling.countedRows
      rw [loading ht]
      rfl
    rw [hzero, Int.add_zero]
  case jobs =>
    intro id job known
    refine ⟨job, known, rfl, .inl ⟨rfl, ?_⟩⟩
    refine Handling.tally_eq_zero fun t ht => ?_
    unfold Handling.completions
    rw [loading ht]
    rfl

theorem keeps (filled : ∀ chunk ∈ chunks, chunk.records ≠ [])
    (awaited : ∀ chunk ∈ chunks, ∃ job, w.jobs.get? chunk.jobId = some job ∧ job.Awaits chunks) :
    Handling.machine.Keeps World.host fun x ts => ∃ added, Sharing w chunks added x ts where
  go := by
    rintro x ts i t next ⟨added, h⟩ at_ hmove
    exact ⟨added, h.go at_ hmove⟩
  ask := by
    rintro x ts i t c next ⟨added, h⟩ at_ hmove -
    obtain ⟨chunk, asks⟩ := Handling.asks_of_move hmove (x.answer c).1
    exact ⟨_, h.ask filled awaited at_ chunk asks⟩
  happen := by
    rintro x ts ⟨added, h⟩ now
    exact ⟨added, { h with available := ⟨h.available.1, h.available.2, h.available.3⟩ }⟩

end Sharing

end CatalogIntake
