import CatalogIntake.Proofs.Pipeline.Storing

/-!
Where the texts of diagnostics come from. The errors that a producer has pending are lines of its
source that gave no record, and it gives up for a reason that its source or an answer has given. The
errors of a worker are records of its chunk, with the fault of the record, the status of the job or
the answer of the catalogue.
-/

namespace CatalogIntake

def Call.reported (attempts : Nat) : Call → Failure → Failure
  | .publish chunk, f => f.during (.publishChunk chunk.number (.ofNat attempts))
  | .finalizeTotal .., f => f.during .recordTotal
  | .completeIfDone id, f => f.during (.checkCompletion id)
  | _, f => f

/-- Why a source has not been imported to its end, in full. The producer has been answered in these
ways. -/
inductive StopReason (jobId : JobId) (source : List RowEvent)
    (answered : (c : Call) → c.Answer → Prop) : String → Prop
  | fault {fault : SourceFault} (row : .fault fault ∈ source) :
      StopReason jobId source answered fault.text
  | noRows (records : RowEvent.records source = []) (rejections : RowEvent.rejections source = 0) :
      StopReason jobId source answered ProducerRun.emptySourceReason
  | jobGone (found : answered (.getJob jobId) (.ok none)) :
      StopReason jobId source answered "import job disappeared"
  | inactive {job : Job} (found : answered (.getJob jobId) (.ok (some job)))
      (processing : job.status ≠ .processing) (cancelled : job.status ≠ .cancelled) :
      StopReason jobId source answered s!"job left processing state ({job.status.name})"
  | unanswered {c : Call} {f : Failure} (attempts : Nat) (failed : answered c (.error f)) :
      StopReason jobId source answered (c.reported attempts f).text

/-- Why a record of the chunk has not been stored, in full. The worker has been answered in these
ways. -/
inductive Refusal (chunk : Chunk) (answered : (c : Call) → c.Answer → Prop)
    (record : ProductRecord) : String → Prop
  | unmapped {fault : MappingFault} (maps : Product.ofRecord record = .error fault) :
      Refusal chunk answered record fault.text
  | inactive {job : Job} (found : answered (.getJob chunk.jobId) (.ok (some job)))
      (processing : job.status ≠ .processing) :
      Refusal chunk answered record (inactiveMessage job.status)
  | notInserted {product : Product} {f : Failure} (maps : Product.ofRecord record = .ok product)
      (failed : answered (.insertOne product) (.error f)) : Refusal chunk answered record f.text

def RowEvent.Rejects (source : List RowEvent) (e : ErrorCandidate) : Prop :=
  ∃ rowNumber message raw, .rejected rowNumber message raw ∈ source ∧
    e = .bounded e.jobId (some rowNumber) message raw

def Chunk.Refuses (chunk : Chunk) (answered : (c : Call) → c.Answer → Prop)
    (e : ErrorCandidate) : Prop :=
  ∃ record ∈ chunk.records, ∃ message, Refusal chunk answered record message ∧
    e = .ofRecord chunk.jobId record message

section Growing

variable {answered more : (c : Call) → c.Answer → Prop} {chunk : Chunk} {text : String}

theorem StopReason.mono {jobId : JobId} {source : List RowEvent}
    (h : StopReason jobId source answered text)
    (grows : ∀ {c : Call} {answer : c.Answer}, answered c answer → more c answer) :
    StopReason jobId source more text := by
  cases h with
  | fault row => exact .fault row
  | noRows records rejections => exact .noRows records rejections
  | jobGone found => exact .jobGone (grows found)
  | inactive found processing cancelled => exact .inactive (grows found) processing cancelled
  | unanswered attempts failed => exact .unanswered attempts (grows failed)

theorem Refusal.mono {record : ProductRecord} (h : Refusal chunk answered record text)
    (grows : ∀ {c : Call} {answer : c.Answer}, answered c answer → more c answer) :
    Refusal chunk more record text := by
  cases h with
  | unmapped maps => exact .unmapped maps
  | inactive found processing => exact .inactive (grows found) processing
  | notInserted maps failed => exact .notInserted maps (grows failed)

theorem Chunk.Refuses.mono {e : ErrorCandidate} (h : chunk.Refuses answered e)
    (grows : ∀ {c : Call} {answer : c.Answer}, answered c answer → more c answer) :
    chunk.Refuses more e := by
  obtain ⟨record, member, message, refusal, rfl⟩ := h
  exact ⟨record, member, message, refusal.mono grows, rfl⟩

end Growing

theorem ProducerRun.mem_reject {settings : ImportSettings} {rowNumber : Int} {message : String}
    {raw : Option String} {run : ProducerRun} {e : ErrorCandidate}
    (he : e ∈ (reject settings rowNumber message raw run).pendingErrors) :
    e ∈ run.pendingErrors ∨ e = .bounded run.jobId (some rowNumber) message raw := by
  unfold reject at he
  cases hpolicy : settings.parseFailures with
  | count =>
    rw [hpolicy] at he
    simpa using he
  | logOnly =>
    rw [hpolicy] at he
    exact .inl he

namespace Producing

variable {settings : ImportSettings} {p next : Producing} {source : List RowEvent}
  {answered : (c : Call) → c.Answer → Prop} {reason : String}

theorem Goes.rejects (h : ∀ e ∈ p.run.pendingErrors, RowEvent.Rejects source e)
    (suffix : p.unread <:+ source) (goes : Goes settings p next) :
    ∀ e ∈ next.run.pendingErrors, RowEvent.Rejects source e := by
  cases goes with
  | @taken event rest _ unread =>
    have hevent : event ∈ source := suffix.subset (by simp [unread])
    cases event with
    | rejected rowNumber message raw =>
      intro e he
      rcases ProducerRun.mem_reject he with he | rfl
      · exact h e he
      · exact ⟨rowNumber, message, raw, hevent, rfl⟩
    | _ => exact h
  | nothingToFlush _ _ =>
    rw [proceed_run]
    exact h
  | _ => exact h

theorem Asks.pending {c : Call} {answer : c.Answer} (h : Asks settings p c answer next) :
    next.run.pendingErrors ⊆ p.run.pendingErrors := by
  cases h with
  | logged _ _ => exact List.nil_subset _
  | counted _ =>
    rw [proceed_run]
    exact List.Subset.refl _
  | _ => exact List.Subset.refl _

/-- A source that has been read to its end without a row has none. -/
theorem stopReason_of_proceed {published : List Chunk} {flushed : Int} {atEnd : Bool}
    (reads : Reads settings source published flushed p) (ended : p.point.atEnd = atEnd)
    (failing : (p.proceed atEnd).point = .failing reason) :
    StopReason p.run.jobId source answered reason := by
  unfold proceed at failing
  split at failing
  · rename_i hend
    split at failing
    · rename_i hrows
      obtain rfl := Point.failing.inj failing
      have hunread : p.unread = [] := reads.unread (ended.trans hend)
      have hread := reads.rowsRead
      rw [hrows, hunread] at hread
      simp only [RowEvent.records, RowEvent.rejections, List.filterMap_nil, List.length_nil,
        List.countP_nil] at hread
      refine .noRows (List.length_eq_zero_iff.mp ?_) ?_
      · unfold RowEvent.records
        omega
      · unfold RowEvent.rejections
        omega
    · cases failing
  · cases failing

theorem Goes.stopReason {published : List Chunk} {flushed : Int}
    (reads : Reads settings source published flushed p) (goes : Goes settings p next)
    (failing : next.point = .failing reason) : StopReason p.run.jobId source answered reason := by
  cases goes with
  | @taken event rest _ unread =>
    have hevent : event ∈ source := reads.suffix.subset (by simp [unread])
    cases event with
    | fault fault =>
      obtain rfl := Point.failing.inj failing
      exact .fault hevent
    | _ =>
      simp only [onEvent] at failing
      split at failing <;> cases failing
  | nothingToFlush at_ _ => exact stopReason_of_proceed reads (by rw [at_]; rfl) failing
  | _ => cases failing

theorem Asks.stopReason {published : List Chunk} {flushed : Int} {c : Call} {answer : c.Answer}
    (reads : Reads settings source published flushed p) (asks : Asks settings p c answer next)
    (recorded : c.published? answer = none → answered c answer)
    (failing : next.point = .failing reason) : StopReason p.run.jobId source answered reason := by
  cases asks with
  | jobUnavailable _ _ =>
    obtain rfl := Point.failing.inj failing
    exact .unanswered 0 (recorded rfl)
  | jobGone _ _ =>
    obtain rfl := Point.failing.inj failing
    exact .jobGone (recorded rfl)
  | inactive _ _ processing cancelled =>
    obtain rfl := Point.failing.inj failing
    exact .inactive (recorded rfl) processing cancelled
  | @notPublished _ chunk attempts f _ =>
    obtain rfl := Point.failing.inj failing
    exact .unanswered (c := .publish chunk) (attempts + 1) (recorded rfl)
  | uncounted _ =>
    obtain rfl := Point.failing.inj failing
    exact .unanswered (c := .increment ..) 0 (recorded rfl)
  | counted at_ => exact stopReason_of_proceed reads (by rw [at_]; rfl) failing
  | notTotalled _ =>
    obtain rfl := Point.failing.inj failing
    exact .unanswered (c := .finalizeTotal ..) 0 (recorded rfl)
  | unchecked _ =>
    obtain rfl := Point.failing.inj failing
    exact .unanswered (c := .completeIfDone _) 0 (recorded rfl)
  | unconfirmed _ =>
    obtain rfl := Point.failing.inj failing
    exact .unanswered (c := .getJob _) 0 (recorded rfl)
  | _ => cases failing

end Producing

namespace Stage

variable {chunk : Chunk} {stage next : Stage} {answered more : (c : Call) → c.Answer → Prop}

def mapped : Stage → List (ProductRecord × Product)
  | bulk mapped _ => mapped
  | single _ _ rest => rest
  | _ => []

/-- All that a worker has in hand comes from its chunk and from what it has been answered. -/
structure Traced (chunk : Chunk) (answered : (c : Call) → c.Answer → Prop) (stage : Stage) :
    Prop where
  found : ∀ status, stage = loaded status →
    ∃ job, answered (.getJob chunk.jobId) (.ok (some job)) ∧ job.status = status
  mapped : ∀ q ∈ stage.mapped, q.1 ∈ chunk.records ∧ Product.ofRecord q.1 = .ok q.2
  errors : ∀ e ∈ stage.errors, chunk.Refuses answered e

theorem Traced.mono (h : stage.Traced chunk answered)
    (grows : ∀ {c : Call} {answer : c.Answer}, answered c answer → more c answer) :
    stage.Traced chunk more where
  found := by
    intro status hstage
    obtain ⟨job, hfound, hstatus⟩ := h.found status hstage
    exact ⟨job, grows hfound, hstatus⟩
  mapped := h.mapped
  errors := fun e he => (h.errors e he).mono grows

theorem traced_loading (chunk : Chunk) (answered : (c : Call) → c.Answer → Prop) :
    loading.Traced chunk answered where
  found := fun _ h => by cases h
  mapped := fun _ h => by cases h
  errors := fun _ h => by cases h

theorem mem_errors_mapRecords {jobId : JobId} {records : List ProductRecord} {e : ErrorCandidate}
    (he : e ∈ (mapRecords jobId records).2) :
    ∃ record ∈ records, ∃ fault, Product.ofRecord record = .error fault ∧
      e = .ofRecord jobId record fault.text := by
  induction records with
  | nil => cases he
  | cons first rest ih =>
    have later (he : e ∈ (mapRecords jobId rest).2) :
        ∃ record ∈ first :: rest, ∃ fault, Product.ofRecord record = .error fault ∧
          e = .ofRecord jobId record fault.text := by
      obtain ⟨record, member, h⟩ := ih he
      exact ⟨record, List.mem_cons_of_mem first member, h⟩
    unfold mapRecords at he
    cases hmap : Product.ofRecord first with
    | ok product =>
      rw [hmap] at he
      exact later he
    | error fault =>
      rw [hmap] at he
      rcases List.mem_cons.mp he with rfl | he
      · exact ⟨first, List.mem_cons_self, fault, hmap, rfl⟩
      · exact later he

theorem Traced.goes (h : stage.Traced chunk answered) (goes : Goes chunk stage next) :
    next.Traced chunk answered := by
  constructor
  case found =>
    rintro status rfl
    cases goes
  case mapped =>
    cases goes with
    | mapped =>
      intro q hq
      exact (mem_mapRecords chunk.jobId chunk.records q.1 q.2).mp hq
    | _ => exact fun q hq => by cases hq
  case errors =>
    cases goes with
    | mapped =>
      intro e he
      obtain ⟨record, member, fault, maps, rfl⟩ := mem_errors_mapRecords he
      exact ⟨record, member, _, .unmapped maps, rfl⟩
    | @turnedAway status inactive_ =>
      obtain ⟨job, hfound, rfl⟩ := h.found status rfl
      intro e he
      obtain ⟨record, member, rfl⟩ := List.mem_map.mp he
      exact ⟨record, member, _, .inactive hfound inactive_, rfl⟩
    | nothingMapped | allTried | nothingToLog _ => exact h.errors

theorem Traced.asks (h : stage.Traced chunk answered) {c : Call} {answer : c.Answer}
    (asks : Asks chunk stage c answer next) (recorded : answered c answer) :
    next.Traced chunk answered := by
  constructor
  case found =>
    rintro status rfl
    cases asks with
    | found => exact ⟨_, recorded, rfl⟩
  case mapped =>
    cases asks with
    | batchFailed => exact h.mapped
    | inserted | insertFailed => exact fun q hq => h.mapped q (List.mem_cons_of_mem _ hq)
    | _ => exact fun q hq => by cases hq
  case errors =>
    cases asks with
    | batched | batchFailed | inserted | logged _ => exact h.errors
    | @insertFailed processed errors record product rest f =>
      intro e he
      rcases List.mem_append.mp he with he | he
      · exact h.errors e he
      · obtain ⟨member, maps⟩ := h.mapped (record, product) List.mem_cons_self
        exact ⟨record, member, f.text, .notInserted maps recorded, List.mem_singleton.mp he⟩
    | _ => exact fun e he => by cases he

/-- A product is inserted before the rows of its chunk are counted, and a record of it gave it. -/
theorem Traced.inserted (h : stage.Traced chunk answered) {c : Call} {answer : c.Answer}
    (asks : Asks chunk stage c answer next) {product : Product}
    (hproduct : product ∈ c.inserted answer) : stage.isCounted = false ∧
      ∃ record ∈ chunk.records, Product.ofRecord record = .ok product := by
  cases asks with
  | batched =>
    obtain ⟨q, hq, rfl⟩ := List.mem_map.mp hproduct
    obtain ⟨member, maps⟩ := h.mapped q hq
    exact ⟨rfl, q.1, member, maps⟩
  | inserted =>
    obtain rfl := List.mem_singleton.mp hproduct
    obtain ⟨member, maps⟩ := h.mapped _ List.mem_cons_self
    exact ⟨rfl, _, member, maps⟩
  | _ => cases hproduct

/-- The errors of a chunk are dealt with before its rows are counted. -/
theorem isCounted_of_mem_errors {e : ErrorCandidate} (he : e ∈ stage.errors) :
    stage.isCounted = false := by
  cases stage with
  | bulk _ _ | single _ _ _ | logging _ | counting _ => rfl
  | _ => cases he

end Stage

end CatalogIntake
