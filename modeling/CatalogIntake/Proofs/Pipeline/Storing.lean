import CatalogIntake.Proofs.Pipeline.Stage
import CatalogIntake.Proofs.Pipeline.Reading

namespace CatalogIntake

theorem Product.toOption_ofRecord {record : ProductRecord} {product : Product} :
    (ofRecord record).toOption = some product ↔ ofRecord record = .ok product := by
  cases ofRecord record <;> simp [Except.toOption]

theorem mapRecords_length (jobId : JobId) (records : List ProductRecord) :
    (mapRecords jobId records).1.length + (mapRecords jobId records).2.length =
      records.length := by
  induction records with
  | nil => rfl
  | cons record rest ih =>
    unfold mapRecords
    cases Product.ofRecord record with
    | ok product =>
      simp only [List.length_cons]
      omega
    | error fault =>
      simp only [List.length_cons]
      omega

def Call.counts : (c : Call) → c.Answer → Bool
  | .increment .., .ok _ => true
  | _, _ => false

def Stage.isCounted : Stage → Bool
  | checking _ | confirming _ => true
  | settled (.ok outcome) => !outcome.dropped
  | _ => false

namespace Stage

/-- The rows that are stored, those that are refused and those still to be tried are all rows of
the chunk. -/
def Fits (chunk : Chunk) : Stage → Prop
  | bulk mapped errors => mapped.length + errors.length = chunk.records.length
  | single processed errors rest =>
    0 ≤ processed ∧ processed + errors.length + rest.length = chunk.records.length
  | logging stored | counting stored | checking stored | confirming stored =>
    0 ≤ stored.processed ∧ stored.processed + stored.errors.length = chunk.records.length
  | _ => True

variable {chunk : Chunk} {stage next : Stage}

theorem isCounted_of_goes (h : Goes chunk stage next) :
    stage.isCounted = false ∧ next.isCounted = false := by
  cases h <;> exact ⟨rfl, rfl⟩

theorem isCounted_of_asks {c : Call} {answer : c.Answer} (h : Asks chunk stage c answer next) :
    next.isCounted = (stage.isCounted || c.counts answer) := by
  cases h <;> rfl

theorem not_isCounted_of_counts {c : Call} {answer : c.Answer}
    (h : Asks chunk stage c answer next) (counts : c.counts answer = true) :
    stage.isCounted = false := by
  cases h <;> first | rfl | cases counts

theorem Fits.goes (h : stage.Fits chunk) (goes : Goes chunk stage next) : next.Fits chunk := by
  cases goes with
  | mapped => exact mapRecords_length chunk.jobId chunk.records
  | turnedAway _ =>
    unfold Fits inactive
    simp
  | nothingMapped =>
    unfold Fits at h ⊢
    simp only [List.length_nil] at h ⊢
    omega
  | allTried =>
    unfold Fits at h ⊢
    simp only [List.length_nil] at h ⊢
    omega
  | nothingToLog _ => exact h

theorem Fits.asks (h : stage.Fits chunk) {c : Call} {answer : c.Answer}
    (asks : Asks chunk stage c answer next) : next.Fits chunk := by
  cases asks with
  | batched =>
    unfold Fits at h ⊢
    simp only at h ⊢
    omega
  | batchFailed =>
    unfold Fits at h ⊢
    omega
  | inserted =>
    unfold Fits at h ⊢
    simp only [List.length_cons] at h ⊢
    omega
  | insertFailed =>
    unfold Fits at h ⊢
    simp only [List.length_cons, List.length_append, List.length_nil] at h ⊢
    omega
  | logged _ => exact h
  | counted => exact h
  | completed => exact h
  | _ => trivial

theorem Fits.rows (h : stage.Fits chunk) {c : Call} {answer : c.Answer}
    (asks : Asks chunk stage c answer next) :
    c.rows answer = if c.counts answer then (chunk.records.length : Int) else 0 := by
  cases asks with
  | counted => exact h.2
  | _ => rfl

def stored : Stage → Int
  | single processed _ _ => processed
  | logging stored | counting stored => stored.processed
  | _ => 0

def logged : Stage → Int
  | counting stored => stored.errors.length
  | _ => 0

def errors : Stage → List ErrorCandidate
  | bulk _ errors | single _ errors _ => errors
  | logging stored | counting stored => stored.errors
  | _ => []

theorem stored_of_goes (h : Goes chunk stage next) : next.stored = stage.stored := by
  cases h <;> rfl

theorem logged_of_goes (h : Goes chunk stage next) : next.logged = stage.logged := by
  cases h with
  | nothingToLog clean =>
    simp [logged, clean]
  | _ => rfl

theorem stored_of_asks {c : Call} {answer : c.Answer} (h : Asks chunk stage c answer next)
    (kept : ∀ f, next ≠ settled (.error f)) :
    next.stored + c.processed answer = stage.stored + (c.inserted answer).length := by
  cases h with
  | @uncounted _ f => exact absurd rfl (kept _)
  | batched =>
    simp [stored, Call.processed, Call.inserted]
  | counted =>
    simp [stored, Call.processed, Call.inserted]
  | _ => simp [stored, Call.processed, Call.inserted]

theorem logged_of_asks {c : Call} {answer : c.Answer} (h : Asks chunk stage c answer next)
    (kept : ∀ f, next ≠ settled (.error f))
    (saves : ∀ candidates, c = .saveErrors candidates → c.saved answer = candidates) :
    next.logged + c.failed answer = stage.logged + (c.saved answer).length := by
  cases h with
  | @uncounted _ f => exact absurd rfl (kept _)
  | logged any =>
    rw [saves _ rfl]
    simp [logged, Call.failed]
  | _ => simp [logged, Call.failed, Call.saved]

theorem mapRecords_errors (jobId : JobId) (records : List ProductRecord) :
    ∀ e ∈ (mapRecords jobId records).2, e.jobId = jobId := by
  induction records with
  | nil => exact fun e he => by cases he
  | cons record rest ih =>
    intro e he
    unfold mapRecords at he
    cases hmap : Product.ofRecord record with
    | ok product =>
      rw [hmap] at he
      exact ih e he
    | error fault =>
      rw [hmap] at he
      rcases List.mem_cons.mp he with rfl | he
      · rfl
      · exact ih e he

theorem errors_of_goes (h : Goes chunk stage next)
    (named : ∀ e ∈ stage.errors, e.jobId = chunk.jobId) :
    ∀ e ∈ next.errors, e.jobId = chunk.jobId := by
  cases h with
  | mapped => exact mapRecords_errors chunk.jobId chunk.records
  | turnedAway _ =>
    intro e he
    obtain ⟨record, -, rfl⟩ := List.mem_map.mp he
    rfl
  | nothingMapped => exact named
  | allTried => exact named
  | nothingToLog _ => exact named

theorem errors_of_asks {c : Call} {answer : c.Answer} (h : Asks chunk stage c answer next)
    (named : ∀ e ∈ stage.errors, e.jobId = chunk.jobId) :
    ∀ e ∈ next.errors, e.jobId = chunk.jobId := by
  cases h with
  | insertFailed =>
    intro e he
    rcases List.mem_append.mp he with he | he
    · exact named e he
    · rw [List.mem_singleton.mp he]
      rfl
  | batched => exact named
  | batchFailed => exact named
  | inserted => exact named
  | logged _ => exact named
  | _ => exact fun e he => by cases he

theorem saved_of_asks {c : Call} {answer : c.Answer} (h : Asks chunk stage c answer next) :
    c.saved answer ⊆ stage.errors := by
  cases h with
  | @logged stored answer _ =>
    cases answer with
    | ok _ => exact List.Subset.refl _
    | error f => exact List.nil_subset _
  | _ => exact List.nil_subset _

def Tried (chunk : Chunk) (ids : List String) : Prop :=
  ∀ record ∈ chunk.records, ∀ product, Product.ofRecord record = .ok product →
    product.internalId ∈ ids

/-- What is still to be tried comes from the chunk, and the rest has been tried. -/
def Left (chunk : Chunk) (ids : List String) (rest : List (ProductRecord × Product)) : Prop :=
  (∀ q ∈ rest, q.1 ∈ chunk.records ∧ Product.ofRecord q.1 = .ok q.2) ∧
    ∀ record ∈ chunk.records, ∀ product, Product.ofRecord record = .ok product →
      product.internalId ∈ ids ∨ (record, product) ∈ rest

def Stocks (chunk : Chunk) (ids : List String) : Stage → Prop
  | bulk mapped _ => Left chunk ids mapped
  | single _ _ rest => Left chunk ids rest
  | logging _ | counting _ => Tried chunk ids
  | _ => True

variable {ids more : List String}

theorem Tried.mono (h : Tried chunk ids) (grows : ids ⊆ more) : Tried chunk more :=
  fun record hrecord product hproduct => grows (h record hrecord product hproduct)

theorem Left.mono {rest : List (ProductRecord × Product)} (h : Left chunk ids rest)
    (grows : ids ⊆ more) : Left chunk more rest := by
  refine ⟨h.1, ?_⟩
  intro record hrecord product hproduct
  rcases h.2 record hrecord product hproduct with hids | hrest
  · exact .inl (grows hids)
  · exact .inr hrest

theorem Stocks.mono (h : stage.Stocks chunk ids) (grows : ids ⊆ more) :
    stage.Stocks chunk more := by
  cases stage with
  | bulk mapped errors => exact Left.mono h grows
  | single processed errors rest => exact Left.mono h grows
  | logging stored => exact Tried.mono h grows
  | counting stored => exact Tried.mono h grows
  | _ => trivial

theorem mem_mapRecords (jobId : JobId) (records : List ProductRecord) (record : ProductRecord)
    (product : Product) :
    (record, product) ∈ (mapRecords jobId records).1 ↔
      record ∈ records ∧ Product.ofRecord record = .ok product := by
  induction records with
  | nil => simp [mapRecords]
  | cons first rest ih =>
    unfold mapRecords
    cases hmap : Product.ofRecord first with
    | ok stored =>
      simp only [List.mem_cons, Prod.mk.injEq, ih]
      constructor
      · rintro (⟨rfl, rfl⟩ | ⟨hmem, hproduct⟩)
        · exact ⟨.inl rfl, hmap⟩
        · exact ⟨.inr hmem, hproduct⟩
      · rintro ⟨rfl | hmem, hproduct⟩
        · rw [hmap] at hproduct
          exact .inl ⟨rfl, (Except.ok.inj hproduct).symm⟩
        · exact .inr ⟨hmem, hproduct⟩
    | error fault =>
      simp only [ih, List.mem_cons]
      constructor
      · rintro ⟨hmem, hproduct⟩
        exact ⟨.inr hmem, hproduct⟩
      · rintro ⟨rfl | hmem, hproduct⟩
        · rw [hmap] at hproduct
          cases hproduct
        · exact ⟨hmem, hproduct⟩

theorem Left.tried (h : Left chunk ids []) : Tried chunk ids := by
  intro record hrecord product hproduct
  rcases h.2 record hrecord product hproduct with hids | hrest
  · exact hids
  · cases hrest

theorem Stocks.goes (h : stage.Stocks chunk ids) (goes : Goes chunk stage next)
    (active : ∀ status, stage = loaded status → status = .processing) : next.Stocks chunk ids := by
  cases goes with
  | mapped =>
    constructor
    · intro q hq
      exact (mem_mapRecords chunk.jobId chunk.records q.1 q.2).mp hq
    · intro record hrecord product hproduct
      exact .inr ((mem_mapRecords _ _ _ _).mpr ⟨hrecord, hproduct⟩)
  | turnedAway inactive_ => exact absurd (active _ rfl) inactive_
  | nothingMapped => exact Left.tried h
  | allTried => exact Left.tried h
  | nothingToLog _ => exact h

/-- What a call has inserted is there, and what it could not insert was there before. -/
theorem Stocks.asks (h : stage.Stocks chunk ids) {c : Call} {answer : c.Answer}
    (asks : Asks chunk stage c answer next) (grows : ids ⊆ more)
    (inserted : ∀ product ∈ c.inserted answer, product.internalId ∈ more)
    (refused : ∀ product f, c = .insertOne product → answer ≍ (.error f : Outcome Unit) →
      product.internalId ∈ ids) : next.Stocks chunk more := by
  cases asks with
  | batched =>
    intro record hrecord product hproduct
    rcases h.2 record hrecord product hproduct with hids | hrest
    · exact grows hids
    · exact inserted product (List.mem_map_of_mem hrest)
  | batchFailed => exact Left.mono h grows
  | @inserted processed errors record product rest =>
    refine ⟨fun q hq => h.1 q (List.mem_cons_of_mem _ hq), ?_⟩
    intro record' hrecord' product' hproduct'
    rcases h.2 record' hrecord' product' hproduct' with hids | hrest
    · exact .inl (grows hids)
    · rcases List.mem_cons.mp hrest with hhead | hrest
      · cases hhead
        exact .inl (inserted product List.mem_cons_self)
      · exact .inr hrest
  | @insertFailed processed errors record product rest f =>
    refine ⟨fun q hq => h.1 q (List.mem_cons_of_mem _ hq), ?_⟩
    intro record' hrecord' product' hproduct'
    rcases h.2 record' hrecord' product' hproduct' with hids | hrest
    · exact .inl (grows hids)
    · rcases List.mem_cons.mp hrest with hhead | hrest
      · cases hhead
        exact .inl (grows (refused product f rfl HEq.rfl))
      · exact .inr hrest
  | logged _ => exact Tried.mono h grows
  | _ => trivial

theorem Stocks.inserted (h : stage.Stocks chunk ids) {c : Call} {answer : c.Answer}
    (asks : Asks chunk stage c answer next) {product : Product}
    (hproduct : product ∈ c.inserted answer) : stage.isCounted = false ∧
      ∃ record ∈ chunk.records, Product.ofRecord record = .ok product := by
  cases asks with
  | batched =>
    obtain ⟨q, hq, rfl⟩ := List.mem_map.mp hproduct
    obtain ⟨hrecord, hmapped⟩ := h.1 q hq
    exact ⟨rfl, q.1, hrecord, hmapped⟩
  | inserted =>
    obtain rfl := List.mem_singleton.mp hproduct
    obtain ⟨hrecord, hmapped⟩ := h.1 _ List.mem_cons_self
    exact ⟨rfl, _, hrecord, hmapped⟩
  | _ => cases hproduct

theorem Stocks.tried (h : stage.Stocks chunk ids) {c : Call} {answer : c.Answer}
    (asks : Asks chunk stage c answer next) (counts : c.counts answer = true) :
    Tried chunk ids := by
  cases asks with
  | counted => exact h
  | _ => cases counts

end Stage

end CatalogIntake
