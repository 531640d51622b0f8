import CatalogIntake.Proofs.Consumer.Conservation

/-!
A batch with its fallback against inserting row by row. With the catalogue available both leave
the same products in the same order; what a consumer reports as failed are the records that give
no product and those whose internal id is taken, and it falls back just when there is one of the
latter.
-/

namespace CatalogIntake

open Concurrency

inductive Mishap
  | unmappable (fault : MappingFault)
  /-- A product with this internal id is there already. -/
  | repeated (internalId : String)

namespace Mishap

def text : Mishap → String
  | unmappable fault => fault.text
  | repeated internalId => (Failure.of (.duplicateProduct internalId)).text

def isRepeated : Mishap → Bool
  | unmappable _ => false
  | repeated _ => true

def find? (taken : List String) (record : ProductRecord) : Option Mishap :=
  match Product.ofRecord record with
  | .error fault => some (unmappable fault)
  | .ok product =>
    if product.internalId ∈ taken then some (repeated product.internalId) else none

end Mishap

def productsOf (records : List ProductRecord) : List Product :=
  records.filterMap fun record => (Product.ofRecord record).toOption

/-- What befalls the record at a place: the ids in stock are taken, and those of the records before
it that give a product. -/
def mishapAt? (stock : List String) (records : List ProductRecord) (k : Nat) :
    Option (ProductRecord × Mishap) := do
  let record ← records[k]?
  let mishap ← Mishap.find? (stock ++ (productsOf (records.take k)).map (·.internalId)) record
  return (record, mishap)

def mishaps (stock : List String) (records : List ProductRecord) : List (ProductRecord × Mishap) :=
  (List.range records.length).filterMap (mishapAt? stock records)

def Catalogue.insertEach (catalogue : Catalogue) (products : List Product) : Catalogue :=
  products.foldl (fun catalogue product => (catalogue.insertOne product).2) catalogue

namespace Catalogue

variable {catalogue : Catalogue} {batch : List Product}

theorem insertEach_cons (catalogue : Catalogue) (product : Product) (rest : List Product) :
    catalogue.insertEach (product :: rest) = (catalogue.insertOne product).2.insertEach rest := rfl

/-- A batch of new ids goes in product by product as it goes in at once. -/
theorem insertEach_of_fresh (available : catalogue.available = true)
    (fresh : Fresh catalogue.ids batch) :
    catalogue.insertEach batch = { catalogue with products := catalogue.products ++ batch } := by
  induction batch generalizing catalogue with
  | nil =>
    rw [List.append_nil]
    rfl
  | cons product rest ih =>
    obtain ⟨hnodup, hfresh⟩ := fresh
    rw [List.map_cons, List.nodup_cons] at hnodup
    obtain ⟨hfirst, hrest⟩ := List.forall_mem_cons.mp hfresh
    have hinsert := insertOne_of_available available product
    rw [if_neg hfirst] at hinsert
    rw [insertEach_cons, hinsert]
    refine (@ih { catalogue with products := catalogue.products ++ [product] } available
      ⟨hnodup.2, ?_⟩).trans ?_
    · intro later hlater hin
      rw [ids, List.map_append, List.mem_append] at hin
      rcases hin with hin | hsame
      · exact hrest later hlater hin
      · have hid : later.internalId = product.internalId := List.mem_singleton.mp hsame
        exact hnodup.1 (hid ▸ List.mem_map_of_mem hlater)
    · simp

end Catalogue

section Records

variable {stock taken : List String} {record : ProductRecord} {rest : List ProductRecord}
  {product : Product} {fault : MappingFault}

theorem productsOf_cons_of_ok (maps : Product.ofRecord record = .ok product) :
    productsOf (record :: rest) = product :: productsOf rest := by
  simp [productsOf, maps, Except.toOption]

theorem productsOf_cons_of_error (maps : Product.ofRecord record = .error fault) :
    productsOf (record :: rest) = productsOf rest := by
  simp [productsOf, maps, Except.toOption]

theorem productsOf_eq (jobId : JobId) (records : List ProductRecord) :
    productsOf records = (mapRecords jobId records).1.map (·.2) := by
  induction records with
  | nil => rfl
  | cons record rest ih =>
    unfold mapRecords
    cases hmap : Product.ofRecord record with
    | ok product => rw [productsOf_cons_of_ok hmap, ih, List.map_cons]
    | error fault => rw [productsOf_cons_of_error hmap, ih]

/-- The records behind the first one find its internal id taken as well, if it gives a product. -/
theorem mishaps_cons (stock : List String) (record : ProductRecord) (rest : List ProductRecord) :
    mishaps stock (record :: rest) =
      (Mishap.find? stock record).toList.map (record, ·) ++
        mishaps (stock ++ (productsOf [record]).map (·.internalId)) rest := by
  have hfirst : mishapAt? stock (record :: rest) 0 =
      (Mishap.find? stock record).map (record, ·) := by
    have hstock : stock ++ (productsOf []).map (·.internalId) = stock := List.append_nil _
    unfold mishapAt?
    rw [List.take_zero, hstock, Option.map_eq_bind]
    rfl
  have hrest (k : Nat) : mishapAt? stock (record :: rest) (k + 1) =
      mishapAt? (stock ++ (productsOf [record]).map (·.internalId)) rest k := by
    have hids : (productsOf (record :: rest.take k)).map (·.internalId) =
        (productsOf [record]).map (·.internalId) ++
          (productsOf (rest.take k)).map (·.internalId) := by
      rw [← List.map_append, productsOf, productsOf, productsOf, ← List.filterMap_append]
      rfl
    unfold mishapAt?
    rw [List.getElem?_cons_succ, List.take_succ_cons, hids, List.append_assoc]
  unfold mishaps
  rw [List.length_cons, List.range_succ_eq_map, List.filterMap_cons, hfirst, List.filterMap_map]
  have hsame : mishapAt? stock (record :: rest) ∘ Nat.succ =
      mishapAt? (stock ++ (productsOf [record]).map (·.internalId)) rest := funext hrest
  rw [hsame]
  cases Mishap.find? stock record <;> rfl

def Mishap.candidate (jobId : JobId) (m : ProductRecord × Mishap) : ErrorCandidate :=
  .ofRecord jobId m.1 m.2.text

/-- The errors of mapped records that find their internal ids taken when it is their turn. -/
def repeats (jobId : JobId) (taken : List String) :
    List (ProductRecord × Product) → List ErrorCandidate
  | [] => []
  | (record, product) :: rest =>
    if product.internalId ∈ taken then
      Mishap.candidate jobId (record, .repeated product.internalId) :: repeats jobId taken rest
    else repeats jobId (taken ++ [product.internalId]) rest

theorem repeats_eq_nil_iff (jobId : JobId) (taken : List String)
    (mapped : List (ProductRecord × Product)) :
    repeats jobId taken mapped = [] ↔ Catalogue.Fresh taken (mapped.map (·.2)) := by
  induction mapped generalizing taken with
  | nil => simp [repeats, Catalogue.Fresh]
  | cons first rest ih =>
    obtain ⟨record, product⟩ := first
    unfold repeats
    by_cases hin : product.internalId ∈ taken
    · simp [hin, Catalogue.Fresh]
    · rw [if_neg hin, ih]
      unfold Catalogue.Fresh
      rw [List.map_cons, List.map_cons, List.nodup_cons]
      simp only [List.mem_append, List.mem_singleton, not_or, List.forall_mem_cons]
      constructor
      · rintro ⟨hnodup, hfresh⟩
        refine ⟨⟨?_, hnodup⟩, hin, fun later hlater => (hfresh later hlater).1⟩
        intro hlater
        obtain ⟨later, hmem, hsame⟩ := List.mem_map.mp hlater
        exact (hfresh later hmem).2 hsame
      · rintro ⟨⟨hfirst, hnodup⟩, -, hfresh⟩
        refine ⟨hnodup, fun later hlater => ⟨hfresh later hlater, ?_⟩⟩
        intro hsame
        exact hfirst (hsame ▸ List.mem_map_of_mem hlater)

/-- What a consumer reports, the unmappable records before all others, are the mishaps. -/
theorem repeats_perm_mishaps (jobId : JobId) (records : List ProductRecord)
    (same : ∀ internalId, internalId ∈ taken ↔ internalId ∈ stock) :
    ((mapRecords jobId records).2 ++ repeats jobId taken (mapRecords jobId records).1).Perm
        ((mishaps stock records).map (Mishap.candidate jobId)) ∧
      (repeats jobId taken (mapRecords jobId records).1 ≠ [] ↔
        ∃ m ∈ mishaps stock records, m.2.isRepeated = true) := by
  -- `stock` lists a repeated id once more and `taken` does not, so only membership is compared
  induction records generalizing stock taken with
  | nil => simp [mapRecords, repeats, mishaps]
  | cons record rest ih =>
    rw [mishaps_cons]
    unfold mapRecords
    cases hmap : Product.ofRecord record with
    | error fault =>
      have hfind : Mishap.find? stock record = some (.unmappable fault) := by
        simp [Mishap.find?, hmap]
      have hmore : stock ++ (productsOf [record]).map (·.internalId) = stock := by
        rw [productsOf_cons_of_error hmap]
        exact List.append_nil _
      obtain ⟨hperm, hrepeated⟩ := ih same
      rw [hfind, hmore]
      refine ⟨hperm.cons _, ?_⟩
      simpa [Mishap.isRepeated] using hrepeated
    | ok product =>
      have hmore : stock ++ (productsOf [record]).map (·.internalId) =
          stock ++ [product.internalId] := by
        rw [productsOf_cons_of_ok hmap]
        rfl
      rw [hmore]
      by_cases hin : product.internalId ∈ taken
      · have hfind : Mishap.find? stock record = some (.repeated product.internalId) := by
          simp [Mishap.find?, hmap, (same _).mp hin]
        have hsame (internalId : String) :
            internalId ∈ taken ↔ internalId ∈ stock ++ [product.internalId] := by
          rw [List.mem_append, List.mem_singleton, same]
          exact ⟨.inl, fun h => h.elim id fun h => h ▸ (same _).mp hin⟩
        obtain ⟨hperm, -⟩ := ih hsame
        rw [hfind]
        simp only [repeats, if_pos hin]
        refine ⟨List.perm_middle.trans (hperm.cons _), ?_⟩
        simp [Mishap.isRepeated]
      · have hout : product.internalId ∉ stock := fun h => hin ((same _).mpr h)
        have hfind : Mishap.find? stock record = none := by
          simp [Mishap.find?, hmap, hout]
        have hsame (internalId : String) : internalId ∈ taken ++ [product.internalId] ↔
            internalId ∈ stock ++ [product.internalId] := by
          rw [List.mem_append, List.mem_append, same]
        obtain ⟨hperm, hrepeated⟩ := ih hsame
        rw [hfind]
        simp only [repeats, if_neg hin]
        exact ⟨hperm, hrepeated⟩

end Records

namespace Bench

variable {x : Bench}

/-- A catalogue that stays available is to a call what it was after the call before. -/
theorem Steady.products_met (h : x.Steady .products) : x.met.products = x.world.products := by
  have hlist := x.products_met
  have hmet : x.met.products.available = true := h.met
  have hworld : x.world.products.available = true := h.available
  generalize x.met.products = a at hlist hmet
  generalize x.world.products = b at hlist hworld
  obtain ⟨products, available⟩ := a
  obtain ⟨products', available'⟩ := b
  cases hlist
  cases hmet
  cases hworld
  rfl

theorem insertOne_cases (steady : x.Steady .products) (product : Product) :
    let y := (x.answer (.insertOne product)).2
    y.world.products = (x.world.products.insertOne product).2 ∧
      if product.internalId ∈ x.world.products.ids then
        (x.answer (.insertOne product)).1 = .fail (.duplicateProduct product.internalId) ∧
          y.world.products = x.world.products
      else (x.answer (.insertOne product)).1 = .ok () ∧
        y.world.products.ids = x.world.products.ids ++ [product.internalId] := by
  have hinsert := Catalogue.insertOne_of_available steady.available product
  show (x.met.products.insertOne product).2 = _ ∧ if _ then
    (x.met.products.insertOne product).1 = _ ∧ (x.met.products.insertOne product).2 = _ else
    (x.met.products.insertOne product).1 = _ ∧ (x.met.products.insertOne product).2.ids = _
  rw [steady.products_met]
  refine ⟨rfl, ?_⟩
  rw [hinsert]
  split
  · exact ⟨rfl, rfl⟩
  · refine ⟨rfl, ?_⟩
    simp [Catalogue.ids]

theorem storeEach_agrees (steady : x.Steady .products) (jobId : JobId) (processed : Int)
    (errors : List ErrorCandidate) (rest : List (ProductRecord × Product)) :
    let ran := Plan.run Bench.answer (storeEach jobId processed errors rest) x
    ran.2.world.products = x.world.products.insertEach (rest.map (·.2)) ∧
      ran.1.errors = errors ++ repeats jobId x.world.products.ids rest ∧
      ran.1.usedFallback = true := by
  induction rest generalizing processed errors x with
  | nil => exact ⟨rfl, (List.append_nil _).symm, rfl⟩
  | cons first rest ih =>
    obtain ⟨record, product⟩ := first
    obtain ⟨hinsert, hcases⟩ := insertOne_cases steady product
    have hsteady := steady.answer (.insertOne product)
    unfold storeEach
    rw [Plan.run_call]
    generalize x.answer (.insertOne product) = answered at hinsert hcases hsteady
    obtain ⟨reply, y⟩ := answered
    by_cases hin : product.internalId ∈ x.world.products.ids
    · rw [if_pos hin] at hcases
      obtain ⟨rfl, hsame⟩ := hcases
      obtain ⟨hproducts, herrors, hfallback⟩ := ih hsteady processed
        (errors ++ [ErrorCandidate.ofRecord jobId record
          (Failure.of (.duplicateProduct product.internalId)).text])
      refine ⟨hproducts.trans (congrArg (Catalogue.insertEach · _) hinsert), ?_, hfallback⟩
      refine herrors.trans ?_
      rw [hsame, List.append_assoc, repeats, if_pos hin]
      rfl
    · rw [if_neg hin] at hcases
      obtain ⟨rfl, hids⟩ := hcases
      obtain ⟨hproducts, herrors, hfallback⟩ := ih hsteady (processed + 1) errors
      refine ⟨hproducts.trans (congrArg (Catalogue.insertEach · _) hinsert), ?_, hfallback⟩
      refine herrors.trans ?_
      rw [hids, repeats, if_neg hin]

theorem storeMapped_agrees (steady : x.Steady .products) (jobId : JobId)
    (errors : List ErrorCandidate) (mapped : List (ProductRecord × Product)) :
    let ran := Plan.run Bench.answer (storeMapped jobId errors mapped) x
    ran.2.world.products = x.world.products.insertEach (mapped.map (·.2)) ∧
      ran.1.errors = errors ++ repeats jobId x.world.products.ids mapped ∧
      (ran.1.usedFallback = true ↔ repeats jobId x.world.products.ids mapped ≠ []) := by
  cases mapped with
  | nil => exact ⟨rfl, (List.append_nil _).symm, by simp [storeMapped, Plan.run, repeats]⟩
  | cons first rest =>
    have hsteady := steady.answer (.insertBatch ((first :: rest).map (·.2)))
    have hrepeats := repeats_eq_nil_iff jobId x.world.products.ids (first :: rest)
    have hreply : (x.answer (.insertBatch ((first :: rest).map (·.2)))).1 =
        (x.world.products.insertBatch ((first :: rest).map (·.2))).1 := by
      rw [← steady.products_met]
      rfl
    have hproducts : (x.answer (.insertBatch ((first :: rest).map (·.2)))).2.world.products =
        (x.world.products.insertBatch ((first :: rest).map (·.2))).2 := by
      rw [← steady.products_met]
      rfl
    unfold storeMapped
    rw [Plan.run_call, hreply]
    by_cases fresh : Catalogue.Fresh x.world.products.ids ((first :: rest).map (·.2))
    · have hnil := hrepeats.mpr fresh
      rw [Catalogue.insertBatch_of_fresh steady.available fresh] at hproducts ⊢
      refine ⟨hproducts.trans (Catalogue.insertEach_of_fresh steady.available fresh).symm, ?_, ?_⟩
      · rw [hnil, List.append_nil]
        rfl
      · simp [Plan.run, hnil]
    · obtain ⟨f, hrefused⟩ := Catalogue.insertBatch_of_not_fresh steady.available fresh
      rw [hrefused] at hproducts ⊢
      obtain ⟨hstored, herrors, hfallback⟩ :=
        storeEach_agrees hsteady jobId 0 errors (first :: rest)
      rw [show _ = x.world.products from hproducts] at hstored herrors
      exact ⟨hstored, herrors, fun _ hnil => fresh (hrepeats.mp hnil), fun _ => hfallback⟩

theorem storeChunk_agrees (steady : x.Steady .products) (chunk : Chunk) :
    let ran := Plan.run Bench.answer (storeChunk .processing chunk) x
    let befallen := mishaps x.world.products.ids chunk.records
    ran.2.world.products = x.world.products.insertEach (productsOf chunk.records) ∧
      ran.1.errors.Perm (befallen.map (Mishap.candidate chunk.jobId)) ∧
      (ran.1.usedFallback = true ↔ ∃ m ∈ befallen, m.2.isRepeated = true) := by
  have same (internalId : String) :
      internalId ∈ x.world.products.ids ↔ internalId ∈ x.world.products.ids := Iff.rfl
  obtain ⟨hstored, herrors, hfallback⟩ := storeMapped_agrees steady chunk.jobId
    (mapRecords chunk.jobId chunk.records).2 (mapRecords chunk.jobId chunk.records).1
  obtain ⟨hperm, hrepeated⟩ := repeats_perm_mishaps chunk.jobId chunk.records same
  rw [← productsOf_eq] at hstored
  rw [← herrors] at hperm
  exact ⟨hstored, hperm, hfallback.trans hrepeated⟩

end Bench

/-- Of a chunk for a job in progress a consumer leaves the products that row-by-row insertion
leaves. It reports the mishaps of the chunk, each once, and it has fallen back if and only if some
internal id was taken. -/
theorem consume_agrees_with_insertEach {w : World} {ahead : List (List Weather)} {chunk : Chunk}
    {job : Job} (known : w.jobs.get? chunk.jobId = some job) (active : job.status = .processing)
    (steady : (Bench.opening w ahead).Steady .products) :
    let ran := Plan.run Bench.answer (consume chunk) (.opening w ahead)
    let befallen := mishaps w.products.ids chunk.records
    ran.2.world.products.products =
        (w.products.insertEach (productsOf chunk.records)).products ∧
      ran.2.reported.Perm (befallen.map (Mishap.candidate chunk.jobId)) ∧
      (∀ o, ran.1 = .ok o → o.dropped = false ∧ o.failed = befallen.length ∧
        o.processed + o.failed = chunk.records.length ∧
        (o.usedFallback = true ↔ ∃ m ∈ befallen, m.2.isRepeated = true)) ∧
      ((Bench.opening w ahead).Steady .progress → ∃ o, ran.1 = .ok o) := by
  have hloaded := Bench.Filed.answer (.opening w ahead) (.getJob chunk.jobId) rfl
  have hjobs : ((Bench.opening w ahead).answer (.getJob chunk.jobId)).2.world.jobs.jobs =
      w.jobs.jobs := (Bench.opening w ahead).jobs_met
  have hcatalogue : ((Bench.opening w ahead).answer (.getJob chunk.jobId)).2.world.products =
      w.products := steady.products_met
  have hsteady (supply : Simulation.Supply) (h : (Bench.opening w ahead).Steady supply) :=
    h.answer (.getJob chunk.jobId)
  rw [Bench.run_consume_of_known (.opening w ahead) known, active, Plan.run_bind]
  generalize ((Bench.opening w ahead).answer (.getJob chunk.jobId)).2 = x
    at hloaded hjobs hcatalogue hsteady
  have hstocked := Bench.stocked_storeChunk .processing chunk x
  obtain ⟨d, hrecords, hfits⟩ := Bench.storeChunk_divides .processing chunk x
  obtain ⟨hstored, herrors, hfallback⟩ := Bench.storeChunk_agrees (hsteady _ steady) chunk
  generalize Plan.run Bench.answer (storeChunk .processing chunk) x = stored
    at hstocked hfits hstored herrors hfallback
  have hget : stored.2.world.jobs.get? chunk.jobId = some job := by
    unfold JobTable.get? at known ⊢
    rw [hstocked.jobs, hjobs, known]
  obtain ⟨hproducts, hreports, -, hresult⟩ := Bench.finishing_counts hget
    (hstocked.unsaved.trans hloaded.unsaved) stored.1
  rw [hcatalogue] at hstored herrors hfallback
  rw [hstocked.reported.trans hloaded.reported] at hreports
  refine ⟨?_, ?_, ?_, ?_⟩
  · rw [hproducts, hstored]
  · exact hreports ▸ herrors
  · intro o ho
    rcases hresult with ⟨⟨f, hf⟩, -⟩ | ⟨hok, -⟩
    · cases ho.symm.trans hf
    · cases ho.symm.trans hok
      have hfailed := herrors.length_eq
      rw [List.length_map] at hfailed
      exact ⟨rfl, congrArg _ hfailed, hfits.rows.trans (congrArg _ hrecords.length_eq), hfallback⟩
  · intro progress
    rcases hresult with ⟨-, -, unsteady⟩ | ⟨hok, -⟩
    · exact absurd (hstocked.steady _ (hsteady _ progress)) unsteady
    · exact ⟨_, hok⟩

section Mugs

def mugsChunk : Chunk := ⟨⟨7⟩, 0, [System.mug, { System.mug with name := " " }, System.mug]⟩

def mugsWorld : World :=
  .opening ⟨0, 0⟩ (JobTable.empty.create (Job.started ⟨7⟩ ⟨0, 0⟩)).2 .empty .empty 1

def mugsAhead : List (List Weather) := [[.supply .errors false]]

theorem mugs_stored_as_by_insertEach : ∃ job,
    mugsWorld.jobs.get? mugsChunk.jobId = some job ∧ job.status = .processing ∧
    (Bench.opening mugsWorld mugsAhead).Steady .products ∧
    let ran := Plan.run Bench.answer (consume mugsChunk) (.opening mugsWorld mugsAhead)
    let befallen := mishaps mugsWorld.products.ids mugsChunk.records
    ran.2.world.products.products =
        (mugsWorld.products.insertEach (productsOf mugsChunk.records)).products ∧
      ran.2.reported.Perm (befallen.map (Mishap.candidate mugsChunk.jobId)) ∧
      (∀ o, ran.1 = .ok o → o.dropped = false ∧ o.failed = befallen.length ∧
        o.processed + o.failed = mugsChunk.records.length ∧
        (o.usedFallback = true ↔ ∃ m ∈ befallen, m.2.isRepeated = true)) ∧
      ((Bench.opening mugsWorld mugsAhead).Steady .progress → ∃ o, ran.1 = .ok o) := by
  have known : mugsWorld.jobs.get? mugsChunk.jobId = some (Job.started ⟨7⟩ ⟨0, 0⟩) := by
    decide +kernel
  have steady : (Bench.opening mugsWorld mugsAhead).Steady .products := by
    refine ⟨rfl, ?_⟩
    simp [Bench.opening, mugsAhead]
  exact ⟨_, known, rfl, steady, consume_agrees_with_insertEach known rfl steady⟩

end Mugs

end CatalogIntake
