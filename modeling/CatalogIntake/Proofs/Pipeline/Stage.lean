import CatalogIntake.Pipeline.Worker

/-!
Where a worker stands with a chunk between two of its calls. The stages are the plan of `consume`
taken apart: `Stage.plan_eq` says that each stage asks what the rest of the plan asks, and goes on
with the stage that the answer leads to.
-/

namespace CatalogIntake

/-- What a program does next: it goes on by itself, asks, or is at its end. -/
inductive Move (σ α : Type)
  | go (next : σ)
  | ask (c : Call) (next : c.Answer → σ)
  | halt (result : α)

def Move.plan {σ α : Type} (plan : σ → Plan α) : Move σ α → Plan α
  | .go s => plan s
  | .ask c next => .call c fun answer => plan (next answer)
  | .halt result => .done result

inductive Stage
  | loading
  /-- The job was found in this status. -/
  | loaded (status : JobStatus)
  | bulk (mapped : List (ProductRecord × Product)) (errors : List ErrorCandidate)
  | single (processed : Int) (errors : List ErrorCandidate) (rest : List (ProductRecord × Product))
  | logging (stored : Storing)
  | counting (stored : Storing)
  | checking (stored : Storing)
  /-- The job has been completed and is looked up for the log. -/
  | confirming (stored : Storing)
  | settled (result : Outcome ChunkOutcome)

namespace Stage

def inactive (status : JobStatus) (chunk : Chunk) : Storing :=
  ⟨0, chunk.records.map (ErrorCandidate.ofRecord chunk.jobId · (inactiveMessage status)), false⟩

def outcome (chunk : Chunk) (stored : Storing) (completed : Bool) : ChunkOutcome :=
  ⟨chunk.jobId, chunk.number, stored.processed, stored.errors.length, stored.usedFallback,
    completed, false⟩

def move (chunk : Chunk) : Stage → Move Stage (Outcome ChunkOutcome)
  | loading => .ask (.getJob chunk.jobId) fun
    | .error f => settled (.error (f.during .loadJob))
    | .ok none => settled (.ok (ChunkOutcome.ofDropped chunk))
    | .ok (some job) => loaded job.status
  | loaded status =>
    if status = .processing then
      .go (bulk (mapRecords chunk.jobId chunk.records).1 (mapRecords chunk.jobId chunk.records).2)
    else .go (logging (inactive status chunk))
  | bulk [] errors => .go (logging ⟨0, errors, false⟩)
  | bulk (first :: rest) errors => .ask (.insertBatch ((first :: rest).map (·.2))) fun
    | .ok _ => logging ⟨(first :: rest).length, errors, false⟩
    | .error _ => single 0 errors (first :: rest)
  | single processed errors [] => .go (logging ⟨processed, errors, true⟩)
  | single processed errors ((record, product) :: rest) => .ask (.insertOne product) fun
    | .ok _ => single (processed + 1) errors rest
    | .error f =>
      single processed (errors ++ [ErrorCandidate.ofRecord chunk.jobId record f.text]) rest
  | logging stored =>
    if stored.errors.isEmpty then .go (counting stored)
    else .ask (.saveErrors stored.errors) fun _ => counting stored
  | counting stored => .ask (.increment chunk.jobId stored.processed stored.errors.length) fun
    | .error f => settled (.error (f.during .updateProgress))
    | .ok _ => checking stored
  | checking stored => .ask (.completeIfDone chunk.jobId) fun
    | .error _ => settled (.ok (outcome chunk stored false))
    | .ok false => settled (.ok (outcome chunk stored false))
    | .ok true => confirming stored
  | confirming stored => .ask (.getJob chunk.jobId) fun
    | .error _ => settled (.ok (outcome chunk stored false))
    | .ok _ => settled (.ok (outcome chunk stored true))
  | settled result => .halt result

def finishing (chunk : Chunk) (stored : Storing) : Plan (Outcome ChunkOutcome) :=
  (logErrors stored.errors).bind fun _ => account chunk stored

def concluding (chunk : Chunk) (stored : Storing) (check : Plan (Outcome Bool)) :
    Plan (Outcome ChunkOutcome) :=
  check.bind fun result => .done (.ok (outcome chunk stored
    (match result with
    | .ok completed => completed
    | .error _ => false)))

/-- The rest of the plan of `consume`. -/
def plan (chunk : Chunk) : Stage → Plan (Outcome ChunkOutcome)
  | loading => consume chunk
  | loaded status => (storeChunk status chunk).bind (finishing chunk)
  | bulk mapped errors => (storeMapped chunk.jobId errors mapped).bind (finishing chunk)
  | single processed errors rest =>
    (storeEach chunk.jobId processed errors rest).bind (finishing chunk)
  | logging stored => finishing chunk stored
  | counting stored => account chunk stored
  | checking stored => concluding chunk stored (checkAndComplete chunk.jobId)
  | confirming stored => concluding chunk stored (.call (.getJob chunk.jobId) fun
    | .error f => .done (.error f)
    | .ok _ => .done (.ok true))
  | settled result => .done result

inductive Goes (chunk : Chunk) : Stage → Stage → Prop
  | mapped : Goes chunk (loaded .processing)
      (bulk (mapRecords chunk.jobId chunk.records).1 (mapRecords chunk.jobId chunk.records).2)
  | turnedAway {status : JobStatus} (inactive_ : status ≠ .processing) :
      Goes chunk (loaded status) (logging (inactive status chunk))
  | nothingMapped {errors : List ErrorCandidate} :
      Goes chunk (bulk [] errors) (logging ⟨0, errors, false⟩)
  | allTried {processed : Int} {errors : List ErrorCandidate} :
      Goes chunk (single processed errors []) (logging ⟨processed, errors, true⟩)
  | nothingToLog {stored : Storing} (clean : stored.errors = []) :
      Goes chunk (logging stored) (counting stored)

inductive Asks (chunk : Chunk) : Stage → (c : Call) → c.Answer → Stage → Prop
  | unloaded {f : Failure} : Asks chunk loading (.getJob chunk.jobId) (.error f)
      (settled (.error (f.during .loadJob)))
  | unknown : Asks chunk loading (.getJob chunk.jobId) (.ok none)
      (settled (.ok (ChunkOutcome.ofDropped chunk)))
  | found {job : Job} : Asks chunk loading (.getJob chunk.jobId) (.ok (some job))
      (loaded job.status)
  | batched {first : ProductRecord × Product} {rest : List (ProductRecord × Product)}
      {errors : List ErrorCandidate} :
      Asks chunk (bulk (first :: rest) errors) (.insertBatch ((first :: rest).map (·.2))) (.ok ())
        (logging ⟨(first :: rest).length, errors, false⟩)
  | batchFailed {first : ProductRecord × Product} {rest : List (ProductRecord × Product)}
      {errors : List ErrorCandidate} {f : Failure} :
      Asks chunk (bulk (first :: rest) errors) (.insertBatch ((first :: rest).map (·.2)))
        (.error f) (single 0 errors (first :: rest))
  | inserted {processed : Int} {errors : List ErrorCandidate} {record : ProductRecord}
      {product : Product} {rest : List (ProductRecord × Product)} :
      Asks chunk (single processed errors ((record, product) :: rest)) (.insertOne product) (.ok ())
        (single (processed + 1) errors rest)
  | insertFailed {processed : Int} {errors : List ErrorCandidate} {record : ProductRecord}
      {product : Product} {rest : List (ProductRecord × Product)} {f : Failure} :
      Asks chunk (single processed errors ((record, product) :: rest)) (.insertOne product)
        (.error f)
        (single processed (errors ++ [ErrorCandidate.ofRecord chunk.jobId record f.text]) rest)
  | logged {stored : Storing} {answer : Outcome Unit} (any : stored.errors ≠ []) :
      Asks chunk (logging stored) (.saveErrors stored.errors) answer (counting stored)
  | uncounted {stored : Storing} {f : Failure} :
      Asks chunk (counting stored)
        (.increment chunk.jobId stored.processed stored.errors.length) (.error f)
        (settled (.error (f.during .updateProgress)))
  | counted {stored : Storing} {counters : JobCounters} :
      Asks chunk (counting stored)
        (.increment chunk.jobId stored.processed stored.errors.length) (.ok counters)
        (checking stored)
  | unchecked {stored : Storing} {f : Failure} :
      Asks chunk (checking stored) (.completeIfDone chunk.jobId) (.error f)
        (settled (.ok (outcome chunk stored false)))
  | notDone {stored : Storing} :
      Asks chunk (checking stored) (.completeIfDone chunk.jobId) (.ok false)
        (settled (.ok (outcome chunk stored false)))
  | completed {stored : Storing} :
      Asks chunk (checking stored) (.completeIfDone chunk.jobId) (.ok true) (confirming stored)
  | unconfirmed {stored : Storing} {f : Failure} :
      Asks chunk (confirming stored) (.getJob chunk.jobId) (.error f)
        (settled (.ok (outcome chunk stored false)))
  | confirmed {stored : Storing} {job : Option Job} :
      Asks chunk (confirming stored) (.getJob chunk.jobId) (.ok job)
        (settled (.ok (outcome chunk stored true)))

section Moves

variable {chunk : Chunk} {stage : Stage}

theorem goes_of_move {next : Stage} (h : stage.move chunk = .go next) : Goes chunk stage next := by
  cases stage with
  | loaded status =>
    by_cases hstatus : status = .processing
    · subst hstatus
      cases h
      exact .mapped
    · simp only [move, if_neg hstatus] at h
      cases h
      exact .turnedAway hstatus
  | bulk mapped errors =>
    cases mapped with
    | nil =>
      cases h
      exact .nothingMapped
    | cons first rest => cases h
  | single processed errors rest =>
    cases rest with
    | nil =>
      cases h
      exact .allTried
    | cons first rest => cases h
  | logging stored =>
    by_cases hclean : stored.errors.isEmpty
    · simp only [move, if_pos hclean] at h
      cases h
      exact .nothingToLog (List.isEmpty_iff.mp hclean)
    · simp only [move, if_neg hclean] at h
      cases h
  | _ => cases h

theorem asks_of_move {c : Call} {next : c.Answer → Stage} (h : stage.move chunk = .ask c next)
    (answer : c.Answer) : Asks chunk stage c answer (next answer) := by
  cases stage with
  | loading =>
    cases h
    rcases answer with f | _ | job
    · exact .unloaded
    · exact .unknown
    · exact .found
  | loaded status =>
    by_cases hstatus : status = .processing
    · simp only [move, if_pos hstatus] at h
      cases h
    · simp only [move, if_neg hstatus] at h
      cases h
  | bulk mapped errors =>
    cases mapped with
    | nil => cases h
    | cons first rest =>
      cases h
      cases answer with
      | error f => exact .batchFailed
      | ok _ => exact .batched
  | single processed errors rest =>
    cases rest with
    | nil => cases h
    | cons first rest =>
      cases h
      cases answer with
      | error f => exact .insertFailed
      | ok _ => exact .inserted
  | logging stored =>
    by_cases hclean : stored.errors.isEmpty
    · simp only [move, if_pos hclean] at h
      cases h
    · simp only [move, if_neg hclean] at h
      cases h
      exact .logged fun hnil => hclean (List.isEmpty_iff.mpr hnil)
  | counting stored =>
    cases h
    cases answer with
    | error f => exact .uncounted
    | ok counters => exact .counted
  | checking stored =>
    cases h
    rcases answer with f | _ | _
    · exact .unchecked
    · exact .notDone
    · exact .completed
  | confirming stored =>
    cases h
    cases answer with
    | error f => exact .unconfirmed
    | ok job => exact .confirmed
  | settled result => cases h

theorem settled_of_move {result : Outcome ChunkOutcome} (h : stage.move chunk = .halt result) :
    stage = settled result := by
  cases stage with
  | settled result =>
    cases h
    rfl
  | loaded status =>
    by_cases hstatus : status = .processing
    · simp only [move, if_pos hstatus] at h
      cases h
    · simp only [move, if_neg hstatus] at h
      cases h
  | bulk mapped errors => cases mapped <;> cases h
  | single processed errors rest => cases rest <;> cases h
  | logging stored =>
    by_cases hclean : stored.errors.isEmpty
    · simp only [move, if_pos hclean] at h
      cases h
    · simp only [move, if_neg hclean] at h
      cases h
  | _ => cases h

end Moves

theorem plan_loading (chunk : Chunk) : plan chunk loading = consume chunk := rfl

theorem plan_eq (chunk : Chunk) (s : Stage) : s.plan chunk = (s.move chunk).plan (plan chunk) := by
  cases s with
  | loading =>
    simp only [plan, move, Move.plan, consume]
    congr 1
    funext answer
    rcases answer with f | _ | job <;> rfl
  | loaded status =>
    by_cases h : status = .processing
    · simp [plan, move, Move.plan, storeChunk, h]
    · simp [plan, move, Move.plan, storeChunk, h, Plan.bind, inactive]
  | bulk mapped errors =>
    cases mapped with
    | nil => rfl
    | cons first rest =>
      simp only [plan, move, Move.plan, storeMapped, Plan.bind]
      congr 1
      funext answer
      cases answer <;> rfl
  | single processed errors rest =>
    cases rest with
    | nil => rfl
    | cons first rest =>
      simp only [plan, move, Move.plan, storeEach, Plan.bind]
      congr 1
      funext answer
      cases answer <;> rfl
  | logging stored =>
    by_cases h : stored.errors.isEmpty
    · simp [plan, move, Move.plan, finishing, logErrors, h, Plan.bind]
    · simp [plan, move, Move.plan, finishing, logErrors, h, Plan.bind]
  | counting stored =>
    simp only [plan, move, Move.plan, account]
    congr 1
    funext answer
    cases answer with
    | error f => rfl
    | ok counters => rfl
  | checking stored =>
    simp only [plan, move, Move.plan, checkAndComplete, concluding, Plan.bind]
    congr 1
    funext answer
    rcases answer with f | _ | _
    · rfl
    · rfl
    · simp only [Plan.bind]
      congr 1
      funext answer
      cases answer <;> rfl
  | confirming stored =>
    simp only [plan, move, Move.plan, concluding, Plan.bind]
    congr 1
    funext answer
    cases answer <;> rfl
  | settled result => rfl

end Stage

end CatalogIntake
