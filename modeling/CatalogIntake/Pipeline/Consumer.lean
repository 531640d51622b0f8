import CatalogIntake.Pipeline.Completion

/-!
Storing the rows of a chunk. All mappable rows are tried as one batch; if that fails they are tried
one by one. Rows that are not stored are logged, and each row is counted once, stored or failed.
-/

namespace CatalogIntake

structure ChunkOutcome where
  jobId : JobId
  number : Int
  processed : Int
  failed : Int
  usedFallback : Bool
  completed : Bool
  /-- The job is unknown, and nothing was done. -/
  dropped : Bool
  deriving DecidableEq, Repr

def ChunkOutcome.ofDropped (chunk : Chunk) : ChunkOutcome :=
  ⟨chunk.jobId, chunk.number, 0, 0, false, false, true⟩

/-- Why the rows of a chunk are not stored when its job is no longer in progress. -/
def inactiveMessage : JobStatus → String
  | .cancelled => "import cancelled before chunk was persisted"
  | status => s!"import job is {status.name}; chunk was not persisted"

/-- The records that can be stored, each with its product, and the errors of the others. -/
def mapRecords (jobId : JobId) :
    List ProductRecord → List (ProductRecord × Product) × List ErrorCandidate
  | [] => ([], [])
  | r :: rest =>
    let (mapped, errors) := mapRecords jobId rest
    match Product.ofRecord r with
    | .ok p => ((r, p) :: mapped, errors)
    | .error fault => (mapped, ErrorCandidate.ofRecord jobId r fault.text :: errors)

structure Storing where
  processed : Int
  errors : List ErrorCandidate
  usedFallback : Bool
  deriving DecidableEq, Repr

def storeEach (jobId : JobId) (processed : Int) (errors : List ErrorCandidate) :
    List (ProductRecord × Product) → Plan Storing
  | [] => .done ⟨processed, errors, true⟩
  | (record, product) :: rest =>
    .call (.insertOne product) fun
      | .ok _ => storeEach jobId (processed + 1) errors rest
      | .error f =>
        storeEach jobId processed (errors ++ [ErrorCandidate.ofRecord jobId record f.text]) rest

def storeMapped (jobId : JobId) (errors : List ErrorCandidate) :
    List (ProductRecord × Product) → Plan Storing
  | [] => .done ⟨0, errors, false⟩
  | mapped =>
    .call (.insertBatch (mapped.map (·.2))) fun
      | .ok _ => .done ⟨mapped.length, errors, false⟩
      | .error _ => storeEach jobId 0 errors mapped

/-- Rows of a job in progress are stored, those of any other job become errors. -/
def storeChunk (status : JobStatus) (chunk : Chunk) : Plan Storing :=
  if status = .processing then
    let (mapped, errors) := mapRecords chunk.jobId chunk.records
    storeMapped chunk.jobId errors mapped
  else
    let message := inactiveMessage status
    .done ⟨0, chunk.records.map (ErrorCandidate.ofRecord chunk.jobId · message), false⟩

/-- Logs the errors if there are any. A log that is not available does not stop the chunk. -/
def logErrors (errors : List ErrorCandidate) : Plan Unit :=
  if errors.isEmpty then .done () else .call (.saveErrors errors) fun _ => .done ()

/-- Counts the rows, then checks for completion; a failed check leaves the chunk counted. -/
def account (chunk : Chunk) (stored : Storing) : Plan (Outcome ChunkOutcome) :=
  let failed : Int := stored.errors.length
  .call (.increment chunk.jobId stored.processed failed) fun
    | .error f => .done (.error (f.during .updateProgress))
    | .ok _ => do
      let completed := match ← checkAndComplete chunk.jobId with
        | .ok completed => completed
        | .error _ => false
      return .ok ⟨chunk.jobId, chunk.number, stored.processed, failed, stored.usedFallback,
        completed, false⟩

def consume (chunk : Chunk) : Plan (Outcome ChunkOutcome) :=
  .call (.getJob chunk.jobId) fun
    | .error f => .done (.error (f.during .loadJob))
    | .ok none => .done (.ok (ChunkOutcome.ofDropped chunk))
    | .ok (some job) => do
      let stored ← storeChunk job.status chunk
      logErrors stored.errors
      account chunk stored

end CatalogIntake
