import CatalogIntake.Pipeline.Consumer

namespace CatalogIntake

structure WorkerStats where
  chunksConsumed : Nat := 0
  chunksRetried : Nat := 0
  rowsProcessed : Int := 0
  rowsFailed : Int := 0
  jobsCompleted : Nat := 0
  deriving DecidableEq, Repr

namespace WorkerStats

def consumed (s : WorkerStats) (o : ChunkOutcome) : WorkerStats :=
  { s with
    chunksConsumed := s.chunksConsumed + 1
    rowsProcessed := s.rowsProcessed + o.processed
    rowsFailed := s.rowsFailed + o.failed
    jobsCompleted := s.jobsCompleted + (if o.completed then 1 else 0) }

def retried (s : WorkerStats) : WorkerStats := { s with chunksRetried := s.chunksRetried + 1 }

def after (s : WorkerStats) : Outcome ChunkOutcome → WorkerStats
  | .ok outcome => s.consumed outcome
  | .error _ => s.retried

end WorkerStats

inductive Settlement
  | ack
  | nack (reason : String)
  deriving DecidableEq, Repr

def Settlement.of : Outcome ChunkOutcome → Settlement
  | .ok _ => ack
  | .error f => nack f.text

end CatalogIntake
