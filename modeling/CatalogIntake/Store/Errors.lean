import CatalogIntake.Failure
import CatalogIntake.Job.ErrorEntry

namespace CatalogIntake

structure ErrorLog where
  entries : List ErrorEntry
  available : Bool
  deriving Repr

namespace ErrorLog

def empty : ErrorLog := ⟨[], true⟩

def append (entries : List ErrorEntry) (now : Instant) : List ErrorCandidate → List ErrorEntry
  | [] => entries
  | c :: rest =>
    append (entries ++ [ErrorEntry.ofCandidate (entries.length + 1) now c]) now rest

def save (log : ErrorLog) (candidates : List ErrorCandidate) (now : Instant) :
    Outcome Unit × ErrorLog :=
  if log.available then (.ok (), { log with entries := append log.entries now candidates })
  else (.fail .errorStoreUnavailable, log)

def ofJob (log : ErrorLog) (id : JobId) : List ErrorEntry := log.entries.filter (·.jobId == id)

def page (log : ErrorLog) (id : JobId) (limit offset : Int) : List ErrorEntry :=
  ((log.ofJob id).drop offset.toNat).take limit.toNat

def count (log : ErrorLog) (id : JobId) : Nat := (log.ofJob id).length

end ErrorLog

end CatalogIntake
