import CatalogIntake.Job.Basic
import CatalogIntake.Text.Bounded

namespace CatalogIntake

open Text

structure ErrorCandidate where
  jobId : JobId
  rowNumber : Option Int
  message : String
  rowData : Option String
  deriving DecidableEq, Repr

namespace ErrorCandidate

def bounded (jobId : JobId) (rowNumber : Option Int) (message : String)
    (rowData : Option String) : ErrorCandidate :=
  ⟨jobId, rowNumber, boundedErrorMessage message, rowData.map boundedRowData⟩

def ofRecord (jobId : JobId) (record : ProductRecord) (message : String) : ErrorCandidate :=
  bounded jobId record.rowNumber message (some record.wire)

end ErrorCandidate

structure ErrorEntry where
  id : Int
  jobId : JobId
  rowNumber : Option Int
  message : String
  rowData : Option String
  createdAt : Instant
  deriving DecidableEq, Repr

namespace ErrorEntry

def ofCandidate (id : Int) (now : Instant) (c : ErrorCandidate) : ErrorEntry :=
  ⟨id, c.jobId, c.rowNumber, c.message, c.rowData, now⟩

end ErrorEntry

end CatalogIntake
