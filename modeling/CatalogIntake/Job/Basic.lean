import CatalogIntake.Chunk
import CatalogIntake.Instant
import CatalogIntake.Job.Status

namespace CatalogIntake

open Number

structure Job where
  id : JobId
  status : JobStatus
  totalRows : Option Int
  processedRows : Int
  failedRows : Int
  startTime : Instant
  endTime : Option Instant
  failureReason : Option String
  deriving DecidableEq, Repr, Inhabited

structure JobCounters where
  totalRows : Option Int
  processedRows : Int
  failedRows : Int
  deriving DecidableEq, Repr

namespace Job

def started (id : JobId) (now : Instant) : Job where
  id
  status := .processing
  totalRows := none
  processedRows := 0
  failedRows := 0
  startTime := now
  endTime := none
  failureReason := none

def counters (job : Job) : JobCounters := ⟨job.totalRows, job.processedRows, job.failedRows⟩

def rowsAccounted (job : Job) : Int := job.processedRows + job.failedRows

def isTerminal (job : Job) : Bool := job.status.isTerminal

def knownTotal? (job : Job) : Option Int := job.totalRows.filter (0 < ·)

/-- The counters add up to the total; what is added up is held like the counters are. -/
def isReadyIn (counters : Option Width) (job : Job) : Bool :=
  match job.knownTotal? with
  | some total => job.status == .processing && total ≤ Width.hold counters job.rowsAccounted
  | none => false

def isReadyToComplete (job : Job) : Bool := job.isReadyIn none

/-- The accounted part of the total in percent, at most 100, in floating-point steps. -/
def completionPercentage (job : Job) : Double :=
  match job.knownTotal? with
  | some total =>
    (((Double.ofInt job.rowsAccounted).div (Double.ofInt total)).mul (Double.ofInt 100)).min
      (Double.ofInt 100)
  | none => .zero

def toJson (job : Job) : Json :=
  .object
    [("id", .string job.id.text), ("status", .string job.status.name),
     ("total_rows", Json.option .integer job.totalRows),
     ("processed_rows", .integer job.processedRows), ("failed_rows", .integer job.failedRows),
     ("start_time", .string job.startTime.text),
     ("end_time", Json.option (.string ·.text) job.endTime),
     ("failure_reason", Json.option .string job.failureReason)]

def decodeInstant : Json.Decoder Instant
  | .string s => (Instant.read s).mapError fun e => .refused e.message
  | value => Json.wrongType value "an RFC 3339 formatted date and time string"

def fields : Json.Fields Job :=
  Job.mk <$> .required "id" JobId.decode <*> .required "status" JobStatus.decode
    <*> .optional "total_rows" Json.int64 <*> .required "processed_rows" Json.int64
    <*> .required "failed_rows" Json.int64 <*> .required "start_time" decodeInstant
    <*> .optional "end_time" decodeInstant <*> .optional "failure_reason" Json.text

def decode : Json.Decoder Job := Json.record "ImportJob" fields

end Job

end CatalogIntake
