import CatalogIntake.JobId
import CatalogIntake.Job.Status

namespace CatalogIntake

inductive DatabaseError
  | closedPool
  | invalidAddress
  | unreachable
  | noRow
  | malformedRow
  /-- More values than one statement can carry; nothing is sent. -/
  | tooManyValues (count : Nat)
  | server (code message : String)
  deriving DecidableEq, Repr

namespace DatabaseError

def text : DatabaseError → String
  | closedPool => "attempted to acquire a connection on a closed pool"
  | invalidAddress => "error with configuration: relative URL without a base"
  | unreachable => "pool timed out while waiting for an open connection"
  | noRow => "no rows returned by a query that expected to return at least one row"
  | malformedRow => "error occurred while decoding a row"
  | tooManyValues count =>
    "encountered unexpected or invalid data: " ++
      s!"PgConnection::run(): too many arguments for query: {count}"
  | server _ message => s!"error returned from database: {message}"

def texts : DatabaseError → List String
  | e@(server _ message) => [e.text, message]
  | e => [e.text]

end DatabaseError

inductive Cause
  | jobExists (id : JobId)
  | jobNotFound (id : JobId)
  | jobStoreUnavailable
  | errorStoreUnavailable
  | productStoreUnavailable
  | duplicateProduct (internalId : String)
  | busClosed
  | database (error : DatabaseError)
  | duplicateRow (message : String)
  | constraintViolation (message : String)
  | unknownStatus (name : String)
  | injected (operation : String)
  deriving DecidableEq, Repr

def Cause.texts : Cause → List String
  | .jobExists id => [s!"Import job {id.text} already exists"]
  | .jobNotFound id => [s!"Import job {id.text} not found"]
  | .jobStoreUnavailable => ["job store unavailable"]
  | .errorStoreUnavailable => ["error store unavailable"]
  | .productStoreUnavailable => ["product store unavailable"]
  | .duplicateProduct internalId =>
    [s!"duplicate key value violates unique constraint: internal_id '{internalId}'"]
  | .busClosed => ["chunk bus is closed"]
  | .database error => error.texts
  | .duplicateRow message => [s!"duplicate product: {message}"]
  | .constraintViolation message => [s!"product violates constraint: {message}"]
  | .unknownStatus name => [s!"Unknown job status: {name}"]
  | .injected operation => [s!"injected {operation} fault", s!"cause of {operation}"]

inductive Attempt
  | createJob
  | fetchJob
  | recordTotal
  | updateProgress
  | completeJob
  | markJob (status : JobStatus)
  | beginTransaction
  | insertErrors
  | commitErrors
  | listErrors
  | countErrors
  | insertProducts
  | commitProducts
  | insertProduct
  | claimMessage
  | readDepth
  | deleteMessage
  | publishMessage
  | releaseMessage
  | loadJob
  | checkCompletion (id : JobId)
  | publishChunk (number : Int) (attempts : UInt32)
  deriving DecidableEq, Repr

def Attempt.text : Attempt → String
  | .createJob => "Failed to create import job"
  | .fetchJob => "Failed to fetch import job"
  | .recordTotal => "Failed to record total rows"
  | .updateProgress => "Failed to update import progress"
  | .completeJob => "Failed to complete import job"
  | .markJob status => s!"Failed to mark import job {status.name}"
  | .beginTransaction => "Failed to start transaction"
  | .insertErrors => "Failed to insert import errors"
  | .commitErrors => "Failed to commit import errors"
  | .listErrors => "Failed to list import errors"
  | .countErrors => "Failed to count import errors"
  | .insertProducts => "Failed to bulk insert products"
  | .commitProducts => "Failed to commit product batch"
  | .insertProduct => "Failed to insert product"
  | .claimMessage => "Failed to claim chunk message"
  | .readDepth => "Failed to read queue depth"
  | .deleteMessage => "Failed to delete chunk message"
  | .publishMessage => "Failed to publish chunk message"
  | .releaseMessage => "Failed to release chunk message"
  | .loadJob => "Failed to load import job"
  | .checkCompletion id => s!"Failed to run completion check for job {id.text}"
  | .publishChunk number attempts =>
    s!"Failed to publish chunk {number} after {attempts} attempts"

structure Failure where
  attempts : List Attempt
  cause : Cause
  deriving DecidableEq, Repr

namespace Failure

def of (cause : Cause) : Failure := ⟨[], cause⟩

def during (attempt : Attempt) (f : Failure) : Failure :=
  { f with attempts := attempt :: f.attempts }

def chain (f : Failure) : List String := f.attempts.map Attempt.text ++ f.cause.texts

def text (f : Failure) : String := ": ".intercalate f.chain

end Failure

abbrev Outcome (α : Type) := Except Failure α

def Outcome.during {α : Type} (attempt : Attempt) (o : Outcome α) : Outcome α :=
  o.mapError (Failure.during attempt)

def Outcome.fail {α : Type} (cause : Cause) : Outcome α := .error (Failure.of cause)

end CatalogIntake
