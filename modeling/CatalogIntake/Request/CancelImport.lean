import CatalogIntake.Pipeline.Plan

namespace CatalogIntake

inductive CancelImportError
  | notFound (id : JobId)
  | alreadyFinished (id : JobId) (status : JobStatus)
  | store (failure : Failure)
  deriving DecidableEq, Repr

def CancelImportError.message : CancelImportError → String
  | .notFound id => s!"Import job '{id.text}' not found"
  | .alreadyFinished id status => s!"Import job '{id.text}' is already {status.name}"
  | .store f => s!"Failed to cancel import: {f.text}"

def cancelImport (id : JobId) : Plan (Except CancelImportError Unit) :=
  .call (.cancelJob id) fun
    | .error f => .done (.error (.store f))
    | .ok true => .done (.ok ())
    | .ok false => .call (.getJob id) fun
      | .error f => .done (.error (.store f))
      | .ok (some job) => .done (.error (.alreadyFinished id job.status))
      | .ok none => .done (.error (.notFound id))

def cancellationJson (id : JobId) : Json :=
  .object [("job_id", .string id.text), ("status", .string JobStatus.cancelled.name)]

end CatalogIntake
