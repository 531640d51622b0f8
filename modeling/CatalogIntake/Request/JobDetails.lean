import CatalogIntake.Pipeline.Plan

namespace CatalogIntake

open Number

structure JobDetails where
  job : Job
  completionPercentage : Double
  errorCount : Int
  deriving DecidableEq, Repr

inductive JobDetailsError
  | notFound
  | store (failure : Failure)
  deriving DecidableEq, Repr

def JobDetailsError.message : JobDetailsError → String
  | .notFound => "Import job not found"
  | .store f => s!"Store error: {f.text}"

def jobDetails (id : JobId) : Plan (Except JobDetailsError JobDetails) :=
  .call (.getJob id) fun
    | .error f => .done (.error (.store f))
    | .ok none => .done (.error .notFound)
    | .ok (some job) => .call (.countErrors id) fun
      | .error f => .done (.error (.store f))
      | .ok n => .done (.ok ⟨job, job.completionPercentage, n⟩)

namespace JobDetails

def members (d : JobDetails) : Json.Members :=
  (match d.job.toJson with
    | .object members => members
    | _ => []) ++
  [("completion_percentage", .double d.completionPercentage),
   ("error_count", .integer d.errorCount)]

def toJson (d : JobDetails) : Json := .object d.members

end JobDetails

end CatalogIntake
