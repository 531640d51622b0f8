import CatalogIntake.Pipeline.Plan

namespace CatalogIntake

/-- Completes the job if all its rows are accounted for. A completed job is looked up once more for
the log, and a failure of that is a failure of the check. -/
def checkAndComplete (id : JobId) : Plan (Outcome Bool) :=
  .call (.completeIfDone id) fun
    | .error f => .done (.error (f.during (.checkCompletion id)))
    | .ok false => .done (.ok false)
    | .ok true => .call (.getJob id) fun
      | .error f => .done (.error f)
      | .ok _ => .done (.ok true)

end CatalogIntake
