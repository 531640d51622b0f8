import CatalogIntake.Sql.Script
import CatalogIntake.Text.Bounded

namespace CatalogIntake.Sql.Jobs

open Text

def value {α : Type} (decode : Json.Decoder α) (json : Json) : Outcome α :=
  match decode json with
  | .ok a => .ok a
  | .error _ => .fail (.database .malformedRow)

def status (json : Json) : Outcome JobStatus := do
  let name ← value Json.text json
  match JobStatus.ofName? name with
  | some status => return status
  | none => .fail (.unknownStatus name)

def ofRow : Row → Outcome Job
  | [id, name, total, processed, failed, start, finish, reason] => do
    let id ← value JobId.decode id
    let totalRows ← value (Json.nullable Json.int64) total
    let processedRows ← value Json.int64 processed
    let failedRows ← value Json.int64 failed
    let startTime ← value Job.decodeInstant start
    let endTime ← value (Json.nullable Job.decodeInstant) finish
    let failureReason ← value (Json.nullable Json.text) reason
    let status ← status name
    return { id, status, totalRows, processedRows, failedRows, startTime, endTime, failureReason }
  | _ => .fail (.database .malformedRow)

def countersOfRow : Row → Outcome JobCounters
  | [total, processed, failed] => do
    return ⟨← value (Json.nullable Json.int64) total, ← value Json.int64 processed,
      ← value Json.int64 failed⟩
  | _ => .fail (.database .malformedRow)

def changedOne (reply : Reply) : Outcome Bool := .ok (reply.count == 1)

def create (job : Job) : Script (Outcome Unit) :=
  Script.request .createJob (.insertJob job) fun _ => .ok ()

def get (id : JobId) : Script (Outcome (Option Job)) :=
  Script.request .fetchJob (.selectJob id) fun reply =>
    match reply.first? with
    | none => .ok none
    | some row => (ofRow row).map some

def finalizeTotal (id : JobId) (total : Int) : Script (Outcome Bool) :=
  Script.request .recordTotal (.setTotal id total) changedOne

def increment (id : JobId) (processed failed : Int) : Script (Outcome JobCounters) :=
  Script.request .updateProgress (.addProgress id processed failed) fun reply =>
    match reply.first? with
    | none => .fail (.jobNotFound id)
    | some row => countersOfRow row

def completeIfDone (id : JobId) : Script (Outcome Bool) :=
  Script.request .completeJob (.completeJob id) changedOne

def finish (id : JobId) (status : JobStatus) (reason : Option String) : Script (Outcome Bool) :=
  let statement := .finishJob id status (reason.map boundedErrorMessage)
  Script.request (.markJob status) statement changedOne

def fail (id : JobId) (reason : String) : Script (Outcome Bool) := finish id .failed (some reason)

def cancel (id : JobId) : Script (Outcome Bool) := finish id .cancelled none

end CatalogIntake.Sql.Jobs
