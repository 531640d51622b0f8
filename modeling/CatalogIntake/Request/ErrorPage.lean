import CatalogIntake.Pipeline.Plan

namespace CatalogIntake

structure ErrorPage where
  jobId : JobId
  total : Int
  limit : Int
  offset : Int
  errors : List ErrorEntry
  deriving DecidableEq, Repr

inductive ErrorPageError
  | invalidLimit
  | invalidOffset
  | notFound
  | store (failure : Failure)
  deriving DecidableEq, Repr

namespace ErrorPage

def defaultLimit : Int := 100
def maxLimit : Int := 1000

def validate (limit offset : Option Int) : Except ErrorPageError Unit :=
  if limit.any fun n => n < 1 || maxLimit < n then .error .invalidLimit
  else if offset.any (· < 0) then .error .invalidOffset
  else .ok ()

def fetch (id : JobId) (limit offset : Option Int) : Plan (Except ErrorPageError ErrorPage) :=
  match validate limit offset with
  | .error e => .done (.error e)
  | .ok () =>
    let limit := limit.getD defaultLimit
    let offset := offset.getD 0
    .call (.getJob id) fun
      | .error f => .done (.error (.store f))
      | .ok none => .done (.error .notFound)
      | .ok (some _) => .call (.countErrors id) fun
        | .error f => .done (.error (.store f))
        | .ok total => .call (.listErrors id limit offset) fun
          | .error f => .done (.error (.store f))
          | .ok errors => .done (.ok ⟨id, total, limit, offset, errors⟩)

def entryJson (e : ErrorEntry) : Json :=
  .object [("id", .integer e.id), ("job_id", .string e.jobId.text),
    ("row_number", Json.option .integer e.rowNumber), ("error_message", .string e.message),
    ("row_data", Json.option .string e.rowData), ("created_at", .string e.createdAt.text)]

def toJson (p : ErrorPage) : Json :=
  .object [("job_id", .string p.jobId.text), ("total", .integer p.total),
    ("limit", .integer p.limit), ("offset", .integer p.offset),
    ("errors", Json.list entryJson p.errors)]

end ErrorPage

def ErrorPageError.message : ErrorPageError → String
  | .invalidLimit => s!"Limit must be between 1 and {ErrorPage.maxLimit}"
  | .invalidOffset => "Offset cannot be negative"
  | .notFound => "Import job not found"
  | .store f => s!"Store error: {f.text}"

end CatalogIntake
