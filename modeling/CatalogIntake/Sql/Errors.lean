import CatalogIntake.Sql.Jobs

namespace CatalogIntake.Sql.Errors

def sliceSize : Nat := 1000

def save (candidates : List ErrorCandidate) : Script (Outcome Unit) :=
  if candidates.isEmpty then .done (.ok ())
  else Script.transaction .insertErrors .commitErrors
    ((slices sliceSize candidates).map .insertErrors)

def ofRow : Row → Outcome ErrorEntry
  | [id, jobId, rowNumber, message, rowData, createdAt] => do
    return {
      id := ← Jobs.value Json.int64 id
      jobId := ← Jobs.value JobId.decode jobId
      rowNumber := ← Jobs.value (Json.nullable Json.int64) rowNumber
      message := ← Jobs.value Json.text message
      rowData := ← Jobs.value (Json.nullable Json.text) rowData
      createdAt := ← Jobs.value Job.decodeInstant createdAt }
  | _ => .fail (.database .malformedRow)

def page (id : JobId) (limit offset : Int) : Script (Outcome (List ErrorEntry)) :=
  Script.request .listErrors (.selectErrors id limit offset) fun reply =>
    (reply.toRows.mapM ofRow).during .listErrors

def countOfReply (reply : Reply) : Outcome Int :=
  match reply.first? with
  | none => .fail (.database .noRow)
  | some (n :: _) => Jobs.value Json.int64 n
  | some [] => .fail (.database .malformedRow)

def count (id : JobId) : Script (Outcome Int) :=
  Script.request .countErrors (.countErrors id) fun reply =>
    (countOfReply reply).during .countErrors

end CatalogIntake.Sql.Errors
