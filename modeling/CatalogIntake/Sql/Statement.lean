import CatalogIntake.Job.ErrorEntry
import CatalogIntake.Product.Entry
import CatalogIntake.Sql.Migration

namespace CatalogIntake.Sql

open Number

inductive Param
  | null
  | text (value : String)
  | integer (value : Int)
  | identifier (value : JobId)
  | decimal (value : Decimal)
  | double (value : Double)
  | time (value : Instant)
  | json (value : Json)
  deriving Repr

namespace Param

def ofText : Option String → Param
  | none => null
  | some s => text s

def ofInteger : Option Int → Param
  | none => null
  | some n => integer n

/-- The value as the log of statements shows it; points in time are not told apart. -/
def toJson : Param → Json
  | null => .null
  | text s => .string s
  | integer n => .integer n
  | identifier id => .string id.text
  | decimal d => .string d.renderPlain
  | double x => .string x.hex
  | time _ => .string "<time>"
  | json value => .string value.render

end Param

inductive Statement
  | begin
  | commit
  | ping
  | insertJob (job : Job)
  | selectJob (id : JobId)
  | finishJob (id : JobId) (status : JobStatus) (reason : Option String)
  | setTotal (id : JobId) (total : Int)
  | addProgress (id : JobId) (processed failed : Int)
  | completeJob (id : JobId)
  | insertErrors (candidates : List ErrorCandidate)
  | selectErrors (id : JobId) (limit offset : Int)
  | countErrors (id : JobId)
  | insertProducts (products : List Product)
  | insertProduct (product : Product)
  | insertMessage (routingKey : String) (chunk : Chunk)
  | claimMessage (routingKey : String) (visibilitySeconds : Nat)
  | countMessages (routingKey : String)
  | deleteMessage (id : Int)
  | releaseMessage (id : Int) (reason : String)
  | currentDatabase
  | lockMigrations
  | unlockMigrations
  | createMigrationTable
  | selectDirtyVersion
  | selectApplied
  | runMigration (migration : Migration)
  | recordMigration (migration : Migration)
  | timeMigration (migration : Migration)
  deriving Repr

namespace Statement

def placeholders (first width : Nat) : String :=
  "(" ++ ", ".intercalate ((List.range width).map fun i => s!"${first + i}") ++ ")"

def valueRows (width count : Nat) : String :=
  ", ".intercalate ((List.range count).map fun i => placeholders (i * width + 1) width)

def productColumns : String :=
  "internal_id, name, description, brand, category, price, currency, stock, ean, color, size, " ++
    "availability"

def productParams (p : Product) : List Param :=
  [.text p.internalId, .text p.name, .text p.description, .text p.brand, .text p.category,
   .decimal p.price, .text p.currency, .integer p.stock, .text p.ean, .text p.color, .text p.size,
   .text p.availability]

def errorParams (e : ErrorCandidate) : List Param :=
  [.identifier e.jobId, .ofInteger e.rowNumber, .text e.message, .ofText e.rowData]

def text : Statement → String
  | begin => "BEGIN"
  | commit => "COMMIT"
  | ping => "SELECT 1"
  | insertJob _ =>
    "INSERT INTO import_jobs ( id, status, total_rows, processed_rows, failed_rows, " ++
      "start_time ) VALUES ($1, $2, $3, $4, $5, $6)"
  | selectJob _ =>
    "SELECT id, status, total_rows, processed_rows, failed_rows, start_time, end_time, " ++
      "failure_reason FROM import_jobs WHERE id = $1"
  | finishJob _ _ _ =>
    "UPDATE import_jobs SET status = $1, end_time = NOW(), failure_reason = $2 " ++
      "WHERE id = $3 AND status = $4"
  | setTotal _ _ => "UPDATE import_jobs SET total_rows = $1 WHERE id = $2 AND total_rows IS NULL"
  | addProgress _ _ _ =>
    "UPDATE import_jobs SET processed_rows = processed_rows + $1, " ++
      "failed_rows = failed_rows + $2 WHERE id = $3 " ++
      "RETURNING total_rows, processed_rows, failed_rows"
  | completeJob _ =>
    "UPDATE import_jobs SET status = $1, end_time = NOW() WHERE id = $2 AND status = $3 " ++
      "AND total_rows IS NOT NULL AND total_rows > 0 " ++
      "AND processed_rows + failed_rows >= total_rows"
  | insertErrors candidates =>
    "INSERT INTO import_errors (job_id, row_number, error_message, row_data) VALUES " ++
      valueRows 4 candidates.length
  | selectErrors _ _ _ =>
    "SELECT id, job_id, row_number, error_message, row_data, created_at FROM import_errors " ++
      "WHERE job_id = $1 ORDER BY id LIMIT $2 OFFSET $3"
  | countErrors _ => "SELECT COUNT(*) FROM import_errors WHERE job_id = $1"
  | insertProducts products =>
    "INSERT INTO products (" ++ productColumns ++ ") VALUES " ++ valueRows 12 products.length
  | insertProduct _ =>
    "INSERT INTO products ( " ++ productColumns ++ " ) VALUES " ++ placeholders 1 12
  | insertMessage _ _ =>
    "INSERT INTO import_chunk_queue (routing_key, job_id, chunk_number, payload) VALUES " ++
      placeholders 1 4
  | claimMessage _ _ =>
    "UPDATE import_chunk_queue SET claimed_at = NOW(), attempts = attempts + 1 WHERE id = ( " ++
      "SELECT id FROM import_chunk_queue WHERE routing_key = $1 AND (claimed_at IS NULL OR " ++
      "claimed_at < NOW() - make_interval(secs => $2)) ORDER BY id LIMIT 1 " ++
      "FOR UPDATE SKIP LOCKED ) RETURNING id, attempts, payload"
  | countMessages _ => "SELECT COUNT(*) FROM import_chunk_queue WHERE routing_key = $1"
  | deleteMessage _ => "DELETE FROM import_chunk_queue WHERE id = $1"
  | releaseMessage _ _ =>
    "UPDATE import_chunk_queue SET claimed_at = NULL, last_error = $1 WHERE id = $2"
  | currentDatabase => "SELECT current_database()"
  | lockMigrations => "SELECT pg_advisory_lock($1)"
  | unlockMigrations => "SELECT pg_advisory_unlock($1)"
  | createMigrationTable =>
    "CREATE TABLE IF NOT EXISTS _sqlx_migrations ( version BIGINT PRIMARY KEY, " ++
      "description TEXT NOT NULL, installed_on TIMESTAMPTZ NOT NULL DEFAULT now(), " ++
      "success BOOLEAN NOT NULL, checksum BYTEA NOT NULL, execution_time BIGINT NOT NULL );"
  | selectDirtyVersion =>
    "SELECT version FROM _sqlx_migrations WHERE success = false ORDER BY version LIMIT 1"
  | selectApplied => "SELECT version, checksum FROM _sqlx_migrations ORDER BY version"
  | runMigration migration => migration.text
  | recordMigration _ =>
    "INSERT INTO _sqlx_migrations ( version, description, success, checksum, execution_time ) " ++
      "VALUES ( $1, $2, TRUE, $3, -1 )"
  | timeMigration _ => "UPDATE _sqlx_migrations SET execution_time = $1 WHERE version = $2"

/-- The values bound to the placeholders, in their order. The bookkeeping of migrations is left out:
it is not logged. -/
def params : Statement → List Param
  | insertJob job =>
    [.identifier job.id, .text job.status.name, .ofInteger job.totalRows,
     .integer job.processedRows, .integer job.failedRows, .time job.startTime]
  | selectJob id => [.identifier id]
  | finishJob id status reason =>
    [.text status.name, .ofText reason, .identifier id, .text JobStatus.processing.name]
  | setTotal id total => [.integer total, .identifier id]
  | addProgress id processed failed => [.integer processed, .integer failed, .identifier id]
  | completeJob id =>
    [.text JobStatus.completed.name, .identifier id, .text JobStatus.processing.name]
  | insertErrors candidates => candidates.flatMap errorParams
  | selectErrors id limit offset => [.identifier id, .integer limit, .integer offset]
  | countErrors id => [.identifier id]
  | insertProducts products => products.flatMap productParams
  | insertProduct product => productParams product
  | insertMessage routingKey chunk =>
    [.text routingKey, .identifier chunk.jobId, .integer chunk.number, .json chunk.toJson]
  | claimMessage routingKey visibilitySeconds =>
    [.text routingKey, .double (Double.ofInt visibilitySeconds)]
  | countMessages routingKey => [.text routingKey]
  | deleteMessage id => [.integer id]
  | releaseMessage id reason => [.text reason, .integer id]
  | _ => []

/-- Values that one statement can carry: the protocol counts them in sixteen bits. -/
def valueLimit : Nat := 65535

def isLogged : Statement → Bool
  | currentDatabase | lockMigrations | unlockMigrations | createMigrationTable
  | selectDirtyVersion | selectApplied | recordMigration _ | timeMigration _ => false
  | _ => true

def toJson (s : Statement) : Json :=
  .object [("params", Json.list Param.toJson s.params), ("sql", .string s.text)]

end Statement

end CatalogIntake.Sql
