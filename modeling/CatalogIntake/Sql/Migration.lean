namespace CatalogIntake.Sql

structure Migration where
  version : Nat
  text : String
  /-- The digest of the script in hexadecimal digits. -/
  checksum : String
  deriving DecidableEq, Repr

namespace Migration

def createProducts : Migration where
  version := 20261018000001
  text := "-- Product catalogue written by the import pipeline " ++
    "CREATE TABLE IF NOT EXISTS products ( id BIGSERIAL PRIMARY KEY, " ++
    "internal_id TEXT NOT NULL, name TEXT NOT NULL CHECK (length(trim(name)) > 0), " ++
    "description VARCHAR(1000) NOT NULL DEFAULT '', brand TEXT NOT NULL DEFAULT '', " ++
    "category TEXT NOT NULL DEFAULT '', price NUMERIC(19, 4) NOT NULL, " ++
    "currency TEXT NOT NULL DEFAULT '', stock INTEGER NOT NULL, " ++
    "ean TEXT NOT NULL DEFAULT '', color TEXT NOT NULL DEFAULT '', " ++
    "size TEXT NOT NULL DEFAULT '', availability TEXT NOT NULL DEFAULT '', " ++
    "created_at TIMESTAMPTZ NOT NULL DEFAULT NOW(), " ++
    "CONSTRAINT products_internal_id_key UNIQUE (internal_id) ); " ++
    "CREATE INDEX IF NOT EXISTS idx_products_category ON products (category);"
  checksum := "f5886cb3fee52aeb4b0338db8a2ace93e1e30d772d1436606457743bd89b7efe" ++
    "43ea91ad28512e3edb3158b27df701f3"

def createJobs : Migration where
  version := 20261018000002
  text := "-- Import job tracking and per-row error log " ++
    "CREATE TABLE IF NOT EXISTS import_jobs ( id UUID PRIMARY KEY, status TEXT NOT NULL " ++
    "CHECK (status IN ('pending', 'processing', 'completed', 'failed', 'cancelled')), " ++
    "-- NULL until the producer has read the whole source " ++
    "total_rows BIGINT CHECK (total_rows IS NULL OR total_rows >= 0), " ++
    "processed_rows BIGINT NOT NULL DEFAULT 0 CHECK (processed_rows >= 0), " ++
    "failed_rows BIGINT NOT NULL DEFAULT 0 CHECK (failed_rows >= 0), " ++
    "start_time TIMESTAMPTZ NOT NULL DEFAULT NOW(), end_time TIMESTAMPTZ, " ++
    "failure_reason TEXT ); " ++
    "CREATE INDEX IF NOT EXISTS idx_import_jobs_status ON import_jobs (status); " ++
    "CREATE TABLE IF NOT EXISTS import_errors ( id BIGSERIAL PRIMARY KEY, " ++
    "job_id UUID NOT NULL REFERENCES import_jobs (id) ON DELETE CASCADE, " ++
    "row_number BIGINT, error_message VARCHAR(1000) NOT NULL, row_data VARCHAR(2000), " ++
    "created_at TIMESTAMPTZ NOT NULL DEFAULT NOW() ); " ++
    "CREATE INDEX IF NOT EXISTS idx_import_errors_job_id ON import_errors (job_id, id);"
  checksum := "20219543e00655cd056e43da12da21ceeb198f9afa071368455cadb067b3f2ac" ++
    "ada42251e35c150940a9b0501f3d266a"

def createQueue : Migration where
  version := 20261018000003
  text := "-- Durable chunk queue shared by producers and workers. " ++
    "-- A row is one message; workers claim with FOR UPDATE SKIP LOCKED and delete on ack. " ++
    "CREATE TABLE IF NOT EXISTS import_chunk_queue ( id BIGSERIAL PRIMARY KEY, " ++
    "routing_key TEXT NOT NULL, job_id UUID NOT NULL, chunk_number INTEGER NOT NULL, " ++
    "payload JSONB NOT NULL, attempts INTEGER NOT NULL DEFAULT 0, last_error TEXT, " ++
    "published_at TIMESTAMPTZ NOT NULL DEFAULT NOW(), claimed_at TIMESTAMPTZ ); " ++
    "CREATE INDEX IF NOT EXISTS idx_import_chunk_queue_visible " ++
    "ON import_chunk_queue (routing_key, id) WHERE claimed_at IS NULL;"
  checksum := "36c0c1c3afbac17a6131811fe2e7b27d77b345ce386cbbc547109f1fae8dd70b" ++
    "db47b9f86230162787beb6d4769d1206"

def all : List Migration := [createProducts, createJobs, createQueue]

end Migration

end CatalogIntake.Sql
