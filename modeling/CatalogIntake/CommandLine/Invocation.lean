import CatalogIntake.CommandLine.Grammar
import CatalogIntake.JobId
import CatalogIntake.Number.Integer
import CatalogIntake.Request.ErrorPage

namespace CatalogIntake.CommandLine

open Number

inductive Task
  | work (workers : Option Nat)
  | importFile (file : String) (wait : Bool)
  | run (file : String) (inMemory : Bool)
  | status (id : JobId)
  | errors (id : JobId) (limit offset : Int)
  | cancel (id : JobId)
  | migrate
  deriving DecidableEq, Repr

structure Invocation where
  task : Task
  verbose : Bool
  deriving DecidableEq, Repr

def isInteger (w : Width) (s : String) : Bool := (readInteger w s).toBool

def isJobId (s : String) : Bool := (JobId.read s).toBool

def anyText (_ : String) : Bool := true

def fileArgument : Positional :=
  ⟨⟨"FILE", anyText, none⟩, "CSV file, relative to IMPORT_DATA_DIR or absolute"⟩

def jobArgument : Positional := ⟨⟨"JOB_ID", isJobId, none⟩, ""⟩

def workCommand : Command where
  name := "worker"
  about := "Consume chunks from the durable queue until interrupted"
  switches := [⟨"workers", some 'w', "Concurrent chunk consumers (defaults to IMPORT_WORKER_COUNT)",
    .take ⟨"WORKERS", isInteger Width.u64, none⟩⟩]

def importCommand : Command where
  name := "import"
  about := "Start an import; chunks go to the durable queue"
  positionals := [fileArgument]
  switches := [⟨"wait", none, "Wait until the job reaches a terminal status", .set⟩]

def runCommand : Command where
  name := "run"
  about := "Import a file end to end in this process"
  positionals := [fileArgument]
  switches :=
    [⟨"in-memory", none, "Keep jobs, errors and products in memory instead of Postgres", .set⟩]

def statusCommand : Command where
  name := "status"
  about := "Show an import job"
  positionals := [jobArgument]

def errorsCommand : Command where
  name := "errors"
  about := "List the error log of an import job"
  positionals := [jobArgument]
  switches :=
    [⟨"limit", some 'l', "Page size",
        .take ⟨"LIMIT", isInteger Width.i64, some (toString ErrorPage.defaultLimit)⟩⟩,
     ⟨"offset", none, "Rows to skip", .take ⟨"OFFSET", isInteger Width.i64, some "0"⟩⟩]

def cancelCommand : Command where
  name := "cancel"
  about := "Cancel a processing import job"
  positionals := [jobArgument]

def migrateCommand : Command where
  name := "migrate"
  about := "Apply database migrations"

def importer : Grammar where
  name := "inventory-import"
  about := "Bulk CSV product importer"
  commands := [workCommand, importCommand, runCommand, statusCommand, errorsCommand, cancelCommand,
    migrateCommand]
  switches := [⟨"verbose", some 'v', "Verbose output", .set⟩]

def version : String := "0.1.0"

def integerOf (w : Width) (s : String) : Int := ((readInteger w s).toOption).getD 0

def jobIdOf (m : Matches) : JobId := ((JobId.read (m.text "JOB_ID" "")).toOption).getD default

def taskOf (name : String) (m : Matches) : Task :=
  match name with
  | "worker" => .work ((m.lookup "workers").map fun s => (integerOf Width.u64 s).toNat)
  | "import" => .importFile (m.text "FILE" "") (m.has "wait")
  | "run" => .run (m.text "FILE" "") (m.has "in-memory")
  | "status" => .status (jobIdOf m)
  | "errors" =>
    .errors (jobIdOf m)
      (integerOf Width.i64 (m.text "limit" (toString ErrorPage.defaultLimit)))
      (integerOf Width.i64 (m.text "offset" "0"))
  | "cancel" => .cancel (jobIdOf m)
  | _ => .migrate

def Invocation.read (args : List String) : Except UsageError Invocation :=
  (importer.read true args).map fun call =>
    ⟨taskOf call.command.name call.own, call.own.has "verbose" || call.general.has "verbose"⟩

end CatalogIntake.CommandLine
