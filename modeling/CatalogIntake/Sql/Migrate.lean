import CatalogIntake.Sql.Jobs

namespace CatalogIntake.Sql

inductive MigrationError
  | database (error : DatabaseError)
  | script (version : Nat) (error : DatabaseError)
  | interrupted (version : Int)
  | unknown (version : Int)
  | changed (version : Nat)
  deriving DecidableEq, Repr

def MigrationError.text : MigrationError → String
  | .database e => s!"while executing migrations: {e.text}"
  | .script version e => s!"while executing migration {version}: {e.text}"
  | .interrupted version =>
    s!"migration {version} is partially applied; fix and remove row from `_sqlx_migrations` table"
  | .unknown version =>
    s!"migration {version} was previously applied but is missing in the resolved migrations"
  | .changed version => s!"migration {version} was previously applied but has been modified"

namespace Migrate

structure Applied where
  version : Int
  checksum : String

abbrev Step (α : Type) := ExceptT MigrationError Script α

def send (statement : Statement) : Step Reply :=
  .mk (.send statement fun
    | .ok reply => .done (.ok reply)
    | .error e => .done (.error (.database e)))

def sendScript (migration : Migration) : Step Reply :=
  .mk (.send (.runMigration migration) fun
    | .ok reply => .done (.ok reply)
    | .error e => .done (.error (.script migration.version e)))

def versionOf : Row → Option Int
  | .integer n :: _ => some n
  | _ => none

def appliedOf : Row → Option Applied
  | [.integer version, checksum] => do
    return ⟨version, ← (checksum.get? "hex").bind Json.text?⟩
  | _ => none

def lock (statement : Statement) : Step Unit := do
  let _ ← send .currentDatabase
  let _ ← send statement

def checkInterrupted : Step Unit := do
  match (← send .selectDirtyVersion).first?.bind versionOf with
  | some version => throw (.interrupted version)
  | none => return

def applied : Step (List Applied) := do
  return (← send .selectApplied).toRows.filterMap appliedOf

def firstUnknown? (known : List Migration) (past : List Applied) : Option Applied :=
  past.find? fun a => !known.any fun m => (m.version : Int) == a.version

def apply (migration : Migration) : Step Unit := do
  let _ ← send .begin
  let _ ← sendScript migration
  let _ ← send (.recordMigration migration)
  let _ ← send .commit
  let _ ← send (.timeMigration migration)

def applyOrCheck (past : List Applied) (migration : Migration) : Step Unit := do
  match past.find? fun a => a.version == (migration.version : Int) with
  | some a => if a.checksum != migration.checksum then throw (.changed migration.version)
  | none => apply migration

def all : Step Unit := do
  lock .lockMigrations
  let _ ← send .createMigrationTable
  checkInterrupted
  let past ← applied
  if let some a := firstUnknown? Migration.all past then throw (.unknown a.version)
  Migration.all.forM (applyOrCheck past)
  lock .unlockMigrations

end Migrate

def migrate : Script (Except MigrationError Unit) := Migrate.all.run

end CatalogIntake.Sql
