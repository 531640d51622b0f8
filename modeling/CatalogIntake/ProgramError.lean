import CatalogIntake.Failure
import CatalogIntake.Json.Decode
import CatalogIntake.Sql.Migrate

namespace CatalogIntake

inductive ProgramError
  | database (error : DatabaseError)
  | migration (error : Sql.MigrationError)
  | configuration (text : String)
  | io (text : String)
  | decoding (error : Json.DecodeError)
  | invalidArgument (text : String)
  | notFound (text : String)
  /-- A failure of the pipeline with the texts of its chain, outermost first. -/
  | pipeline (chain : List String)
  /-- The program was aborted. -/
  | aborted (text : String)
  deriving DecidableEq, Repr

namespace ProgramError

def text : ProgramError → String
  | database e => s!"Database error: {e.text}"
  | migration e => s!"Migration error: {e.text}"
  | configuration text => s!"Inventory error: Configuration error: {text}"
  | io text => s!"Inventory error: IO error: {text}"
  | decoding e => s!"Inventory error: Serialization error: {e.message}"
  | invalidArgument text => s!"Invalid argument: {text}"
  | notFound text => s!"Not found: {text}"
  | pipeline chain => "Import pipeline error: " ++ ": ".intercalate chain
  | aborted text => text

def complaint : ProgramError → String
  | aborted text => text
  | e => s!"Error: {e.text}"

def exitCode : ProgramError → Nat
  | invalidArgument _ => 2
  | notFound _ => 3
  | configuration _ => 78
  | aborted _ => 101
  | _ => 1

def family : ProgramError → String
  | database _ => "Database"
  | migration _ => "Migration"
  | configuration _ | io _ | decoding _ => "Common"
  | invalidArgument _ => "InvalidArgument"
  | notFound _ => "NotFound"
  | pipeline _ => "Pipeline"
  | aborted _ => "Aborted"

def kind (e : ProgramError) : String := s!"{e.family}/{e.exitCode}"

def ofFailure (f : Failure) : ProgramError := .pipeline f.chain

end ProgramError

end CatalogIntake
