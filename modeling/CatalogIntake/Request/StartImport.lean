import CatalogIntake.Pipeline.Plan
import CatalogIntake.Settings.Basic

namespace CatalogIntake

open Text

inductive StartImportError
  | fileRequired
  | pipeline (failure : Failure)
  deriving DecidableEq, Repr

def StartImportError.message : StartImportError → String
  | .fileRequired => "File name is required and cannot be empty"
  | .pipeline f => s!"Failed to start import: {f.text}"

namespace StartImport

def validate (file : String) : Except StartImportError Unit :=
  if allBlank file then .error .fileRequired else .ok ()

def source (settings : ImportSettings) (file : String) : Path :=
  settings.resolveSource (trim file)

def createJob (job : Job) : Plan (Except StartImportError Unit) :=
  .call (.createJob job) fun
    | .ok _ => .done (.ok ())
    | .error f => .done (.error (.pipeline (f.during .createJob)))

end StartImport

end CatalogIntake
