import CatalogIntake.Json.Decode

namespace CatalogIntake

inductive JobStatus
  | pending
  | processing
  | completed
  | failed
  | cancelled
  deriving DecidableEq, Repr, Inhabited

namespace JobStatus

def all : List JobStatus := [pending, processing, completed, failed, cancelled]

def name : JobStatus → String
  | pending => "pending"
  | processing => "processing"
  | completed => "completed"
  | failed => "failed"
  | cancelled => "cancelled"

def ofName? (s : String) : Option JobStatus := all.find? (·.name == s)

def isTerminal : JobStatus → Bool
  | completed | failed | cancelled => true
  | pending | processing => false

def decode : Json.Decoder JobStatus := Json.variant (all.map name) ofName?

theorem ofName?_name (status : JobStatus) : ofName? status.name = some status := by
  cases status <;> rfl

end JobStatus

end CatalogIntake
