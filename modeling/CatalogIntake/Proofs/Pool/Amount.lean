import CatalogIntake.Proofs.Pool.Step

namespace CatalogIntake

namespace Stage

def processed : Stage → Int
  | checking stored | confirming stored => stored.processed
  | settled (.ok outcome) => outcome.processed
  | _ => 0

def failed : Stage → Int
  | checking stored | confirming stored => stored.errors.length
  | settled (.ok outcome) => outcome.failed
  | _ => 0

def hasCompleted : Stage → Bool
  | confirming _ => true
  | settled (.ok outcome) => outcome.completed
  | _ => false

end Stage

namespace Pool

/-- An amount that is nothing at first and changes only with what the calls bring about. -/
structure Amount where
  call : (c : Call) → c.Answer → Int
  stage : Stage → Int
  loading : stage .loading = 0
  goes : ∀ {chunk : Chunk} {s next : Stage}, Stage.Goes chunk s next → stage next = stage s
  asks : ∀ {world : Concurrency.World} {chunk : Chunk} {s next : Stage} {c : Call},
    Stage.Asks chunk s c (world.answer c).1 next →
      stage next = stage s + call c (world.answer c).1

namespace Amount

/-- How often a chunk is counted. -/
def counted : Amount where
  call c answer := if c.counts answer then 1 else 0
  stage s := if s.isCounted then 1 else 0
  loading := rfl
  goes h := by
    obtain ⟨hbefore, hafter⟩ := Stage.isCounted_of_goes h
    rw [hbefore, hafter]
  asks {world chunk s next c} h := by
    rw [Stage.isCounted_of_asks h]
    cases hcounts : c.counts (world.answer c).1 with
    | false => simp
    | true =>
      rw [Stage.not_isCounted_of_counts h hcounts]
      rfl

def processed : Amount where
  call c answer := c.processed answer
  stage := Stage.processed
  loading := rfl
  goes h := by cases h <;> rfl
  asks {world chunk s next c} h := by
    generalize (world.answer c).1 = answer at h
    cases h <;> simp [Stage.processed, Call.processed, ChunkOutcome.ofDropped, Stage.outcome]

def failed : Amount where
  call c answer := c.failed answer
  stage := Stage.failed
  loading := rfl
  goes h := by cases h <;> rfl
  asks {world chunk s next c} h := by
    generalize (world.answer c).1 = answer at h
    cases h <;> simp [Stage.failed, Call.failed, ChunkOutcome.ofDropped, Stage.outcome]

/-- How many jobs are completed. A job that has been completed can be looked up. -/
def completed : Amount where
  call c answer := if (c.completed? answer).isSome then 1 else 0
  stage s := if s.hasCompleted then 1 else 0
  loading := rfl
  goes h := by cases h <;> rfl
  asks {world chunk s next c} h := by
    generalize hanswer : (world.answer c).1 = answer at h
    cases h with
    | unconfirmed => cases hanswer
    | _ => simp [Stage.hasCompleted, Call.completed?, ChunkOutcome.ofDropped, Stage.outcome]

variable (m : Amount) (only : Nat → Bool)

def called : Deed → Int
  | .called n c answer => if only n then m.call c answer else 0
  | .consumed .. => 0

def reported : Deed → Int
  | .consumed n result => if only n then m.stage (.settled result) else 0
  | .called .. => 0

def pending : Duty → Int
  | .busy q stage => if only q.number then m.stage stage else 0
  | _ => 0

def Balanced (p : Pool) : Prop :=
  (p.deeds.map (m.called only)).sum =
    (p.deeds.map (m.reported only)).sum + (p.workers.map (m.pending only ·.duty)).sum

variable {m only} {a : Action} {p p' : Pool} {j : Nat} {w w' : Worker}

theorem balanced_opening (world : Concurrency.World) (capacity : Nat) (chunks : List Chunk)
    (size : Nat) : m.Balanced only (opening world capacity chunks size) := by
  show (0 : Int) = 0 + ((List.replicate (max size 1) ({} : Worker)).map (m.pending only ·.duty)).sum
  rw [List.map_replicate, List.sum_replicate]
  simp [pending]

theorem Balanced.setWorker (h : m.Balanced only p) (at_ : p.workers[j]? = some w) (ds : List Deed)
    (workers : p'.workers = (p.setWorker j w').workers) (deeds : p'.deeds = p.deeds ++ ds)
    (same : (ds.map (m.called only)).sum + m.pending only w.duty =
      (ds.map (m.reported only)).sum + m.pending only w'.duty) : m.Balanced only p' := by
  have hset := sum_setWorker (m.pending only ·.duty) at_ w'
  unfold Balanced at h ⊢
  rw [workers, deeds, List.map_append, List.map_append, List.sum_append, List.sum_append]
  omega

theorem Balanced.step (h : m.Balanced only p) (step : Step p a p') : m.Balanced only p' := by
  cases step with
  | received at_ idle _ =>
    apply h.setWorker at_ [] rfl (List.append_nil _).symm
    simp [idle, pending, m.loading]
  | left at_ idle _ =>
    apply h.setWorker at_ [] rfl (List.append_nil _).symm
    simp [idle, pending]
  | thought at_ busy goes =>
    apply h.setWorker at_ [] rfl (List.append_nil _).symm
    simp [busy, pending, m.goes goes]
  | @handled j w q stage c next at_ busy asks =>
    refine h.setWorker at_ [.called q.number c (p.world.answer c).1] (by rfl) (by rfl) ?_
    cases honly : only q.number with
    | false => simp [busy, pending, called, reported, honly]
    | true =>
      simp [busy, pending, called, reported, honly, m.asks asks]
      omega
  | @finished j w q result t at_ busy _ =>
    refine h.setWorker at_ [.consumed q.number result] (by rfl) (by rfl) ?_
    simp [busy, pending, called, reported]
  | resent _ | letIn _ | cancelled _ | supplied _ _ | waited _ => exact h

end Amount

end Pool

end CatalogIntake
