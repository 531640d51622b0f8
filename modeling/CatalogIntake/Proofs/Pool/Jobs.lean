import CatalogIntake.Proofs.Concurrency.Accounts
import CatalogIntake.Proofs.Pool.Step
import Mathlib.Data.List.Nodup

namespace CatalogIntake

def Call.processedFor (id : JobId) (c : Call) (answer : c.Answer) : Int :=
  if c.jobId? = some id then c.processed answer else 0

def Call.failedFor (id : JobId) (c : Call) (answer : c.Answer) : Int :=
  if c.jobId? = some id then c.failed answer else 0

theorem Job.status_totalled (job : Job) (total : Int) :
    (job.totalled total).status = job.status := by
  unfold Job.totalled
  split <;> rfl

theorem Job.status_finished (job : Job) {status : JobStatus} (reason : Option String)
    (now : Instant) (other : status ≠ .completed) :
    (job.finished status reason now).status = .completed ↔ job.status = .completed := by
  unfold Job.finished
  by_cases h : job.status = .processing
  · rw [if_pos h, h]
    simp [other]
  · rw [if_neg h]

theorem Job.completed_after (job : Job) (now : Instant) (c : Call) (answer : c.Answer) :
    (Job.after now c answer job).status = .completed ↔ job.status = .completed ∨
      (∃ id, c = .completeIfDone id) ∧ job.isReadyToComplete = true := by
  cases c with
  | completeIfDone id =>
    show (job.checked now).status = .completed ↔ _
    unfold Job.checked
    cases hready : job.isReadyToComplete <;> simp
  | finalizeTotal id total =>
    show (job.totalled total).status = .completed ↔ _
    rw [job.status_totalled]
    simp
  | increment id processed failed => cases answer <;> simp [Job.after, Job.counted]
  | failJob id reason =>
    show (job.finished .failed (some reason) now).status = .completed ↔ _
    rw [job.status_finished _ _ (by decide)]
    simp
  | cancelJob id =>
    show (job.finished .cancelled none now).status = .completed ↔ _
    rw [job.status_finished _ _ (by decide)]
    simp
  | _ => simp [Job.after]

def Stage.Knows (known : Bool) : Stage → Prop
  | loading | settled (.error _) => True
  | settled (.ok outcome) => outcome.dropped = !known
  | _ => known = true

theorem Stage.Knows.goes {known : Bool} {chunk : Chunk} {stage next : Stage}
    (h : stage.Knows known) (goes : Stage.Goes chunk stage next) : next.Knows known := by
  cases goes <;> exact h

theorem Stage.Knows.asks {known : Bool} {chunk : Chunk} {stage next : Stage}
    {w : Concurrency.World} {c : Call} (h : stage.Knows known)
    (told : (w.jobs.get? chunk.jobId).isSome = known)
    (asks : Stage.Asks chunk stage c (w.answer c).1 next) : next.Knows known := by
  generalize hanswer : (w.answer c).1 = answer at asks
  cases asks with
  | unknown =>
    have hnone : w.jobs.get? chunk.jobId = none := Except.ok.inj hanswer
    rw [hnone] at told
    rw [← told]
    rfl
  | @found job =>
    have hsome : w.jobs.get? chunk.jobId = some job := Except.ok.inj hanswer
    rw [hsome] at told
    exact told.symm
  | unloaded | uncounted => trivial
  | unchecked | notDone | unconfirmed | confirmed =>
    have hknown : known = true := h
    rw [hknown]
    rfl
  | batched | batchFailed | inserted | insertFailed | logged _ | counted | completed => exact h

namespace Concurrency.World

variable (w : World) (c : Call) (id : JobId)

/-- A check completes a job when all its rows are accounted for. -/
theorem completed?_answer : c.completed? (w.answer c).1 = some id ↔
    c = .completeIfDone id ∧ (w.jobs.get? id).any (·.isReadyToComplete) = true := by
  cases c with
  | completeIfDone id' =>
    rw [answer_completeIfDone, JobTable.fst_completeIfDone]
    cases hready : (w.jobs.get? id').any (·.isReadyToComplete) with
    | false =>
      constructor
      · intro h
        cases h
      · rintro ⟨h, hother⟩
        cases h
        rw [hready] at hother
        cases hother
    | true =>
      constructor
      · intro h
        cases h
        exact ⟨rfl, hready⟩
      · rintro ⟨h, -⟩
        cases h
        rfl
  | _ => simp [Call.completed?]

end Concurrency.World

/-- A job before and after a step in which so many rows were added to its counters. -/
structure Job.Advances (processed failed : Int) (completes : Prop) (before after : Job) :
    Prop where
  processed : after.processedRows = before.processedRows + processed
  failed : after.failedRows = before.failedRows + failed
  status : after.status = .completed ↔ before.status = .completed ∨ completes
  fresh : completes → before.status ≠ .completed

theorem Job.Advances.refl (job : Job) : job.Advances 0 0 False job :=
  ⟨(Int.add_zero _).symm, (Int.add_zero _).symm, by simp, False.elim⟩

namespace Concurrency.World

variable (w : World) {c : Call} {id : JobId} {job : Job}

theorem advances_answer (create : c.isCreate = false) (known : w.jobs.get? id = some job) :
    ∃ after, (w.answer c).2.jobs.get? id = some after ∧
      job.Advances (c.processedFor id (w.answer c).1) (c.failedFor id (w.answer c).1)
        (c.completed? (w.answer c).1 = some id) after := by
  have hget := get?_answer w create id
  have hcompletes : c.completed? (w.answer c).1 = some id ↔
      c = .completeIfDone id ∧ job.isReadyToComplete = true := by
    rw [completed?_answer, known, Option.any_some]
  unfold Call.processedFor Call.failedFor
  by_cases hid : c.jobId? = some id
  · rw [if_pos hid, known] at hget
    rw [if_pos hid, if_pos hid]
    obtain ⟨hprocessed, hfailed⟩ := Import.counters_after job w.now c (w.answer c).1
    refine ⟨_, hget, hprocessed, hfailed, ?_, ?_⟩
    · have hnamed : (∃ id, c = .completeIfDone id) ↔ c = .completeIfDone id := by
        constructor
        · rintro ⟨id', rfl⟩
          rw [Option.some.inj hid]
        · exact fun h => ⟨id, h⟩
      rw [job.completed_after, hcompletes, hnamed]
    · intro h
      rw [(job.isReadyToComplete_iff.mp (hcompletes.mp h).2).1]
      decide
  · rw [if_neg hid, known] at hget
    rw [if_neg hid, if_neg hid]
    have hnot : ¬c.completed? (w.answer c).1 = some id := by
      intro h
      obtain ⟨rfl, -⟩ := hcompletes.mp h
      exact hid rfl
    exact ⟨job, hget, by omega, by omega, by simp [hnot], fun h => absurd h hnot⟩

end Concurrency.World

namespace Pool

def Deed.processedFor (id : JobId) : Deed → Int
  | .called _ c answer => c.processedFor id answer
  | .consumed .. => 0

def Deed.failedFor (id : JobId) : Deed → Int
  | .called _ c answer => c.failedFor id answer
  | .consumed .. => 0

def processedFor (p : Pool) (id : JobId) : Int := (p.deeds.map (Deed.processedFor id)).sum

def failedFor (p : Pool) (id : JobId) : Int := (p.deeds.map (Deed.failedFor id)).sum

variable {a : Action} {p p' : Pool} {id : JobId} {jobs : JobTable}

structure Grown (p : Pool) (id : JobId) (before after : Job) : Prop where
  processed : after.processedRows = before.processedRows + p.processedFor id
  failed : after.failedRows = before.failedRows + p.failedFor id
  completed : p.completed.count id =
    if before.status ≠ .completed ∧ after.status = .completed then 1 else 0
  stays : before.status = .completed → after.status = .completed

structure Follows (jobs : JobTable) (p : Pool) : Prop where
  known : ∀ {id before}, jobs.get? id = some before →
    ∃ after, p.world.jobs.get? id = some after ∧ p.Grown id before after
  unknown : ∀ {id}, jobs.get? id = none → p.world.jobs.get? id = none ∧ id ∉ p.completed

structure SameCalls (p p' : Pool) : Prop where
  processed : ∀ id, p'.processedFor id = p.processedFor id
  failed : ∀ id, p'.failedFor id = p.failedFor id
  completed : p'.completed = p.completed

theorem sameCalls_of_deeds (deeds : p'.deeds = p.deeds) : p.SameCalls p' := by
  constructor
  · intro id
    unfold processedFor
    rw [deeds]
  · intro id
    unfold failedFor
    rw [deeds]
  · unfold Pool.completed
    rw [deeds]

theorem sameCalls_finish {j : Nat} {w : Worker} {q : Parcel} {result : Outcome ChunkOutcome}
    {t : Traffic} : p.SameCalls (p.finish j w q result t) := by
  have hdeeds : (p.finish j w q result t).deeds = p.deeds ++ [.consumed q.number result] := rfl
  constructor
  · intro id
    simp [processedFor, hdeeds, Deed.processedFor]
  · intro id
    simp [failedFor, hdeeds, Deed.failedFor]
  · simp [Pool.completed, hdeeds, Deed.completed?]

theorem Grown.same {before after after' : Job} (h : p.Grown id before after)
    (calls : p.SameCalls p') (advances : after.Advances 0 0 False after') :
    p'.Grown id before after' := by
  have hstatus : after'.status = .completed ↔ after.status = .completed := by
    rw [advances.status, or_false]
  constructor
  · rw [calls.processed, advances.processed, h.processed, Int.add_zero]
  · rw [calls.failed, advances.failed, h.failed, Int.add_zero]
  · rw [calls.completed, h.completed]
    simp only [hstatus]
  · exact fun hbefore => hstatus.mpr (h.stays hbefore)

theorem Grown.called {before after after' : Job} {n : Nat} {c : Call} {answer : c.Answer}
    (h : p.Grown id before after) (deeds : p'.deeds = p.deeds ++ [.called n c answer])
    (advances : after.Advances (c.processedFor id answer) (c.failedFor id answer)
      (c.completed? answer = some id) after') : p'.Grown id before after' := by
  have hcompleted : p'.completed.count id = p.completed.count id +
      if c.completed? answer = some id then 1 else 0 := by
    unfold Pool.completed
    rw [deeds, Concurrency.System.filterMap_concat, List.count_append]
    cases hc : c.completed? answer with
    | none => simp [Deed.completed?, hc]
    | some other => simp [Deed.completed?, hc, List.count_singleton]
  constructor
  · rw [advances.processed, h.processed]
    unfold processedFor
    rw [deeds, List.map_append, List.sum_append]
    simp [Deed.processedFor, Int.add_assoc]
  · rw [advances.failed, h.failed]
    unfold failedFor
    rw [deeds, List.map_append, List.sum_append]
    simp [Deed.failedFor, Int.add_assoc]
  · rw [hcompleted, h.completed]
    by_cases hc : c.completed? answer = some id
    · -- it was not completed before, and so not when the workers started
      have hfresh := advances.fresh hc
      have hstart : before.status ≠ .completed := fun hbefore => hfresh (h.stays hbefore)
      have hnow := advances.status.mpr (.inr hc)
      simp [hc, hfresh, hstart, hnow]
    · have hstatus : after'.status = .completed ↔ after.status = .completed := by
        rw [advances.status]
        simp [hc]
      simp only [hc, if_false, Nat.add_zero, hstatus]
  · exact fun hbefore => advances.status.mpr (.inl (h.stays hbefore))

theorem follows_opening (world : Concurrency.World) (capacity : Nat) (chunks : List Chunk)
    (size : Nat) : (opening world capacity chunks size).Follows world.jobs where
  known {id before} h := by
    refine ⟨before, h, (Int.add_zero _).symm, (Int.add_zero _).symm, ?_, fun h => h⟩
    rw [if_neg fun h => h.1 h.2]
    rfl
  unknown {id} h := by
    refine ⟨h, fun hmem => ?_⟩
    cases hmem

theorem Follows.quiet (h : p.Follows jobs) (calls : p.SameCalls p')
    (known : ∀ {id before}, p.world.jobs.get? id = some before →
      ∃ after, p'.world.jobs.get? id = some after ∧ before.Advances 0 0 False after)
    (unknown : ∀ {id}, p.world.jobs.get? id = none → p'.world.jobs.get? id = none) :
    p'.Follows jobs := by
  constructor
  · intro id before hbefore
    obtain ⟨after, hafter, grown⟩ := h.known hbefore
    obtain ⟨after', hafter', advances⟩ := known hafter
    exact ⟨after', hafter', grown.same calls advances⟩
  · intro id hid
    obtain ⟨hnone, hcompleted⟩ := h.unknown hid
    rw [calls.completed]
    exact ⟨unknown hnone, hcompleted⟩

theorem Follows.same (h : p.Follows jobs) (calls : p.SameCalls p')
    (table : p'.world.jobs.jobs = p.world.jobs.jobs) : p'.Follows jobs := by
  have hget (id : JobId) : p'.world.jobs.get? id = p.world.jobs.get? id := by
    unfold JobTable.get?
    rw [table]
  apply h.quiet calls
  · intro id before hbefore
    exact ⟨before, (hget id).trans hbefore, .refl before⟩
  · intro id hid
    exact (hget id).trans hid

theorem Follows.step (h : p.Follows jobs) (step : Step p a p') : p'.Follows jobs := by
  cases step with
  | @handled j w q stage c next at_ busy asks =>
    obtain ⟨-, create, -⟩ := asks.jobId
    have hget := p.world.get?_answer create
    constructor
    · intro id before hbefore
      obtain ⟨after, hafter, grown⟩ := h.known hbefore
      obtain ⟨after', hafter', advances⟩ := p.world.advances_answer create hafter
      exact ⟨after', hafter', grown.called rfl advances⟩
    · intro id hid
      obtain ⟨hnone, hcompleted⟩ := h.unknown hid
      have hcalled : (p.handle j w q c next).completed =
          p.completed ++ (c.completed? (p.world.answer c).1).toList := filterMap_handle _ c next
      constructor
      · refine (hget id).trans ?_
        rw [hnone, Option.map_none, ite_self]
      · rw [hcalled, List.mem_append, Option.mem_toList,
          Concurrency.World.completed?_answer]
        rintro (hmem | ⟨-, hready⟩)
        · exact hcompleted hmem
        · rw [hnone] at hready
          cases hready
  | cancelled named =>
    refine h.quiet (sameCalls_of_deeds (by rfl)) ?_ ?_
    · intro id before hbefore
      obtain ⟨after, hafter, advances⟩ :=
        p.world.advances_answer (c := .cancelJob named) rfl hbefore
      refine ⟨after, hafter, ?_⟩
      simpa [Call.processedFor, Call.failedFor, Call.processed, Call.failed, Call.completed?]
        using advances
    · intro id hid
      refine (p.world.get?_answer (c := .cancelJob named) rfl id).trans ?_
      rw [hid, Option.map_none, ite_self]
  | finished _ _ _ => exact h.same sameCalls_finish rfl
  | supplied supply available =>
    cases supply <;> exact h.same (sameCalls_of_deeds rfl) rfl
  | received _ _ _ | left _ _ _ | thought _ _ _ | resent _ | letIn _ | waited _ =>
    exact h.same (sameCalls_of_deeds rfl) rfl

/-- No job is completed twice, and those that the workers have completed were not before. -/
theorem Follows.completed (h : p.Follows jobs) : p.completed.Nodup ∧ ∀ id, id ∈ p.completed ↔
    ∃ before after, jobs.get? id = some before ∧ p.world.jobs.get? id = some after ∧
      before.status ≠ .completed ∧ after.status = .completed := by
  constructor
  · rw [List.nodup_iff_count_le_one]
    intro id
    cases hid : jobs.get? id with
    | none =>
      rw [List.count_eq_zero_of_not_mem (h.unknown hid).2]
      exact Nat.zero_le 1
    | some before =>
      obtain ⟨after, -, grown⟩ := h.known hid
      rw [grown.completed]
      split <;> omega
  · intro id
    cases hid : jobs.get? id with
    | none => simp [(h.unknown hid).2]
    | some before =>
      obtain ⟨after, hafter, grown⟩ := h.known hid
      rw [← List.count_pos_iff, grown.completed]
      by_cases hchange : before.status ≠ .completed ∧ after.status = .completed
      · simp [hafter, hchange]
      · simp [hafter, hchange]

def Duty.Knows (jobs : JobTable) : Duty → Prop
  | .busy q stage => stage.Knows (jobs.get? q.delivery.chunk.jobId).isSome
  | _ => True

/-- The workers call for the jobs of the chunks, and they ignore the chunks of unknown jobs and only
these. -/
structure Informed (jobs : JobTable) (chunks : List Chunk) (p : Pool) : Prop where
  hands : ∀ w ∈ p.workers, w.duty.Knows jobs
  calls : ∀ n c answer, .called n c answer ∈ p.deeds →
    c.jobId? = none ∨ ∃ chunk ∈ chunks, c.jobId? = some chunk.jobId
  results : ∀ n outcome, .consumed n (.ok outcome) ∈ p.deeds → ∃ chunk, chunks[n]? = some chunk ∧
    outcome.dropped = !(jobs.get? chunk.jobId).isSome

variable {chunks : List Chunk}

theorem informed_opening (world : Concurrency.World) (capacity : Nat) (chunks : List Chunk)
    (size : Nat) : (opening world capacity chunks size).Informed world.jobs chunks where
  hands w hw := by
    rw [List.eq_of_mem_replicate hw]
    trivial
  calls n c answer h := by cases h
  results n outcome h := by cases h

theorem Follows.isSome_get? (h : p.Follows jobs) (id : JobId) :
    (p.world.jobs.get? id).isSome = (jobs.get? id).isSome := by
  cases hid : jobs.get? id with
  | none => rw [(h.unknown hid).1]
  | some before =>
    obtain ⟨after, hafter, -⟩ := h.known hid
    rw [hafter]
    rfl

theorem Informed.setWorker {j : Nat} {w' : Worker} (h : p.Informed jobs chunks)
    (workers : p'.workers = (p.setWorker j w').workers) (knows : w'.duty.Knows jobs) :
    ∀ w ∈ p'.workers, w.duty.Knows jobs := by
  intro w hw
  rw [workers] at hw
  rcases List.mem_or_eq_of_mem_set hw with hw | rfl
  · exact h.hands w hw
  · exact knows

theorem Informed.step (h : p.Informed jobs chunks) (sound : p.Sound chunks)
    (follows : p.Follows jobs) (step : Step p a p') : p'.Informed jobs chunks := by
  cases step with
  | received _ _ _ => exact ⟨h.setWorker rfl trivial, h.calls, h.results⟩
  | left _ _ _ => exact ⟨h.setWorker rfl trivial, h.calls, h.results⟩
  | thought at_ busy goes =>
    have hw := h.hands _ (List.mem_of_getElem? at_)
    rw [busy] at hw
    exact ⟨h.setWorker rfl (hw.goes goes), h.calls, h.results⟩
  | @handled j w q stage c next at_ busy asks =>
    have hw := h.hands _ (List.mem_of_getElem? at_)
    rw [busy] at hw
    refine ⟨h.setWorker rfl (hw.asks (follows.isSome_get? _) asks), ?_, ?_⟩
    · intro n c' answer hmem
      rcases List.mem_append.mp hmem with hmem | hmem
      · exact h.calls n c' answer hmem
      · cases List.mem_singleton.mp hmem
        rcases asks.jobId.1 with hid | hid
        · exact .inr ⟨_, List.mem_of_getElem? (sound.chunk at_ busy), hid⟩
        · exact .inl hid
    · intro n outcome hmem
      rcases List.mem_append.mp hmem with hmem | hmem
      · exact h.results n outcome hmem
      · cases List.mem_singleton.mp hmem
  | @finished j w q result t at_ busy settles =>
    refine ⟨h.setWorker rfl trivial, ?_, ?_⟩
    · intro n c answer hmem
      rcases List.mem_append.mp hmem with hmem | hmem
      · exact h.calls n c answer hmem
      · cases List.mem_singleton.mp hmem
    · intro n outcome hmem
      rcases List.mem_append.mp hmem with hmem | hmem
      · exact h.results n outcome hmem
      · cases List.mem_singleton.mp hmem
        have hw := h.hands _ (List.mem_of_getElem? at_)
        rw [busy] at hw
        exact ⟨q.delivery.chunk, sound.chunk at_ busy, hw⟩
  | supplied supply available =>
    cases supply <;> exact ⟨h.hands, h.calls, h.results⟩
  | resent _ | letIn _ | cancelled _ | waited _ => exact ⟨h.hands, h.calls, h.results⟩

section Sums

variable {ids : List JobId} {value : Int} {f : JobId → Deed → Int} {g : Deed → Int}

theorem sum_of_job (nodup : ids.Nodup) (hid : id ∈ ids) :
    (ids.map fun other => if some id = some other then value else 0).sum = value := by
  induction ids with
  | nil => cases hid
  | cons first rest ih =>
    rw [List.nodup_cons] at nodup
    rw [List.map_cons, List.sum_cons]
    rcases List.mem_cons.mp hid with rfl | hrest
    · have hnone : (rest.map fun other => if some id = some other then value else 0) =
          rest.map fun _ => 0 := by
        apply List.map_congr_left
        intro other hother
        apply if_neg
        intro heq
        exact nodup.1 (Option.some.inj heq ▸ hother)
      rw [hnone, if_pos rfl]
      simp
    · have hne : ¬some id = some first := by
        intro heq
        exact nodup.1 (Option.some.inj heq ▸ hrest)
      rw [ih nodup.2 hrest, if_neg hne, Int.zero_add]

theorem sum_over_jobs {ds : List Deed} (each : ∀ d ∈ ds, (ids.map (f · d)).sum = g d) :
    (ids.map fun id => (ds.map (f id)).sum).sum = (ds.map g).sum := by
  induction ds with
  | nil => simp
  | cons d ds ih =>
    have hds := ih fun d hd => each d (List.mem_cons_of_mem _ hd)
    simp only [List.map_cons, List.sum_cons, List.sum_map_add]
    rw [each d List.mem_cons_self, hds]

end Sums

/-- What is added to the counters is added to those of the jobs of the chunks. -/
theorem Informed.sum_for (h : p.Informed jobs chunks) {ids : List JobId} (nodup : ids.Nodup)
    (all : ∀ chunk ∈ chunks, chunk.jobId ∈ ids) :
    (ids.map p.processedFor).sum = p.processed ∧ (ids.map p.failedFor).sum = p.failed := by
  have hcalled (value : (c : Call) → c.Answer → Int)
      (without : ∀ c answer, c.jobId? = none → value c answer = 0) {n : Nat} {c : Call}
      {answer : c.Answer} (hmem : .called n c answer ∈ p.deeds) :
      (ids.map fun id => if c.jobId? = some id then value c answer else 0).sum =
        value c answer := by
    rcases h.calls n c answer hmem with hnone | ⟨chunk, hchunk, hid⟩
    · rw [hnone, without c answer hnone]
      simp
    · rw [hid]
      exact sum_of_job nodup (all chunk hchunk)
  constructor
  · apply sum_over_jobs
    intro d hd
    cases d with
    | called n c answer =>
      apply hcalled Call.processed _ hd
      intro c answer hnone
      cases c <;> first | rfl | cases hnone
    | consumed n result => simp [Deed.processedFor, Deed.processed]
  · apply sum_over_jobs
    intro d hd
    cases d with
    | called n c answer =>
      apply hcalled Call.failed _ hd
      intro c answer hnone
      cases c <;> first | rfl | cases hnone
    | consumed n result => simp [Deed.failedFor, Deed.failed]

end Pool

end CatalogIntake
