import CatalogIntake.Proofs.Pool.Amount

namespace CatalogIntake

namespace WorkerStats

theorem joined_eq (all : List WorkerStats) :
    joined all = {
      chunksConsumed := (all.map (·.chunksConsumed)).sum
      chunksRetried := (all.map (·.chunksRetried)).sum
      rowsProcessed := (all.map (·.rowsProcessed)).sum
      rowsFailed := (all.map (·.rowsFailed)).sum
      jobsCompleted := (all.map (·.jobsCompleted)).sum } := by
  have hfold (s : WorkerStats) : all.foldl merge s = s.merge {
      chunksConsumed := (all.map (·.chunksConsumed)).sum
      chunksRetried := (all.map (·.chunksRetried)).sum
      rowsProcessed := (all.map (·.rowsProcessed)).sum
      rowsFailed := (all.map (·.rowsFailed)).sum
      jobsCompleted := (all.map (·.jobsCompleted)).sum } := by
    induction all generalizing s with
    | nil => simp [merge]
    | cons first rest ih =>
      rw [List.foldl_cons, ih]
      simp [merge, Nat.add_assoc, Int.add_assoc]
  rw [joined, hfold]
  simp [merge]

theorem joined_perm {all order : List WorkerStats} (h : order.Perm all) :
    joined order = joined all := by
  simp only [joined_eq, (h.map _).sum_eq]

theorem joined_cons (s : WorkerStats) (all : List WorkerStats) :
    joined (s :: all) = s.merge (joined all) := by
  simp [joined_eq, merge]

theorem merge_after (s t : WorkerStats) (result : Outcome ChunkOutcome) :
    (s.after result).merge t = (s.merge t).after result := by
  cases result with
  | ok outcome =>
    simp [after, consumed, merge]
    omega
  | error f =>
    simp [after, retried, merge]
    omega

end WorkerStats

namespace Pool

def Deed.outcome? : Deed → Option ChunkOutcome
  | .consumed _ (.ok outcome) => some outcome
  | _ => none

def outcomes (p : Pool) : List ChunkOutcome := p.deeds.filterMap Deed.outcome?

def reported (p : Pool) : WorkerStats where
  chunksConsumed := p.succeeded.length
  chunksRetried := p.retried.length
  rowsProcessed := (p.outcomes.map (·.processed)).sum
  rowsFailed := (p.outcomes.map (·.failed)).sum
  jobsCompleted := p.outcomes.countP (·.completed)

variable {a : Action} {p p' : Pool} {j : Nat} {w : Worker}

theorem reported_finish {q : Parcel} {t : Traffic} (result : Outcome ChunkOutcome) :
    (p.finish j w q result t).reported = p.reported.after result := by
  unfold reported succeeded retried outcomes
  simp only [filterMap_finish]
  cases result with
  | ok outcome =>
    simp [WorkerStats.after, WorkerStats.consumed, Deed.succeeded?, Deed.retried?, Deed.outcome?,
      List.countP_singleton]
  | error f =>
    simp [WorkerStats.after, WorkerStats.retried, Deed.succeeded?, Deed.retried?, Deed.outcome?]

theorem reported_handle {q : Parcel} (c : Call) (next : c.Answer → Stage) :
    (p.handle j w q c next).reported = p.reported := by
  unfold reported succeeded retried outcomes
  simp only [filterMap_handle, Deed.succeeded?, Deed.retried?, Deed.outcome?, Option.toList_none,
    List.append_nil]

def Told (p : Pool) : Prop := WorkerStats.joined (p.workers.map (·.stats)) = p.reported

theorem told_opening (world : Concurrency.World) (capacity : Nat) (chunks : List Chunk)
    (size : Nat) : (opening world capacity chunks size).Told := by
  have hworkers : (opening world capacity chunks size).workers.map (·.stats) =
      List.replicate (max size 1) {} := List.map_replicate
  unfold Told
  rw [hworkers, WorkerStats.joined_eq]
  simp
  rfl

theorem Told.step (h : p.Told) (step : Step p a p') : p'.Told := by
  have hjoined {w : Worker} {j : Nat} (at_ : p.workers[j]? = some w) (w' : Worker) : ∃ others,
      WorkerStats.joined (p.workers.map (·.stats)) = w.stats.merge others ∧
        WorkerStats.joined ((p.setWorker j w').workers.map (·.stats)) = w'.stats.merge others := by
    obtain ⟨hbefore, hafter⟩ := perm_workers at_ w'
    have hbefore' := hbefore.map Worker.stats
    have hafter' := hafter.map Worker.stats
    rw [WorkerStats.joined_perm hbefore', WorkerStats.joined_perm hafter', List.map_cons,
      List.map_cons, WorkerStats.joined_cons, WorkerStats.joined_cons]
    exact ⟨_, rfl, rfl⟩
  -- a worker that reports nothing
  have hsame {w w' : Worker} {j : Nat} (at_ : p.workers[j]? = some w)
      (workers : p'.workers = (p.setWorker j w').workers) (stats : w'.stats = w.stats)
      (reported : p'.reported = p.reported) : p'.Told := by
    obtain ⟨others, hbefore, hafter⟩ := hjoined at_ w'
    unfold Told at h ⊢
    rw [workers, hafter, stats, ← hbefore, reported, h]
  cases step with
  | received at_ _ _ => exact hsame at_ rfl rfl rfl
  | left at_ _ _ => exact hsame at_ rfl rfl rfl
  | thought at_ _ _ => exact hsame at_ rfl rfl rfl
  | handled at_ _ _ => exact hsame at_ rfl rfl (reported_handle _ _)
  | @finished j w q result t at_ _ _ =>
    obtain ⟨others, hbefore, hafter⟩ := hjoined at_ ⟨.idle, w.stats.after result⟩
    unfold Told at h ⊢
    calc
      WorkerStats.joined ((p.finish j w q result t).workers.map (·.stats)) =
          (w.stats.after result).merge others := hafter
      _ = (w.stats.merge others).after result := WorkerStats.merge_after _ _ _
      _ = p.reported.after result := by rw [← hbefore, h]
      _ = (p.finish j w q result t).reported := (reported_finish result).symm
  | resent _ | letIn _ | cancelled _ | supplied _ _ | waited _ => exact h

section Sums

variable {α : Type} {f : Deed → Option α} {g : Deed → Int}

theorem sum_eq_filterMap {v : α → Int} {ds : List Deed}
    (each : ∀ d ∈ ds, g d = ((f d).map v).getD 0) :
    (ds.map g).sum = ((ds.filterMap f).map v).sum := by
  induction ds with
  | nil => rfl
  | cons d ds ih =>
    have hd := each d List.mem_cons_self
    have hds := ih fun d hd => each d (List.mem_cons_of_mem _ hd)
    rw [List.map_cons, List.sum_cons, List.filterMap_cons, hd, hds]
    cases f d <;> simp

theorem sum_indicator (v : α → Bool) (xs : List α) :
    (xs.map fun x => if v x then (1 : Int) else 0).sum = (xs.countP v : Nat) := by
  induction xs with
  | nil => rfl
  | cons x xs ih =>
    rw [List.map_cons, List.sum_cons, ih, List.countP_cons]
    cases v x with
    | false => simp
    | true =>
      simp
      omega

theorem sum_eq_countP {v : α → Bool} {ds : List Deed}
    (each : ∀ d ∈ ds, g d = ((f d).map fun x => if v x then 1 else 0).getD 0) :
    (ds.map g).sum = ((ds.filterMap f).countP v : Nat) :=
  (sum_eq_filterMap each).trans (sum_indicator v _)

end Sums

theorem Amount.Balanced.reported {m : Amount} {only : Nat → Bool} (h : m.Balanced only p)
    (gone : ∀ w ∈ p.workers, w.duty = .gone) :
    (p.deeds.map (m.called only)).sum = (p.deeds.map (m.reported only)).sum := by
  have hnothing : p.workers.map (m.pending only ·.duty) = p.workers.map fun _ => (0 : Int) := by
    apply List.map_congr_left
    intro w hw
    rw [gone w hw]
    rfl
  unfold Amount.Balanced at h
  rw [h, hnothing]
  simp

abbrev Amount.Complete (m : Amount) (p : Pool) : Prop := m.Balanced (fun _ => true) p

theorem Amount.Complete.sum_eq {m : Amount} (h : m.Complete p)
    (gone : ∀ w ∈ p.workers, w.duty = .gone) {brought : Deed → Int} {told : ChunkOutcome → Int}
    (calls : ∀ d, brought d = m.called (fun _ => true) d)
    (results : ∀ d, m.reported (fun _ => true) d = ((d.outcome?).map told).getD 0) :
    (p.deeds.map brought).sum = (p.outcomes.map told).sum := by
  calc
    (p.deeds.map brought).sum = (p.deeds.map (m.called fun _ => true)).sum := by
      rw [funext calls]
    _ = (p.deeds.map (m.reported fun _ => true)).sum := h.reported gone
    _ = (p.outcomes.map told).sum := sum_eq_filterMap fun d _ => results d

theorem joined_eq_of_gone (told : p.Told) (processed : Amount.processed.Complete p)
    (failed : Amount.failed.Complete p) (completed : Amount.completed.Complete p)
    (gone : ∀ w ∈ p.workers, w.duty = .gone) {order : List WorkerStats}
    (joins : order.Perm (p.workers.map (·.stats))) :
    WorkerStats.joined order = {
      chunksConsumed := p.succeeded.length
      chunksRetried := p.retried.length
      rowsProcessed := p.processed
      rowsFailed := p.failed
      jobsCompleted := p.completed.length } := by
  have hprocessed : p.processed = (p.outcomes.map (·.processed)).sum := by
    apply processed.sum_eq gone
    · intro d
      cases d <;> rfl
    · intro d
      rcases d with _ | ⟨n, f | outcome⟩ <;> rfl
  have hfailed : p.failed = (p.outcomes.map (·.failed)).sum := by
    apply failed.sum_eq gone
    · intro d
      cases d <;> rfl
    · intro d
      rcases d with _ | ⟨n, f | outcome⟩ <;> rfl
  have hcompleted : (p.completed.length : Int) = (p.outcomes.countP (·.completed) : Nat) := by
    calc
      (p.completed.length : Int) = p.completed.countP fun _ => true := by simp
      _ = (p.deeds.map fun d => if d.completed?.isSome then (1 : Int) else 0).sum := by
        symm
        apply sum_eq_countP
        intro d _
        cases hd : d.completed? <;> simp
      _ = (p.outcomes.map fun outcome => if outcome.completed then (1 : Int) else 0).sum := by
        apply completed.sum_eq gone
        · intro d
          cases d <;> rfl
        · intro d
          rcases d with _ | ⟨n, f | outcome⟩ <;> rfl
      _ = (p.outcomes.countP (·.completed) : Nat) := sum_indicator _ _
  rw [WorkerStats.joined_perm joins, told, hprocessed, hfailed, Int.ofNat_inj.mp hcompleted]
  rfl

end Pool

end CatalogIntake
