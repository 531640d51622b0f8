import CatalogIntake.Proofs.Pool.Effort
import CatalogIntake.Proofs.Pool.Jobs
import CatalogIntake.Proofs.Pool.Progress
import CatalogIntake.Proofs.Pool.Report

/-!
A pool of workers at a closed bus comes to its end. Every chunk is then acknowledged or dropped, all
workers have been told that nothing more will come, and the sums that they have kept are exact.
-/

namespace CatalogIntake.Pool

/-- What has become of a chunk by the end, if its job is known or is not. -/
inductive Fate (p : Pool) (n : Nat) (known : Bool) : Prop
  | acked (acked : p.manifest.acked.count n = 1) (kept : n ∉ p.manifest.dropped)
      (succeeded : p.succeeded.count n = 1) (retried : p.retried.count n ≤ 4)
      (counted : p.counted.count n = if known then 1 else 0)
  | dropped (dropped : p.manifest.dropped.count n = 1) (unacked : n ∉ p.manifest.acked)
      (failed : n ∉ p.succeeded) (retried : p.retried.count n = 5) (uncounted : n ∉ p.counted)

/-- So many workers are done with these chunks. The jobs are as they were when the workers began. -/
structure Drained (jobs : JobTable) (chunks : List Chunk) (size : Nat) (p : Pool) : Prop where
  workers : p.workers.length = max size 1
  gone : ∀ w ∈ p.workers, w.duty = .gone
  fates : ∀ n chunk, chunks[n]? = some chunk → p.Fate n (jobs.get? chunk.jobId).isSome
  /-- The sums, in whatever order the workers are joined. -/
  stats : ∀ order, order.Perm (p.workers.map (·.stats)) → WorkerStats.joined order = {
    chunksConsumed := p.manifest.acked.length
    chunksRetried := p.retried.length
    rowsProcessed := p.processed
    rowsFailed := p.failed
    jobsCompleted := p.completed.length }
  /-- What the workers have added to the counters, over all jobs. -/
  rows : ∀ ids : List JobId, ids.Nodup → (∀ chunk ∈ chunks, chunk.jobId ∈ ids) →
    (ids.map p.processedFor).sum = p.processed ∧ (ids.map p.failedFor).sum = p.failed
  counters : ∀ id before, jobs.get? id = some before → ∃ after, p.world.jobs.get? id = some after ∧
    after.processedRows = before.processedRows + p.processedFor id ∧
    after.failedRows = before.failedRows + p.failedFor id
  completed : p.completed.Nodup ∧ ∀ id, id ∈ p.completed ↔
    ∃ before after, jobs.get? id = some before ∧ p.world.jobs.get? id = some after ∧
      before.status ≠ .completed ∧ after.status = .completed

structure Kept (jobs : JobTable) (chunks : List Chunk) (size : Nat) (p : Pool) : Prop where
  sound : p.Sound chunks
  ended : p.Ended
  workers : p.workers.length = max size 1
  told : p.Told
  processed : Amount.processed.Complete p
  failed : Amount.failed.Complete p
  completed : Amount.completed.Complete p
  counted : ∀ n, Amount.counted.Balanced (· == n) p
  follows : p.Follows jobs
  informed : p.Informed jobs chunks

variable {a : Action} {p p' : Pool} {jobs : JobTable} {chunks : List Chunk} {size : Nat}

theorem kept_opening (world : Concurrency.World) (capacity : Nat) (chunks : List Chunk)
    (size : Nat) : (opening world capacity chunks size).Kept world.jobs chunks size where
  sound := sound_opening world capacity chunks size
  ended := ended_opening world capacity chunks size
  workers := List.length_replicate
  told := told_opening world capacity chunks size
  processed := Amount.balanced_opening world capacity chunks size
  failed := Amount.balanced_opening world capacity chunks size
  completed := Amount.balanced_opening world capacity chunks size
  counted _ := Amount.balanced_opening world capacity chunks size
  follows := follows_opening world capacity chunks size
  informed := informed_opening world capacity chunks size

theorem length_workers (step : Step p a p') : p'.workers.length = p.workers.length := by
  cases step with
  | received _ _ _ | left _ _ _ | thought _ _ _ | handled _ _ _ | finished _ _ _ =>
    exact List.length_set
  | supplied supply available => cases supply <;> rfl
  | resent _ | letIn _ | cancelled _ | waited _ => rfl

theorem Kept.step (h : p.Kept jobs chunks size) (step : Step p a p') :
    p'.Kept jobs chunks size where
  sound := h.sound.step step
  ended := h.ended.step h.sound step
  workers := (length_workers step).trans h.workers
  told := h.told.step step
  processed := h.processed.step step
  failed := h.failed.step step
  completed := h.completed.step step
  counted n := (h.counted n).step step
  follows := h.follows.step step
  informed := h.informed.step h.sound h.follows step

variable (h : p.Kept jobs chunks size)

include h in
theorem count_handedOut_le (n : Nat) : p.manifest.handedOut.count n ≤ 5 := by
  have haccounts := h.sound.accounts
  by_cases hn : n < p.manifest.accepted.length
  · have hmem := haccounts.places.mem_iff.mpr (List.mem_range.mpr hn)
    rcases List.mem_append.mp hmem with hparcel | hsettled
    · obtain ⟨q, hq, rfl⟩ := List.mem_map.mp hparcel
      rcases List.mem_append.mp hq with hwaiting | hheld
      · exact (haccounts.waiting q hwaiting).le
      · exact (haccounts.held q hheld).2
    · rcases List.mem_append.mp hsettled with hacked | hdropped
      · exact (haccounts.acked n hacked).2
      · exact (haccounts.dropped n hdropped).le
  · have hnone : n ∉ p.manifest.handedOut := fun hmem => hn (haccounts.known n hmem)
    rw [List.count_eq_zero_of_not_mem hnone]
    exact Nat.zero_le 5

section Gone

variable (gone : ∀ w ∈ p.workers, w.duty = .gone)

include h gone in
theorem parcels_eq_nil : p.traffic.parcels = [] := by
  have hsome : p.workers ≠ [] := by
    apply List.ne_nil_of_length_pos
    rw [h.workers]
    exact le_max_right size 1
  obtain ⟨w, hw⟩ := List.exists_mem_of_ne_nil p.workers hsome
  apply List.eq_nil_of_length_eq_zero
  rw [← h.sound.accounts.outstanding]
  exact h.ended w hw (gone w hw)

include h gone in
theorem act_eq_none (own : a.isOwn = true) : p.act a = none := by
  have hparcels := parcels_eq_nil h gone
  simp only [Traffic.parcels, Traffic.waiting, List.append_eq_nil_iff, List.map_eq_nil_iff]
    at hparcels
  obtain ⟨⟨⟨hline, -⟩, hreturning⟩, -⟩ := hparcels
  cases a with
  | work j =>
    unfold act
    dsimp only
    cases hat : p.workers[j]? with
    | none => rfl
    | some w =>
      dsimp only
      rw [moveWorker, gone w (List.mem_of_getElem? hat)]
  | resend q => simp [act, Traffic.resend?, hreturning]
  | letIn place => simp [act, Traffic.letIn?, hline]
  | cancel id => cases own
  | supply supply available => cases own
  | wait now => cases own

include h gone in
theorem perm_settled : p.held = [] ∧
    (p.manifest.acked ++ p.manifest.dropped).Perm (List.range chunks.length) := by
  have hheld : p.held = [] := by
    apply List.filterMap_eq_nil_iff.mpr
    intro w hw
    rw [gone w hw]
    rfl
  have hplaces := h.sound.accounts.places
  rw [parcels_eq_nil h gone, show p.traffic.accepted = chunks from h.sound.accepted] at hplaces
  exact ⟨hheld, hplaces⟩

include h gone in
/-- A chunk is counted as often as it has been consumed, unless its job is unknown. -/
theorem count_counted {n : Nat} {chunk : Chunk} (published : chunks[n]? = some chunk) :
    p.counted.count n =
      if (jobs.get? chunk.jobId).isSome then p.succeeded.count n else 0 := by
  have hcalls : (p.deeds.map (Amount.counted.called (· == n))).sum = (p.counted.count n : Nat) := by
    apply sum_eq_countP
    intro d _
    cases d with
    | called m c answer =>
      by_cases hm : m = n <;> cases hcounts : c.counts answer <;>
        simp [Amount.called, Amount.counted, Deed.counted?, hm, hcounts]
    | consumed m result => rfl
  have hresults : (p.deeds.map (Amount.counted.reported (· == n))).sum =
      (p.succeeded.countP fun m => m == n && (jobs.get? chunk.jobId).isSome : Nat) := by
    apply sum_eq_countP
    intro d hd
    rcases d with _ | ⟨m, f | outcome⟩
    · rfl
    · simp [Amount.reported, Amount.counted, Deed.succeeded?, Stage.isCounted]
    · by_cases hm : m = n
      · obtain ⟨chunk', hchunk', hdropped⟩ := h.informed.results m outcome hd
        rw [hm, published] at hchunk'
        obtain rfl := Option.some.inj hchunk'
        simp [Amount.reported, Amount.counted, Deed.succeeded?, Stage.isCounted, hm, hdropped]
      · simp [Amount.reported, Deed.succeeded?, hm]
  have hsame := (h.counted n).reported gone
  rw [hcalls, hresults] at hsame
  rw [Int.ofNat_inj.mp hsame]
  cases (jobs.get? chunk.jobId).isSome with
  | false => simp
  | true => simp [List.count]

include h gone in
theorem fate {n : Nat} {chunk : Chunk} (published : chunks[n]? = some chunk) :
    p.Fate n (jobs.get? chunk.jobId).isSome := by
  obtain ⟨hheld, hsettled⟩ := perm_settled h gone
  have hn : n < chunks.length := (List.getElem?_eq_some_iff.mp published).1
  have hone : p.manifest.acked.count n + p.manifest.dropped.count n = 1 := by
    rw [← List.count_append, hsettled.count_eq]
    exact List.count_eq_one_of_mem List.nodup_range (List.mem_range.mpr hn)
  have hhandedOut : p.succeeded.count n + p.retried.count n = p.manifest.handedOut.count n := by
    have hperm := h.sound.handedOut
    rw [hheld] at hperm
    rw [← List.count_append]
    exact hperm.count_eq n
  have hcounted := count_counted h gone published
  rw [h.sound.acked] at hhandedOut hcounted
  have hfew := count_handedOut_le h n
  by_cases hacked : n ∈ p.manifest.acked
  · have hpos := List.count_pos_iff.mpr hacked
    refine .acked (by omega) ?_ (by rw [h.sound.acked]; omega) (by omega) ?_
    · exact List.count_eq_zero.mp (by omega)
    · rw [hcounted]
      split <;> omega
  · have hzero := List.count_eq_zero_of_not_mem hacked
    have hdropped : n ∈ p.manifest.dropped := List.count_pos_iff.mp (by omega)
    have hfive : p.manifest.handedOut.count n = 5 := h.sound.accounts.dropped n hdropped
    refine .dropped (by omega) hacked (by rw [h.sound.acked]; exact hacked) ?_ ?_
    · omega
    · apply List.count_eq_zero.mp
      rw [hcounted, hzero, ite_self]

include h gone in
theorem drained_of_gone : p.Drained jobs chunks size where
  workers := h.workers
  gone := gone
  fates n chunk published := fate h gone published
  stats order joins := by
    rw [← h.sound.acked]
    exact joined_eq_of_gone h.told h.processed h.failed h.completed gone joins
  rows ids nodup all := h.informed.sum_for nodup all
  counters id before hbefore := by
    obtain ⟨after, hafter, grown⟩ := h.follows.known hbefore
    exact ⟨after, hafter, grown.processed, grown.failed⟩
  completed := h.follows.completed

end Gone

/-- Whatever the workers find, and in whatever order they act: they and the bus take only so many
steps, no chunk is handed out more than five times, and when no step is left all is done. -/
theorem drains {world : Concurrency.World} {capacity : Nat} {schedule : List Action}
    (reached : (opening world capacity chunks size).run schedule = some p) :
    schedule.countP (·.isOwn) ≤
        (chunks.map fun c => 5 * (c.records.length + 12)).sum + chunks.length + max size 1 ∧
      (∀ n, p.manifest.handedOut.count n ≤ 5) ∧
      ((∀ a, a.isOwn = true → p.act a = none) → p.Drained world.jobs chunks size) := by
  have hopening := kept_opening world capacity chunks size
  have hkept : p.Kept world.jobs chunks size :=
    run_invariant (fun step h => h.step step) reached hopening
  refine ⟨?_, count_handedOut_le hkept, ?_⟩
  · have hsteps := countP_isOwn_le hopening.sound reached
    have hall := effort_opening_le world capacity chunks size
    omega
  · intro stuck
    apply drained_of_gone hkept
    intro w hw
    by_contra hwork
    obtain ⟨a, p', own, acts⟩ := exists_own_step hkept.sound ⟨w, hw, hwork⟩
    rw [stuck a own] at acts
    cases acts

/-- Counters of 64 bits come to the same as long as they can hold it. -/
theorem Drained.counters_of_canCount (h : p.Drained jobs chunks size) {id : JobId} {before : Job}
    (known : jobs.get? id = some before)
    (fits : before.canCount (p.processedFor id) (p.failedFor id) = true) :
    let counted := before.countedIn (some .i64) (p.processedFor id) (p.failedFor id)
    ∃ after, p.world.jobs.get? id = some after ∧
      after.processedRows = counted.processedRows ∧ after.failedRows = counted.failedRows := by
  rw [Job.countedIn_of_canCount fits]
  exact h.counters id before known

section Plates

def plate : ProductRecord where
  rowNumber := some 1
  internalId := "P1"
  name := "Plate"
  description := ""
  brand := ""
  category := ""
  price := ⟨7, 0⟩
  currency := "EUR"
  stock := 2
  ean := ""
  color := ""
  size := ""
  availability := ""

def plates : Chunk := ⟨⟨7⟩, 0, [plate]⟩

def strays : Chunk := ⟨⟨8⟩, 0, [plate]⟩

def platesWorld : Concurrency.World :=
  .opening ⟨0, 0⟩ ⟨[{ Job.started ⟨7⟩ ⟨0, 0⟩ with totalRows := some 1 }], true⟩ .empty .empty 1

/-- The counters cannot be updated when the plates are consumed for the first time. -/
def platesSchedule : List Action :=
  [.supply .progress false, .work 0, .letIn 0] ++ List.replicate 3 (.work 1) ++
    List.replicate 6 (.work 0) ++ [.supply .progress true, .resend ⟨0, none, 1, plates⟩] ++
    List.replicate 11 (.work 0) ++ [.work 0, .work 1]

theorem plates_drained : ∃ p,
    (opening platesWorld 1 [plates, strays] 2).run platesSchedule = some p ∧
    p.manifest.acked = [1, 0] ∧ p.retried = [0] ∧ p.counted = [0] ∧
    p.Drained platesWorld.jobs [plates, strays] 2 := by
  obtain ⟨p, hrun, hacked, hretried, hcounted, hgone⟩ : ∃ p,
      (opening platesWorld 1 [plates, strays] 2).run platesSchedule = some p ∧
        p.manifest.acked = [1, 0] ∧ p.retried = [0] ∧ p.counted = [0] ∧
        p.workers.map (·.duty) = [.gone, .gone] :=
    ⟨_, rfl, rfl, rfl, rfl, rfl⟩
  have gone : ∀ w ∈ p.workers, w.duty = .gone := by
    intro w hw
    have hduty : w.duty ∈ p.workers.map (·.duty) := List.mem_map_of_mem hw
    rw [hgone] at hduty
    simpa using hduty
  have hkept : p.Kept platesWorld.jobs [plates, strays] 2 :=
    run_invariant (fun step h => h.step step) hrun (kept_opening _ _ _ _)
  obtain ⟨-, -, hdrained⟩ := drains hrun
  exact ⟨p, hrun, hacked, hretried, hcounted, hdrained fun a own => act_eq_none hkept gone own⟩

end Plates

end CatalogIntake.Pool
