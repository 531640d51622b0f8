import CatalogIntake.Proofs.Concurrency.Punctuality
import CatalogIntake.Proofs.Concurrency.Recount

/-!
Exactly when a message can be counted twice. A worker that is at work on a message can always go on
until it has counted it. So if a message is handed out that has been counted, or that another worker
is at work on, there is a way to count it twice; and if that never happens there is none.
-/

namespace CatalogIntake

namespace Stage

def distance (chunk : Chunk) : Stage → Nat
  | loading => chunk.records.length + 6
  | loaded _ => chunk.records.length + 5
  | bulk mapped _ => mapped.length + 4
  | single _ _ rest => rest.length + 3
  | logging _ => 2
  | counting _ => 1
  | _ => 0

variable {chunk : Chunk} {stage next : Stage}

theorem Goes.nearer (h : Goes chunk stage next) :
    next.distance chunk < stage.distance chunk ∧ next.isSettled = false := by
  cases h with
  | mapped =>
    have hlength := mapRecords_length chunk.jobId chunk.records
    refine ⟨?_, rfl⟩
    show (mapRecords chunk.jobId chunk.records).1.length + 4 < chunk.records.length + 5
    omega
  | turnedAway _ =>
    refine ⟨?_, rfl⟩
    show 2 < chunk.records.length + 5
    omega
  | _ => exact ⟨by simp [distance], rfl⟩

/-- A call of a worker whose job is known, while the counters can be updated. -/
theorem Asks.nearer {w : Concurrency.World} {c : Call} {answer : c.Answer}
    (h : Asks chunk stage c answer next) (replies : (w.answer c).1 = answer)
    (known : (w.jobs.get? chunk.jobId).isSome = true) (available : w.jobs.progressAvailable = true)
    (uncounted : stage.isCounted = false) :
    c.counts answer = true ∨ next.distance chunk < stage.distance chunk ∧
      next.isSettled = false := by
  cases h with
  | unloaded =>
    rw [Concurrency.World.answer_getJob] at replies
    cases replies
  | unknown =>
    rw [Concurrency.World.answer_getJob] at replies
    rw [Except.ok.inj replies] at known
    cases known
  | uncounted =>
    obtain ⟨job, hjob⟩ := Option.isSome_iff_exists.mp known
    rw [Concurrency.World.answer_increment, JobTable.fst_increment, available, hjob] at replies
    cases replies
  | counted => exact .inl rfl
  | found | batched | batchFailed | inserted | insertFailed | logged _ =>
    exact .inr ⟨by simp [distance], rfl⟩
  | _ => cases uncounted

end Stage

namespace Concurrency

namespace Depot

variable {s : Depot} {j : Nat} {d : Delivery} {stage : Stage}

structure Countable (s : Depot) (d : Delivery) : Prop where
  known : (s.system.world.jobs.get? d.chunk.jobId).isSome = true
  available : s.system.world.jobs.progressAvailable = true

/-- A worker with a delivery that it has not counted takes a step, and has counted it then, or is
nearer to that. -/
theorem exists_step (had : s.system.holding j = some (d, stage)) (atWork : stage.isSettled = false)
    (uncounted : stage.isCounted = false) (countable : s.Countable d) :
    ∃ s', s.act (.inside (.work j)) = some s' ∧
      (∀ e, s.Countable e → s'.Countable e) ∧
      (∀ k, k ≠ j → s'.system.holding k = s.system.holding k) ∧
      (s'.system.countings = s.system.countings ++ [d] ∨
        s'.system.countings = s.system.countings ∧ ∃ next,
          s'.system.holding j = some (d, next) ∧ next.isSettled = false ∧
          next.isCounted = false ∧ next.distance d.chunk < stage.distance d.chunk) := by
  obtain ⟨w, at_, busy⟩ := System.busy_of_holding had
  have apart : s.system.isInside (.work j) = true := by
    simp [System.isInside, at_, busy, Duty.isAtWork, atWork]
  have acts {t : System} (h : s.system.act (.work j) = some t) :
      s.act (.inside (.work j)) = some { s with system := t } := by
    simp [act, apart, h]
  have countable' {t : System} (h : s.system.act (.work j) = some t)
      (available : t.world.jobs.progressAvailable = s.system.world.jobs.progressAvailable)
      (e : Delivery) (he : s.Countable e) : Countable { s with system := t } e :=
    ⟨(System.step_of_act h).known he.known, available.trans he.available⟩
  cases hmove : stage.move d.chunk with
  | go next =>
    have goes := Stage.goes_of_move hmove
    obtain ⟨hdistance, hsettled⟩ := goes.nearer
    have hact : s.system.act (.work j) =
        some (s.system.setWorker j { w with duty := .busy d next }) := by
      simp [System.act, System.moveWorker, at_, busy, hmove]
    have holding := System.holding_setWorker (t := s.system) rfl at_ { w with duty := .busy d next }
    refine ⟨_, acts hact, countable' hact rfl, fun k hk => (holding k).trans (if_neg hk),
      .inr ⟨rfl, next, (holding j).trans (if_pos rfl), hsettled, ?_, hdistance⟩⟩
    exact (Stage.isCounted_of_goes goes).2
  | ask c next =>
    have asks := Stage.asks_of_move hmove (s.system.world.answer c).1
    have hact : s.system.act (.work j) = some (s.system.handle j w d c next) := by
      simp [System.act, System.moveWorker, at_, busy, hmove]
    have holding := System.holding_setWorker (s := s.system)
      (t := { s.system with world := (s.system.world.answer c).2 }.record
        (.handled j d c (s.system.world.answer c).1)) rfl at_
      { w with duty := .busy d (next (s.system.world.answer c).1) }
    have countings : (s.system.handle j w d c next).countings = s.system.countings ++
        (if c.counts (s.system.world.answer c).1 then some d else none).toList :=
      System.countings_concat (e := .handled j d c (s.system.world.answer c).1) rfl
    refine ⟨_, acts hact, countable' hact (World.progressAvailable_answer _ c),
      fun k hk => (holding k).trans (if_neg hk), ?_⟩
    rcases asks.nearer rfl countable.known countable.available uncounted with
      hcounts | ⟨hdistance, hsettled⟩
    · rw [hcounts] at countings
      exact .inl countings
    · cases hcounts : c.counts (s.system.world.answer c).1 with
      | true =>
        rw [hcounts] at countings
        exact .inl countings
      | false =>
        rw [hcounts] at countings
        refine .inr ⟨countings.trans (List.append_nil _), next _, (holding j).trans (if_pos rfl),
          hsettled, ?_, hdistance⟩
        rw [Stage.isCounted_of_asks asks, uncounted, hcounts]
        rfl
  | halt result =>
    rw [Stage.settled_of_move hmove] at atWork
    cases atWork

/-- A worker with a delivery that it has not counted can go on, alone, until it has. -/
theorem exists_run (had : s.system.holding j = some (d, stage)) (atWork : stage.isSettled = false)
    (uncounted : stage.isCounted = false) (countable : s.Countable d) :
    ∃ later s', (∀ e ∈ later, e.isClaim = false) ∧ s.run later = some s' ∧
      (∀ e, s.Countable e → s'.Countable e) ∧
      (∀ k, k ≠ j → s'.system.holding k = s.system.holding k) ∧
      s'.system.countings = s.system.countings ++ [d] := by
  -- each move of the worker brings it nearer to its end, and counting lies on the way
  induction hn : stage.distance d.chunk using Nat.strongRecOn generalizing s stage with
  | ind n ih =>
    obtain ⟨next, hact, hcountable, hothers,
      hcounted | ⟨hsame, stage', hhad, hsettled, hun, hlt⟩⟩ :=
      exists_step had atWork uncounted countable
    · refine ⟨[.inside (.work j)], next, by simp [Errand.isClaim], ?_, hcountable, hothers,
        hcounted⟩
      simp [run, hact]
    · obtain ⟨later, s', hfree, hrun, hcountable', hothers', hcounted⟩ :=
        ih _ (hn ▸ hlt) hhad hsettled hun (hcountable d countable) rfl
      refine ⟨.inside (.work j) :: later, s', ?_, ?_, fun e he => hcountable' e (hcountable e he),
        fun k hk => (hothers' k hk).trans (hothers k hk), hcounted.trans (by rw [hsame])⟩
      · intro e he
        rcases List.mem_cons.mp he with rfl | he
        · rfl
        · exact hfree e he
      · simp [run, hact, hrun]

section Exactness

variable {s s' t : Depot} {e : Errand} {errands later : List Errand}

theorem orderly_of_claimFree (claimFree : ∀ e ∈ later, e.isClaim = false) : s.Orderly later := by
  induction later generalizing s with
  | nil => trivial
  | cons e rest ih =>
    intro s' hact
    exact ⟨handsFree_of_shift (step_of_act hact).shift (claimFree e List.mem_cons_self),
      ih fun e he => claimFree e (List.mem_cons_of_mem _ he)⟩

theorem orderly_append (h : s.Orderly errands)
    (more : ∀ t, s.run errands = some t → t.Orderly later) : s.Orderly (errands ++ later) := by
  induction errands generalizing s with
  | nil => exact more s rfl
  | cons e rest ih =>
    intro s' hact
    refine ⟨(h s' hact).1, ih (h s' hact).2 fun t ht => more t ?_⟩
    simp [run, hact, ht]

theorem Orderly.prefix {rest : List Errand} (h : s.Orderly (errands ++ rest)) :
    s.Orderly errands := by
  induction errands generalizing s with
  | nil => trivial
  | cons e more ih =>
    intro s' hact
    exact ⟨(h s' hact).1, ih (h s' hact).2⟩

theorem single_of_orderly (h : s.Orderly errands) (run : s.run errands = some t)
    (single : s.system.Single) : t.system.Single := by
  induction errands generalizing s with
  | nil =>
    cases run
    exact single
  | cons e rest ih =>
    obtain ⟨next, hact, hrun⟩ := run_cons run
    exact ih (h next hact).2 hrun (Single.shift single (step_of_act hact).shift (h next hact).1)

theorem Sound.known_of_sent (h : s.Sound) {d : Delivery} (sent : Sent s.system.taken d) :
    (s.system.world.jobs.get? d.chunk.jobId).isSome = true := by
  obtain ⟨k, c, -, hget, hdecode⟩ := sent
  rw [Option.isSome_iff_ne_none]
  intro hnone
  have hpublished : s.system.published d.chunk.jobId = [] :=
    congrArg Book.published (h.registered.blank hnone)
  have hmem : c ∈ s.system.published d.chunk.jobId :=
    List.mem_filter.mpr ⟨List.mem_of_getElem? hget, by simp [(Chunk.of_decode hdecode).1]⟩
  rw [hpublished] at hmem
  cases hmem

/-- The counters of jobs can be updated from here on, and nothing else has changed. -/
def restored (s : Depot) : Depot :=
  { s with system := { s.system with world := s.system.world.setAvailable .progress true } }

theorem act_restored (s : Depot) : s.act (.inside (.supply .progress true)) = some s.restored := rfl

theorem Sound.countable_of_held (h : s.Sound) {j : Nat} {d : Delivery} {stage : Stage}
    (had : s.system.holding j = some (d, stage)) : s.restored.Countable d :=
  ⟨h.known_of_sent (h.posted.held had), rfl⟩

/-- A message that has been counted is in hand again, or it is in two hands. -/
theorem Sound.exists_double (h : s.Sound) {j : Nat} {d : Delivery}
    (had : s.system.holding j = some (d, .loading))
    (again : d.messageId ∈ s.system.countedIds ∨ ∃ k e stage, k ≠ j ∧
      s.system.holding k = some (e, stage) ∧ stage.isSettled = false ∧
      e.messageId = d.messageId) :
    ∃ later t, (∀ e ∈ later, e.isClaim = false) ∧ s.run later = some t ∧
      ¬t.system.countedIds.Nodup := by
  have countable := h.countable_of_held had
  have supplied {later : List Errand} {t : Depot} (hrun : s.restored.run later = some t) :
      s.run (.inside (.supply .progress true) :: later) = some t := by
    simp [run, act_restored, hrun]
  have free {later : List Errand} (hfree : ∀ e ∈ later, e.isClaim = false) :
      ∀ e ∈ .inside (.supply .progress true) :: later, e.isClaim = false := by
    intro e he
    rcases List.mem_cons.mp he with rfl | he
    · rfl
    · exact hfree e he
  -- once it has been counted, the worker at hand only has to go on
  have counted (hmem : d.messageId ∈ s.system.countedIds) : ∃ later t,
      (∀ e ∈ later, e.isClaim = false) ∧ s.run later = some t ∧
        ¬t.system.countedIds.Nodup := by
    obtain ⟨later, t, hfree, hrun, -, -, hcountings⟩ :=
      exists_run (s := s.restored) had rfl rfl countable
    refine ⟨_, t, free hfree, supplied hrun, fun hnodup => ?_⟩
    have hids : t.system.countedIds = s.system.countedIds ++ [d.messageId] := by
      unfold System.countedIds
      rw [hcountings, List.map_append]
      rfl
    rw [hids, List.nodup_append] at hnodup
    exact hnodup.2.2 _ hmem _ (List.mem_singleton_self _) rfl
  rcases again with hmem | ⟨k, e, stage, hkj, hk, hsettled, hid⟩
  · exact counted hmem
  · cases hstage : stage.isCounted with
    | true => exact counted (hid ▸ h.recorded hk hstage)
    | false =>
      obtain ⟨first, t, hfree, hrun, hcountable, hothers, hcountings⟩ :=
        exists_run (s := s.restored) hk hsettled hstage (h.countable_of_held hk)
      obtain ⟨second, u, hfree', hrun', -, -, hcountings'⟩ :=
        exists_run ((hothers j hkj.symm).trans had) rfl rfl (hcountable d countable)
      refine ⟨.inside (.supply .progress true) :: (first ++ second), u, free ?_, supplied ?_,
        fun hnodup => ?_⟩
      · intro e he
        rcases List.mem_append.mp he with he | he
        · exact hfree e he
        · exact hfree' e he
      · rw [run_append, hrun]
        exact hrun'
      · have hids : u.system.countedIds =
            s.system.countedIds ++ [e.messageId] ++ [d.messageId] := by
          unfold System.countedIds
          rw [hcountings', hcountings, List.map_append, List.map_append]
          rfl
        rw [hids, List.nodup_append] at hnodup
        refine hnodup.2.2 e.messageId ?_ _ (List.mem_singleton_self _) hid
        exact List.mem_append_right _ (List.mem_singleton_self _)

/-- After a step that hands out what is not free, a message can be counted twice without any further
claim. -/
theorem Sound.exists_double_of_step (h : s.Sound) (step : Step s e s')
    (notFree : ¬s.system.HandsFree s'.system) :
    ∃ later t, (∀ e ∈ later, e.isClaim = false) ∧ s'.run later = some t ∧
      ¬t.system.countedIds.Nodup := by
  rcases hands_cases step.shift with hnothing | ⟨j, d, -, idle, countings, holding⟩
  · exact absurd (fun j d stage hnone hsome => absurd hsome (hnothing j d stage hnone)) notFree
  · refine (h.step step).exists_double ((holding j).trans (if_pos rfl)) ?_
    by_contra hnot
    rw [not_or] at hnot
    obtain ⟨uncounted, alone⟩ := hnot
    refine notFree fun k e stage hnone hsome => ?_
    rw [holding] at hsome
    split at hsome
    · cases hsome
      refine ⟨fun hmem => uncounted ?_, fun l f next hl hid => ?_⟩
      · unfold System.countedIds
        rw [countings]
        exact hmem
      · by_contra hsettled
        have hlj : l ≠ j := by
          intro hlj
          rw [hlj, idle] at hl
          cases hl
        exact alone ⟨l, f, next, hlj, (holding l).trans ((if_neg hlj).trans hl),
          Bool.eq_false_iff.mpr hsettled, hid⟩
    · rw [hnone] at hsome
      cases hsome

/-- If no continuation of a part of the run counts a message twice, the run is orderly. -/
theorem Sound.orderly_of_once (h : s.Sound) (single : s.system.Single)
    (once : ∀ first rest later t, errands = first ++ rest → (∀ e ∈ later, e.isClaim = false) →
      s.run (first ++ later) = some t → t.system.countedIds.Nodup) : s.Orderly errands := by
  induction errands generalizing s with
  | nil => trivial
  | cons e rest ih =>
    intro s' hact
    have step := step_of_act hact
    have onward {more : List Errand} {t : Depot} (hrun : s'.run more = some t) :
        s.run (e :: more) = some t := by
      simp [run, hact, hrun]
    -- a step that hands out what is not free can be followed by counting it a second time
    have free : s.system.HandsFree s'.system := by
      by_contra hnot
      obtain ⟨later, t, claimFree, hrun, htwice⟩ := h.exists_double_of_step step hnot
      exact htwice (once [e] rest later t rfl claimFree (onward hrun))
    refine ⟨free, ih (h.step step) (Single.shift single step.shift free) ?_⟩
    intro first more later t hparts claimFree hrun
    exact once (e :: first) more later t (congrArg (e :: ·) hparts) claimFree (onward hrun)

theorem nodup_of_orderly (h : s.Orderly errands) (single : s.system.Single)
    (claimFree : ∀ e ∈ later, e.isClaim = false) (run : s.run (errands ++ later) = some t) :
    t.system.countedIds.Nodup :=
  (single_of_orderly (orderly_append h fun _ _ => orderly_of_claimFree claimFree) run single).once

end Exactness

/-- What the counters of the job of the producer `p` say. -/
structure Tallied (s : Depot) (p : Producer) (job : Job) : Prop where
  /-- The rejected rows that the producer has counted, and the rows of each chunk as often as its
  message has been counted. -/
  rows : job.processedRows + job.failedRows = s.system.flushed p.jobId +
    ∑ k ∈ Finset.range s.system.taken.length, s.timesCounted k * s.rowsAt p.jobId k
  counters : (∀ k, s.timesCounted k ≤ 1) → job.processedRows + job.failedRows ≤ p.rowsRead
  /-- Every chunk published for a completed job has been counted. -/
  completed : (∀ k, s.timesCounted k ≤ 1) → job.status = .completed → ∀ k c,
    s.system.taken[k]? = some c → c.jobId = p.jobId → s.timesCounted k = 1

theorem Sound.tallied {s : Depot} (h : s.Sound) {i : Nat} {p : Producer}
    (at_ : s.system.producers[i]? = some p) :
    ∃ job, s.system.world.jobs.get? p.jobId = some job ∧ s.Tallied p job := by
  obtain ⟨job, hbilled⟩ := h.bills at_
  have hle := hbilled.reads.rows_le
  have haccounted : job.processedRows + job.failedRows =
      Chunk.rowCount (s.system.countedFor p.jobId) + s.system.flushed p.jobId := hbilled.accounted
  refine ⟨job, hbilled.here, ?_, fun once => ?_, fun once hcompleted k c hget hown => ?_⟩
  · rw [haccounted, rowCount_counted h.posted]
    push_cast
    exact Int.add_comm _ _
  · have hcounted := rowCount_counted_le h.posted once p.jobId
    calc job.processedRows + job.failedRows
        = Chunk.rowCount (s.system.countedFor p.jobId) + s.system.flushed p.jobId := haccounted
      _ ≤ Chunk.rowCount (s.system.published p.jobId) + s.system.flushed p.jobId := by omega
      _ ≤ p.rowsRead := hle
  · obtain ⟨total, htotal, -, hge⟩ := hbilled.earned hcompleted
    obtain ⟨-, hread⟩ := hbilled.total total htotal
    have hpublished : c ∈ s.system.published p.jobId :=
      List.mem_filter.mpr ⟨List.mem_of_getElem? hget, by simp [hown]⟩
    have hrows := hbilled.reads.nonempty c hpublished
    refine timesCounted_eq_one h.posted once ?_ hget hown hrows
    have hrest : Chunk.rowCount (s.system.published p.jobId) + s.system.flushed p.jobId ≤
      p.rowsRead := hle
    have hdone : total ≤ job.processedRows + job.failedRows := hge
    omega

/-- No chunk can be counted twice as long as only free messages are handed out, and as soon as one
is handed out that is not free there is a way to count its chunk twice without any further claim. -/
theorem counted_once_iff_orderly {world : World} {workers : Nat} {settings : QueueSettings}
    {errands : List Errand} {s : Depot}
    (run : (opening world workers settings).run errands = some s) :
    ((opening world workers settings).Orderly errands ↔
      ∀ first rest later t, errands = first ++ rest → (∀ e ∈ later, e.isClaim = false) →
        (opening world workers settings).run (first ++ later) = some t →
        ∀ k, t.timesCounted k ≤ 1) ∧
      ((opening world workers settings).Orderly errands → ∀ k, s.timesCounted k ≤ 1) ∧
      ∀ {i : Nat} {p : Producer}, s.system.producers[i]? = some p →
        ∃ job, s.system.world.jobs.get? p.jobId = some job ∧ s.Tallied p job := by
  have sound := sound_of_run run
  have single := (single_opening world workers).1
  refine ⟨⟨?_, fun once => ?_⟩, fun orderly => ?_, sound.tallied⟩
  · rintro orderly first rest later t rfl claimFree hrun
    exact (nodup_countedIds_iff (sound_of_run hrun).posted).mp
      (nodup_of_orderly orderly.prefix single claimFree hrun)
  · refine (sound_opening world workers settings).orderly_of_once single ?_
    intro first rest later t hparts claimFree hrun
    exact (nodup_countedIds_iff (sound_of_run hrun).posted).mpr
      (once first rest later t hparts claimFree hrun)
  · exact (nodup_countedIds_iff sound.posted).mp (single_of_orderly orderly run single).once

theorem counted_once_of_punctual {world : World} {workers : Nat} {settings : QueueSettings}
    {errands : List Errand} {s : Depot}
    (run : (opening world workers settings).run errands = some s)
    (punctual : (opening world workers settings).staysPunctual errands = true) (k : Nat) :
    s.timesCounted k ≤ 1 := by
  have orderly := orderly_of_punctual (exclusive_opening world workers settings)
    (posted_opening world workers settings) punctual
  have single := single_of_orderly orderly run (single_opening world workers).1
  exact (nodup_countedIds_iff (sound_of_run run).posted).mp single.once k

section Cups

def bowl : ProductRecord :=
  { System.mug with rowNumber := some 2, internalId := "B1", name := "Bowl" }

def cups (workers : Nat) : Depot := opening (.opening ⟨0, 0⟩ .empty .empty .empty 1) workers {}

def cupsPublished : List Errand :=
  .inside (.start { chunkSize := 1 } ⟨7⟩ [.parsed System.mug, .parsed bowl]) ::
  List.replicate 2 (.inside (.read 0)) ++ List.replicate 2 (.inside (.produce 0)) ++
  .publish 0 (fun _ => none) :: List.replicate 3 (.inside (.produce 0)) ++
  .publish 0 (fun _ => none) :: List.replicate 6 (.inside (.produce 0))

def turn (worker steps : Nat) (trouble : Sql.Trouble) : List Errand :=
  .claim worker (fun _ => none) :: List.replicate steps (.inside (.work worker)) ++
    [.settle worker trouble]

def cupsInTime : List Errand :=
  cupsPublished ++ turn 0 6 (fun _ => none) ++ turn 0 7 (fun _ => none)

theorem cups_counted_once : ∃ s p job, (cups 1).run cupsInTime = some s ∧
    s.system.producers[0]? = some p ∧ s.system.world.jobs.get? p.jobId = some job ∧
    (cups 1).Orderly cupsInTime ∧ (∀ k, s.timesCounted k ≤ 1) ∧ job.status = .completed ∧
    s.Tallied p job := by
  have hends : ((cups 1).run cupsInTime).any (fun s =>
      (s.system.producers[0]?).any fun p =>
        (s.system.world.jobs.get? p.jobId).any (·.status = .completed)) = true := by
    decide +kernel
  obtain ⟨s, hs, hends⟩ := (Option.any_eq_true _ _).mp hends
  obtain ⟨p, hp, hends⟩ := (Option.any_eq_true _ _).mp hends
  have orderly : (cups 1).Orderly cupsInTime :=
    orderly_of_punctual (exclusive_opening ..) (posted_opening ..) (by decide +kernel)
  obtain ⟨-, once, tallies⟩ := counted_once_iff_orderly hs
  obtain ⟨job, hjob, tallied⟩ := tallies hp
  rw [hjob] at hends
  exact ⟨s, p, job, hs, hp, hjob, orderly, once orderly, of_decide_eq_true hends, tallied⟩

/-- The chunk of the mug three times, since the queue never hears that it is done with. -/
def cupsUnheard : List Errand :=
  cupsPublished ++ [(6, 301), (9, 602), (5, 903)].flatMap fun (steps, time) =>
    turn 0 steps (fun _ => some .unreachable) ++ [.inside (.wait ⟨time, 0⟩)]

/-- The job is completed with three of two rows, and the bowl has not been counted. -/
theorem mug_counted_thrice : ∃ s p job c, (cups 1).run cupsUnheard = some s ∧
    s.system.producers[0]? = some p ∧ s.system.world.jobs.get? p.jobId = some job ∧
    s.timesCounted 0 = 3 ∧ p.rowsRead = 2 ∧ job.processedRows + job.failedRows = 3 ∧
    job.status = .completed ∧ s.system.taken[1]? = some c ∧ c.jobId = p.jobId ∧
    s.timesCounted 1 = 0 := by
  have hends : ((cups 1).run cupsUnheard).any (fun s =>
      s.timesCounted 0 = 3 && s.timesCounted 1 = 0 &&
      (s.system.producers[0]?).any fun p => p.rowsRead = 2 &&
        (s.system.world.jobs.get? p.jobId).any (fun job =>
          job.processedRows + job.failedRows = 3 && job.status = .completed) &&
        (s.system.taken[1]?).any (fun c => c.jobId = p.jobId)) = true := by
    decide +kernel
  simp only [Option.any_eq_true, Bool.and_eq_true, decide_eq_true_eq] at hends
  obtain ⟨s, hs, ⟨hmug, hbowl⟩, p, hp, ⟨hread, job, hjob, hrows, hstatus⟩, c, hc, hown⟩ := hends
  exact ⟨s, p, job, c, hs, hp, hjob, hmug, hread, hrows, hstatus, hc, hown, hbowl⟩

/-- No statement fails, but the first worker is slow, and both count the chunk of the mug. -/
example : ((cups 2).run (cupsPublished ++ .claim 0 (fun _ => none) :: .inside (.wait ⟨301, 0⟩) ::
    turn 1 6 (fun _ => none) ++ List.replicate 9 (.inside (.work 0)))).map (·.timesCounted 0) =
      some 2 := by
  decide +kernel

end Cups

end Depot

end Concurrency

end CatalogIntake
