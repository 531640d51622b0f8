import CatalogIntake.Proofs.Producer.Partition
import CatalogIntake.Proofs.Producer.Submission

/-!
How a producer numbers its chunks. Each chunk that is submitted, refused or not, has as its number
how many chunks were accepted before, so that those accepted are numbered without a gap, whatever
the bus and the stores answer.
-/

namespace CatalogIntake

open ProducerRun

theorem chunksOf_concat (log : List Answered) (c : Call) (answer : c.Answer) :
    chunksOf (log ++ [⟨c, answer⟩]) = chunksOf log ++ (c.published? answer).toList := by
  rw [chunksOf_append]
  rfl

theorem Call.eq_publish_of_published? {c : Call} {answer : c.Answer} {chunk : Chunk}
    (h : c.published? answer = some chunk) : c = .publish chunk := by
  unfold Call.published? at h
  split at h
  · rw [Option.some.inj h]
  · cases h

/-- Every chunk that has been submitted is one of the job, and its number is how many chunks had
been accepted before. -/
inductive InOrder (id : JobId) : List Answered → Prop
  | nil : InOrder id []
  | call {log : List Answered} (earlier : InOrder id log) (a : Answered)
      (next : ∀ chunk, a.call = .publish chunk →
        chunk.jobId = id ∧ chunk.number = Chunk.ordinal (chunksOf log).length) :
      InOrder id (log ++ [a])

namespace InOrder

variable {id : JobId} {log : List Answered}

theorem quiet (h : InOrder id log) {a : Answered} (silent : a.isPublishing = false) :
    InOrder id (log ++ [a]) := by
  refine h.call a fun chunk hcall => ?_
  rw [Answered.isPublishing, hcall] at silent
  cases silent

/-- The chunks that have been accepted are all of the job, and numbered without a gap. -/
theorem numbers (h : InOrder id log) :
    (∀ chunk ∈ chunksOf log, chunk.jobId = id) ∧
      (chunksOf log).map (·.number) = (List.range (chunksOf log).length).map Chunk.ordinal := by
  -- both sides grow with an accepted chunk only
  induction h with
  | nil => exact ⟨fun _ h => (List.not_mem_nil h).elim, rfl⟩
  | @call log earlier a next ih =>
    obtain ⟨c, answer⟩ := a
    rw [chunksOf_concat]
    cases hpublished : c.published? answer with
    | none =>
      rw [Option.toList_none, List.append_nil]
      exact ih
    | some chunk =>
      obtain ⟨hjobId, hnumber⟩ := next chunk (Call.eq_publish_of_published? hpublished)
      rw [Option.toList_some, List.map_append, ih.2, List.length_append, List.length_singleton,
        List.range_succ, List.map_append, List.map_singleton, List.map_singleton, hnumber]
      refine ⟨?_, rfl⟩
      intro other hother
      rcases List.mem_append.mp hother with hother | hother
      · exact ih.1 other hother
      · rw [List.mem_singleton.mp hother]
        exact hjobId

theorem submits (h : InOrder id log) {chunk : Chunk} {refusals retries : Nat}
    {result : Outcome Unit} {calls : List Answered}
    (submits : Submits chunk refusals retries result calls) (jobId : chunk.jobId = id)
    (number : chunk.number = Chunk.ordinal (chunksOf log).length) : InOrder id (log ++ calls) := by
  induction submits generalizing log with
  | accepted | exhausted f =>
    refine h.call _ fun other hcall => ?_
    cases hcall
    exact ⟨jobId, number⟩
  | again f pause rest ih =>
    have hrefused : InOrder id (log ++ [⟨.publish chunk, .error f⟩]) := by
      refine h.call _ fun other hcall => ?_
      cases hcall
      exact ⟨jobId, number⟩
    have hpaused : InOrder id (log ++ [⟨.publish chunk, .error f⟩] ++ [⟨.pause, pause⟩]) :=
      hrefused.quiet rfl
    have hnumber : chunk.number = Chunk.ordinal
        (chunksOf (log ++ [⟨.publish chunk, .error f⟩] ++ [⟨.pause, pause⟩])).length := by
      rw [chunksOf_concat, chunksOf_concat]
      simpa [Call.published?] using number
    rw [List.append_cons, List.append_cons]
    exact ih hpaused hnumber

end InOrder

inductive Plan.Silent {α : Type} : Plan α → Prop
  | done (a : α) : Silent (.done a)
  | call {c : Call} {next : c.Answer → Plan α}
      (quiet : ∀ answer, (⟨c, answer⟩ : Answered).isPublishing = false)
      (rest : ∀ answer, Silent (next answer)) : Silent (.call c next)

theorem silent_checkAndComplete (id : JobId) : (checkAndComplete id).Silent := by
  refine .call (fun _ => rfl) fun completed => ?_
  rcases completed with f | _ | _
  · exact .done _
  · exact .done _
  · refine .call (fun _ => rfl) fun job => ?_
    cases job <;> exact .done _

theorem silent_conclude (run : ProducerRun) (result : Except Stop Unit) :
    (run.conclude result).Silent := by
  rcases result with (_ | reason) | _
  · exact .call (fun _ => rfl) fun _ => .done _
  · exact .call (fun _ => rfl) fun _ => .done _
  · exact .done _

/-- A run that is given its windows one by one. -/
def ProducerRun.publishWindows (settings : ImportSettings) (windows : List (List ProductRecord)) :
    Step Unit :=
  windows.forM fun window => do
    modify fun run => { run with window }
    publishWindow settings

structure Counts (id : JobId) (run : ProducerRun) (log : List Answered) : Prop where
  jobId : run.jobId = id
  ordered : InOrder id log
  next : run.chunkNumber = .ofNat (chunksOf log).length

theorem Counts.start (id : JobId) : Counts id (start id) [] := ⟨rfl, .nil, rfl⟩

theorem Counts.quiet {id : JobId} {run : ProducerRun} {log : List Answered}
    (h : Counts id run log) {a : Answered} (silent : a.isPublishing = false) :
    Counts id run (log ++ [a]) where
  jobId := h.jobId
  ordered := h.ordered.quiet silent
  next := by
    have hnone : chunksOf [a] = [] := chunksOf_eq_nil (by simpa using silent)
    rw [chunksOf_append, hnone, List.append_nil]
    exact h.next

namespace Respondent

/-- However the step ends that is carried out from here, its result, its run and the calls made by
then are such as `post` says. -/
def Reaches {α : Type} (reply : Respondent) (step : Step α) (run : ProducerRun)
    (log : List Answered) (post : Except Stop α → ProducerRun → List Answered → Prop) : Prop :=
  let ran := Plan.run reply.answer (step run) log
  post ran.1.1 ran.1.2 ran.2

variable {reply : Respondent} {id : JobId} {α β : Type} {x : Step α} {f : α → Step β}
  {run : ProducerRun} {log : List Answered}

theorem Reaches.bind {mid : Except Stop α → ProducerRun → List Answered → Prop}
    {post : Except Stop β → ProducerRun → List Answered → Prop}
    (first : reply.Reaches x run log mid)
    (onward : ∀ a run log, mid (.ok a) run log → reply.Reaches (f a) run log post)
    (stops : ∀ stop run log, mid (.error stop) run log → post (.error stop) run log) :
    reply.Reaches (x >>= f) run log post := by
  unfold Reaches at *
  rw [Producing.step_bind, Plan.run_bind]
  generalize Plan.run reply.answer (x run) log = ran at first
  obtain ⟨⟨result, run'⟩, log'⟩ := ran
  cases result with
  | ok a => exact onward a run' log' first
  | error stop => exact stops stop run' log' first

theorem Reaches.get {f : ProducerRun → Step α}
    {post : Except Stop α → ProducerRun → List Answered → Prop}
    (h : reply.Reaches (f run) run log post) :
    reply.Reaches (MonadState.get >>= f) run log post := h

theorem Reaches.set {run' : ProducerRun} {f : PUnit → Step α}
    {post : Except Stop α → ProducerRun → List Answered → Prop}
    (h : reply.Reaches (f ()) run' log post) :
    reply.Reaches (MonadStateOf.set run' >>= f) run log post := h

theorem Reaches.modify {g : ProducerRun → ProducerRun} {f : PUnit → Step α}
    {post : Except Stop α → ProducerRun → List Answered → Prop}
    (h : reply.Reaches (f ()) (g run) log post) :
    reply.Reaches (modifyThe ProducerRun g >>= f) run log post := h

/-- However the step ends, the next chunk still gets the number of those accepted. -/
def Keeps (reply : Respondent) (id : JobId) (x : Step α) : Prop :=
  ∀ run log, Counts id run log → reply.Reaches x run log fun _ => Counts id

theorem Keeps.bind (first : reply.Keeps id x) (onward : ∀ a, reply.Keeps id (f a)) :
    reply.Keeps id (x >>= f) := by
  intro run log h
  exact (first run log h).bind (fun a run log => onward a run log) fun _ _ _ h => h

theorem Keeps.pure (a : α) : reply.Keeps id (Pure.pure a : Step α) := fun _ _ h => h

theorem Keeps.throw (stop : Stop) : reply.Keeps id (MonadExcept.throw stop : Step α) :=
  fun _ _ h => h

theorem Keeps.stopOnFailure (o : Outcome α) : reply.Keeps id (ProducerRun.stopOnFailure o) := by
  cases o with
  | ok a => exact .pure a
  | error f => exact .throw _

section Steps

variable {c : Call} (silent : ∀ answer, (⟨c, answer⟩ : Answered).isPublishing = false)
include silent

theorem Reaches.ask (h : Counts id run log) :
    reply.Reaches (ProducerRun.ask c) run log fun _ run' log' => run' = run ∧ Counts id run log' :=
  ⟨rfl, h.quiet (silent _)⟩

theorem Keeps.ask : reply.Keeps id (ProducerRun.ask c) := fun _ _ h => h.quiet (silent _)

end Steps

theorem reaches_ensureProcessing (h : Counts id run log) :
    reply.Reaches ensureProcessing run log fun _ run' log' => run' = run ∧ Counts id run log' := by
  unfold ensureProcessing
  apply Reaches.get
  apply (Reaches.ask (fun _ => rfl) h).bind
  · rintro answer run log ⟨rfl, hasked⟩
    rcases answer with f | _ | job
    · exact ⟨rfl, hasked⟩
    · exact ⟨rfl, hasked⟩
    · simp only [Producing.stopOnFailure_ok, pure_bind]
      cases job.status <;> exact ⟨rfl, hasked⟩
  · exact fun _ _ _ h => h

theorem keeps_flushRejections : reply.Keeps id flushRejections := by
  unfold flushRejections
  intro run log h
  apply Reaches.get
  split
  · exact h
  · have hbooking : reply.Keeps id (do
        let _ ← ProducerRun.ask (.saveErrors run.pendingErrors)
        let _ ← ProducerRun.stopOnFailure
          (← ProducerRun.ask (.increment run.jobId 0 run.pendingErrors.length))) := by
      refine (Keeps.ask fun _ => rfl).bind fun _ => ?_
      refine (Keeps.ask fun _ => rfl).bind fun answer => ?_
      exact (Keeps.stopOnFailure answer).bind fun _ => Keeps.pure ()
    apply Reaches.set
    exact hbooking _ _ ⟨h.jobId, h.ordered, h.next⟩

/-- A chunk with the next number is submitted until it is accepted or the retries are used up. -/
theorem reaches_publishWithRetry (h : Counts id run log) (records : List ProductRecord)
    (retries : Nat) :
    reply.Reaches (fun s => do
        return (.ok (← publishWithRetry ⟨run.jobId, run.chunkNumber.toInt, records⟩ 0 retries), s))
      run log fun result run' log' =>
        ∃ verdict, result = .ok verdict ∧ run' = run ∧ InOrder id log' ∧
          (chunksOf log').length = (chunksOf log).length + verdict.toOption.toList.length := by
  obtain ⟨verdict, calls, hran, hsubmits⟩ := submits_publishWithRetry reply
    ⟨run.jobId, run.chunkNumber.toInt, records⟩ 0 retries log
  unfold Reaches
  rw [Runs.lift run hran]
  refine ⟨verdict, rfl, rfl,
    h.ordered.submits hsubmits h.jobId (congrArg Int32.toInt h.next), ?_⟩
  rw [chunksOf_append, hsubmits.chunksOf_eq, List.length_append, List.length_map]

theorem keeps_publishWindow (settings : ImportSettings) :
    reply.Keeps id (publishWindow settings) := by
  unfold publishWindow
  intro run log h
  apply Reaches.get
  split
  · exact keeps_flushRejections run log h
  · apply (reaches_ensureProcessing h).bind
    · -- the window is cleared in the run as it was before the job was looked up
      rintro _ run log ⟨rfl, hensured⟩
      have hset : Counts id { run with window := [] } log :=
        ⟨hensured.jobId, hensured.ordered, hensured.next⟩
      apply Reaches.set
      apply (reaches_publishWithRetry hset run.window settings.publishRetries).bind
      · rintro verdict _ log' ⟨_, hverdict, rfl, hordered, hlength⟩
        obtain rfl := Except.ok.inj hverdict
        have hnext : run.chunkNumber = .ofNat (chunksOf log).length := hset.next
        cases verdict with
        | error f =>
          have hstopped : Counts id { run with window := [] } log' :=
            ⟨hset.jobId, hordered, hlength ▸ hnext⟩
          exact hstopped
        | ok _ =>
          apply Reaches.modify
          apply keeps_flushRejections
          refine ⟨hset.jobId, hordered, ?_⟩
          rw [hlength, Int32.ofNat_add]
          exact congrArg (· + 1) hnext
      · rintro _ _ _ ⟨_, hverdict, -⟩
        cases hverdict
    · rintro _ _ log ⟨rfl, hensured⟩
      exact hensured

theorem keeps_onEvent (settings : ImportSettings) (event : RowEvent) :
    reply.Keeps id (onEvent settings event) := by
  intro run log h
  cases event with
  | fault fault => exact h
  | parsed record =>
    have htaken : Counts id (Producing.take record run) log := ⟨h.jobId, h.ordered, h.next⟩
    apply Reaches.modify
    apply Reaches.get
    split
    · exact keeps_publishWindow settings _ log htaken
    · exact htaken
  | rejected rowNumber message raw =>
    have hrejected : Counts id (reject settings rowNumber message raw run) log :=
      ⟨(reject_jobId ..).trans h.jobId, h.ordered, (reject_chunkNumber ..).trans h.next⟩
    apply Reaches.modify
    apply Reaches.get
    split
    · exact keeps_flushRejections _ log hrejected
    · exact hrejected

theorem Keeps.forM {γ : Type} {f : γ → Step PUnit} (each : ∀ c, reply.Keeps id (f c))
    (cs : List γ) : reply.Keeps id (cs.forM f) := by
  induction cs with
  | nil => exact Keeps.pure _
  | cons c cs ih => exact (each c).bind fun _ => ih

theorem counts_of_silent {p : Plan α} (silent : p.Silent) (h : Counts id run log) :
    Counts id run (Plan.run reply.answer p log).2 := by
  induction silent generalizing log with
  | done a => exact h
  | call quiet _ ih => exact ih _ (h.quiet (quiet _))

theorem Keeps.lift {p : Plan α} (silent : p.Silent) :
    reply.Keeps id (fun s => do return (.ok (← p), s)) := by
  intro run log h
  have hran : reply.Runs (fun s => do return (.ok (← p), s)) run log
      (Plan.run reply.answer p log).1 run (Plan.run reply.answer p log).2 := Runs.lift run rfl
  unfold Reaches
  rw [hran]
  exact counts_of_silent silent h

theorem keeps_finish (settings : ImportSettings) : reply.Keeps id (finish settings) := by
  unfold finish
  refine (keeps_publishWindow settings).bind fun _ => ?_
  intro run log h
  apply Reaches.get
  split
  · exact h
  · have htotal : reply.Keeps id (Producing.recordTotal run.jobId run.rowsRead) := by
      unfold Producing.recordTotal Producing.lastCheck
      refine (Keeps.ask fun _ => rfl).bind fun total => ?_
      refine (Keeps.stopOnFailure _).bind fun _ => ?_
      refine (Keeps.lift (silent_checkAndComplete _)).bind fun completed => ?_
      exact (Keeps.stopOnFailure _).bind fun _ => Keeps.pure ()
    exact htotal run log h

theorem keeps_publishWindows (settings : ImportSettings) (windows : List (List ProductRecord)) :
    reply.Keeps id (publishWindows settings windows) := by
  refine Keeps.forM (fun window => ?_) windows
  intro run log h
  apply Reaches.modify
  exact keeps_publishWindow settings _ log ⟨h.jobId, h.ordered, h.next⟩

theorem counts_produce (reply : Respondent) (settings : ImportSettings) (id : JobId)
    (source : List RowEvent) :
    let ran := Plan.run reply.answer (produce settings id source) []
    InOrder id ran.2 ∧ ran.1.chunksPublished = .ofNat (chunksOf ran.2).length := by
  have hsteps : reply.Keeps id (do stream settings source; finish settings) :=
    (Keeps.forM (keeps_onEvent settings) source).bind fun _ => keeps_finish settings
  have hran := hsteps (start id) [] (.start id)
  have hproduce : produce settings id source =
      Producing.concluding (do stream settings source; finish settings) (start id) := rfl
  unfold Reaches at hran
  rw [hproduce, Producing.concluding, Plan.run_bind]
  generalize Plan.run reply.answer
    ((do stream settings source; finish settings : Step Unit) (start id)) [] = ran at hran
  obtain ⟨⟨result, run⟩, log⟩ := ran
  have hconcluded : Counts id run (Plan.run reply.answer (run.conclude result) log).2 :=
    counts_of_silent (silent_conclude run result) hran
  simp only [Plan.run_bind]
  exact ⟨hconcluded.ordered, hconcluded.next⟩

end Respondent

/-- The chunks that the bus has accepted are those of the job numbered 0, 1, 2 and so on, as far as
32 bits go; the next one, and any that is refused before it is accepted, has the number that
follows. -/
structure Consecutive (id : JobId) (next : Int32) (log : List Answered) : Prop where
  ordered : InOrder id log
  jobIds : ∀ chunk ∈ chunksOf log, chunk.jobId = id
  numbers : (chunksOf log).map (·.number) = (List.range (chunksOf log).length).map Chunk.ordinal
  next : next = .ofNat (chunksOf log).length
  exact : (chunksOf log).length ≤ 2 ^ 31 → (chunksOf log).map (·.number) =
    (List.range (chunksOf log).length).map fun k : Nat => (k : Int)
  distinct : (chunksOf log).length ≤ 2 ^ 32 → ((chunksOf log).map (·.number)).Nodup

theorem InOrder.consecutive {id : JobId} {next : Int32} {log : List Answered} (h : InOrder id log)
    (next_ : next = .ofNat (chunksOf log).length) : Consecutive id next log where
  ordered := h
  jobIds := h.numbers.1
  numbers := h.numbers.2
  next := next_
  exact few := by
    rw [h.numbers.2]
    refine List.map_congr_left fun k hk => Chunk.ordinal_of_lt ?_
    exact (List.mem_range.mp hk).trans_le few
  distinct few := by
    rw [h.numbers.2]
    refine List.Nodup.map_on (fun i hi j hj same => ?_) List.nodup_range
    have hmod := Chunk.mod_eq_of_ordinal_eq same
    have hi' := (List.mem_range.mp hi).trans_le few
    have hj' := (List.mem_range.mp hj).trans_le few
    rwa [Nat.mod_eq_of_lt hi', Nat.mod_eq_of_lt hj'] at hmod

end CatalogIntake
