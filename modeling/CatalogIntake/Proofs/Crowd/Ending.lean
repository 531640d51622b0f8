import CatalogIntake.Proofs.Concurrency.Timeliness
import CatalogIntake.Proofs.Crowd.Basic
import CatalogIntake.Proofs.Store.Lifecycle
import CatalogIntake.Proofs.Text.Bounded

/-!
What a producer reports at its end, against its job in the table. Until then the bus, the log and
the counters may fail it at any call, and others may cancel the job, count rows for it and check it;
only the producer itself fails the job or writes its total.
-/

namespace CatalogIntake

open Simulation

def Point.effort : Point → Nat
  | reading => 3
  | opening atEnd => if atEnd then 2 else 5
  | flushing atEnd => if atEnd then 1 else 4
  | _ => 0

namespace Producing

variable {settings : ImportSettings} {p next : Producing}

theorem Goes.effort_lt (h : Goes settings p next) :
    3 * next.unread.length + next.point.effort < 3 * p.unread.length + p.point.effort := by
  cases h with
  | sourceEnded at_ _ =>
    rw [at_]
    exact Nat.lt_succ_self _
  | @taken event rest at_ unread =>
    have hpoint : (onEvent settings p.run rest event).point.effort ≤ 5 := by
      cases event with
      | fault fault => exact Nat.zero_le _
      | _ =>
        simp only [onEvent]
        split <;> decide
    have hrest : (onEvent settings p.run rest event).unread = rest := by
      cases event <;> rfl
    rw [at_, unread, hrest, List.length_cons]
    show _ < 3 * (rest.length + 1) + 3
    omega
  | @nothingToPublish atEnd at_ _ =>
    rw [at_]
    cases atEnd <;> exact Nat.lt_succ_self _
  | @nothingToFlush atEnd at_ _ =>
    rw [at_]
    unfold proceed
    cases atEnd with
    | false => exact Nat.lt_succ_self _
    | true =>
      rw [if_pos rfl]
      split <;> exact Nat.lt_succ_self _

def machine (settings : ImportSettings) : Machine Producing ProducerSummary where
  move := move settings
  plan := plan settings
  plan_eq := plan_eq settings
  effort p := 3 * p.unread.length + p.point.effort
  effort_lt := fun h => (goes_of_move h).effort_lt

theorem ended_of_move {summary : ProducerSummary} (h : p.move settings = .halt summary) :
    ∃ outcome, p.point = .ended outcome ∧ summary = p.run.summary outcome := by
  unfold move at h
  split at h
  · split at h <;> cases h
  · split at h <;> cases h
  · cases h
  · cases h
  · split at h <;> cases h
  all_goals first
    | cases h
      exact ⟨_, ‹_›, rfl⟩
    | cases h

theorem proceed_ne_ended (atEnd : Bool) (outcome : ProducerOutcome) :
    (p.proceed atEnd).point ≠ .ended outcome := by
  unfold proceed
  split
  · split <;> exact fun h => by cases h
  · exact fun h => by cases h

theorem Goes.next_ne_ended (h : Goes settings p next) (outcome : ProducerOutcome) :
    next.point ≠ .ended outcome := by
  cases h with
  | @taken event rest _ _ =>
    cases event with
    | fault fault => exact fun h => by cases h
    | _ =>
      simp only [onEvent]
      split <;> exact fun h => by cases h
  | nothingToFlush _ _ => exact proceed_ne_ended _ _
  | _ => exact fun h => by cases h

theorem Goes.chunkNumber (h : Goes settings p next) :
    next.run.chunkNumber = p.run.chunkNumber := by
  cases h with
  | @taken event rest _ _ =>
    cases event with
    | rejected rowNumber message raw =>
      simp only [onEvent, ProducerRun.reject]
      split <;> rfl
    | _ => rfl
  | nothingToFlush _ _ => rw [proceed_run]
  | _ => rfl

/-- The number of the next chunk goes up when the bus accepts one. -/
theorem Asks.chunkNumber {c : Call} {answer : c.Answer} (h : Asks settings p c answer next) :
    next.run.chunkNumber = p.run.chunkNumber + .ofNat (c.published? answer).toList.length := by
  cases h with
  | published _ => rfl
  | counted _ =>
    rw [proceed_run]
    exact (Int32.add_zero _).symm
  | _ => exact (Int32.add_zero _).symm

theorem Asks.published_chunk {c : Call} {answer : c.Answer} {chunk : Chunk}
    (h : Asks settings p c answer next) (hchunk : c.published? answer = some chunk) :
    p.point.chunk? = some chunk := by
  cases h with
  | published at_ =>
    rw [at_]
    exact hchunk
  | _ => cases hchunk

end Producing

/-- A call that neither fails the job nor writes its total. The rows that others count are not fewer
than none. -/
def Call.spares (id : JobId) : Call → Bool
  | .failJob other _ | .finalizeTotal other _ => other ≠ id
  | .increment _ processed failed => 0 ≤ processed + failed
  | _ => true

namespace Concurrency

/-- What a producer shares with the others, and the chunks that the bus has accepted from it. -/
structure Venue where
  world : World
  accepted : List Chunk

inductive Interference (id : JobId)
  | called (c : Call) (spares : c.spares id = true)
  | supplied (supply : Supply) (value : Bool)
  | waited (now : Instant)

namespace Venue

def reply (x : Venue) : (c : Call) → c.Answer × Venue
  | .publish chunk => (.ok (), { x with accepted := x.accepted ++ [chunk] })
  | c => ((x.world.answer c).1, { x with world := (x.world.answer c).2 })

/-- With a failure as its verdict, a call to the bus, to the log or to the counters fails. -/
def host (id : JobId) : Host Venue (Option Failure) (Interference id) where
  answer
    | _, none, c, x => x.reply c
    | _, some f, c, x => if c.isFallible then (.error f, x) else x.reply c
  happen
    | .called c _, x => { x with world := (x.world.answer c).2 }
    | .supplied supply value, x => { x with world := x.world.setAvailable supply value }
    | .waited now, x => { x with world := { x.world with now } }

structure Replies (x : Venue) (c : Call) (answer : c.Answer) (y : Venue) : Prop where
  accepted : y.accepted = x.accepted ++ (c.published? answer).toList
  stores : c.isFallible = false → (x.world.answer c).1 = answer
  job : ∀ {id : JobId}, c.isCreate = false → c.jobId? = some id ∨ c.jobId? = none →
    y.world.jobs.get? id = (x.world.jobs.get? id).map (Job.after x.world.now c answer)

theorem replies_reply (x : Venue) (c : Call) : Replies x c (x.reply c).1 (x.reply c).2 := by
  have store (hc : ∀ chunk, c ≠ .publish chunk) : Replies x c (x.world.answer c).1
      { x with world := (x.world.answer c).2 } := by
    refine ⟨?_, fun _ => rfl, fun create own => ?_⟩
    · cases c with
      | publish chunk => exact absurd rfl (hc chunk)
      | _ => exact (List.append_nil _).symm
    · exact System.get?_of_own_answer (s := ⟨x.world, [], [], []⟩) rfl create own
  cases c with
  | publish chunk =>
    refine ⟨rfl, ?_, fun _ _ => Option.map_id'.symm⟩
    exact fun h => nomatch h
  | _ => exact store fun chunk h => by cases h

theorem replies_answer (id : JobId) (i : Nat) (verdict : Option Failure) (c : Call) (x : Venue) :
    Replies x c ((host id).answer i verdict c x).1 ((host id).answer i verdict c x).2 := by
  cases verdict with
  | none => exact replies_reply x c
  | some f =>
    simp only [host]
    split
    · rename_i hfallible
      refine ⟨?_, fun h => ?_, fun _ _ => ?_⟩
      · cases c <;> exact (List.append_nil _).symm
      · rw [hfallible] at h
        cases h
      · -- a call that fails leaves every job as it is
        cases c with
        | publish _ | saveErrors _ | increment _ _ _ => exact Option.map_id'.symm
        | _ => cases hfallible
    · exact replies_reply x c

end Venue

end Concurrency

/-- The job of a producer that has ended failed is no longer in progress, and if it has failed it is
for the same reason. -/
def Producing.Closes (p : Producing) (job : Job) : Prop :=
  ∀ reason, p.point = .ended (.failed reason) → reason.length ≤ 1000 ∧
    (job.status = .failed ∧ job.failureReason = some reason ∨ job.status = .cancelled)

namespace Agrees

variable {settings : ImportSettings} {p next : Producing} {job : Job}

theorem closes (h : Agrees p job) (now : Instant) {c : Call} {answer : c.Answer}
    (asks : Producing.Asks settings p c answer next) :
    next.Closes (Job.after now c answer job) := by
  intro reason hend
  cases asks with
  | @failed cause _ at_ =>
    obtain rfl : Text.boundedErrorMessage cause = reason := by
      cases hend
      rfl
    refine ⟨Job.length_boundedErrorMessage cause, ?_⟩
    show (job.finished .failed _ now).status = _ ∧ (job.finished .failed _ now).failureReason = _ ∨
      (job.finished .failed _ now).status = _
    unfold Job.finished
    split
    · exact .inl ⟨rfl, congrArg some (Text.boundedErrorMessage_boundedErrorMessage cause)⟩
    · -- without a total it cannot be completed, and nobody else has failed it
      cases hstatus : job.status with
      | cancelled => exact .inr rfl
      | processing => exact absurd hstatus ‹_›
      | pending => exact absurd hstatus h.pending
      | failed =>
        have hfailed := h.failed hstatus
        rw [at_] at hfailed
        cases hfailed
      | completed =>
        obtain ⟨total, htotal, -⟩ := h.completed hstatus
        rw [h.total, at_] at htotal
        cases htotal
  | counted _ => exact absurd hend (Producing.proceed_ne_ended _ _)
  | _ => cases hend

theorem called (h : Agrees p job) (closes : p.Closes job) (now : Instant) {c : Call}
    (spares : c.spares job.id = true) (own : c.jobId? = some job.id) (answer : c.Answer) :
    Agrees p (Job.after now c answer job) ∧ p.Closes (Job.after now c answer job) := by
  cases c with
  | finalizeTotal other total =>
    have hne : other ≠ job.id := of_decide_eq_true spares
    exact absurd (Option.some.inj own) hne
  | failJob other reason =>
    have hne : other ≠ job.id := of_decide_eq_true spares
    exact absurd (Option.some.inj own) hne
  | increment other processed failed =>
    cases answer with
    | error f => exact ⟨h, closes⟩
    | ok counters => exact ⟨h.counted processed failed (of_decide_eq_true spares), closes⟩
  | completeIfDone other =>
    refine ⟨h.checked now, fun reason hend => ?_⟩
    obtain ⟨hlength, hstatus⟩ := closes reason hend
    have hready : job.isReadyToComplete ≠ true := by
      intro hready
      have hprocessing := (job.isReadyToComplete_iff.mp hready).1
      rw [hprocessing] at hstatus
      rcases hstatus with ⟨hstatus, -⟩ | hstatus <;> cases hstatus
    show _ ∧ ((job.checked now).status = _ ∧ (job.checked now).failureReason = _ ∨
      (job.checked now).status = _)
    unfold Job.checked
    rw [if_neg hready]
    exact ⟨hlength, hstatus⟩
  | cancelJob other =>
    refine ⟨h.cancel now, fun reason hend => ?_⟩
    obtain ⟨hlength, hstatus⟩ := closes reason hend
    refine ⟨hlength, ?_⟩
    show (job.finished .cancelled none now).status = _ ∧
      (job.finished .cancelled none now).failureReason = _ ∨
      (job.finished .cancelled none now).status = _
    unfold Job.finished
    split
    · exact .inr rfl
    · exact hstatus
  | _ => exact ⟨h, closes⟩

end Agrees

namespace Concurrency

structure Accord (settings : ImportSettings) (source : List RowEvent) (id : JobId) (x : Venue)
    (p : Producing) : Prop where
  jobId : p.run.jobId = id
  job : ∃ job, x.world.jobs.get? id = some job ∧ Agrees p job ∧ p.Closes job
  chunks : p.run.chunkNumber = .ofNat x.accepted.length
  named : ∀ chunk ∈ x.accepted, chunk.jobId = id
  reads : ∃ flushed, Reads settings source x.accepted flushed p

namespace Accord

variable {settings : ImportSettings} {source : List RowEvent} {id : JobId} {x y : Venue}
  {p next : Producing}

theorem start {world : World} {created : Instant}
    (known : world.jobs.get? id = some (Job.started id created)) :
    Accord settings source id ⟨world, []⟩ (.start id source) where
  jobId := rfl
  job := ⟨_, known, .start id source created, fun _ hend => by cases hend⟩
  chunks := rfl
  named := fun _ hchunk => by cases hchunk
  reads := ⟨0, .start settings id source⟩

theorem goes (h : Accord settings source id x p) (goes : Producing.Goes settings p next) :
    Accord settings source id x next where
  jobId := goes.jobId.trans h.jobId
  job := by
    obtain ⟨job, hjob, hagrees, -⟩ := h.job
    exact ⟨job, hjob, hagrees.goes goes, fun _ hend => absurd hend (goes.next_ne_ended _)⟩
  chunks := goes.chunkNumber.trans h.chunks
  named := h.named
  reads := by
    obtain ⟨flushed, hreads⟩ := h.reads
    exact ⟨flushed, hreads.goes goes⟩

theorem asks (h : Accord settings source id x p) {c : Call} {answer : c.Answer}
    (asks : Producing.Asks settings p c answer next) (replies : Venue.Replies x c answer y) :
    Accord settings source id y next where
  jobId := asks.jobId.trans h.jobId
  job := by
    obtain ⟨job, hjob, hagrees, -⟩ := h.job
    obtain ⟨hown, hcreate⟩ := asks.callJobId
    rw [h.jobId] at hown
    refine ⟨Job.after x.world.now c answer job, ?_, ?_, hagrees.closes x.world.now asks⟩
    · rw [replies.job hcreate hown, hjob]
      rfl
    · exact hagrees.asks asks (h.jobId ▸ hjob) replies.stores
  chunks := by
    rw [asks.chunkNumber, h.chunks, replies.accepted, List.length_append, Int32.ofNat_add]
  named := by
    intro chunk hchunk
    rw [replies.accepted] at hchunk
    rcases List.mem_append.mp hchunk with hchunk | hchunk
    · exact h.named chunk hchunk
    · obtain ⟨flushed, hreads⟩ := h.reads
      have hpoint := asks.published_chunk (Option.mem_toList.mp hchunk)
      exact (hreads.chunk chunk hpoint).1.trans h.jobId
  reads := by
    obtain ⟨flushed, hreads⟩ := h.reads
    rw [replies.accepted]
    exact ⟨_, hreads.asks asks⟩

theorem happen (h : Accord settings source id x p) (event : Interference id) :
    Accord settings source id ((Venue.host id).happen event x) p := by
  obtain ⟨job, hjob, hagrees, hcloses⟩ := h.job
  cases event with
  | called c spares =>
    refine { h with job := ?_ }
    cases create : c.isCreate with
    | true =>
      cases c with
      | createJob other =>
        refine ⟨job, (JobTable.get?_create ..).trans ?_, hagrees, hcloses⟩
        split
        · rename_i hnew
          have hnone : x.world.jobs.get? id = none := hnew.1 ▸ hnew.2
          rw [hjob] at hnone
          cases hnone
        · exact hjob
      | _ => cases create
    | false =>
      have hget := x.world.get?_answer create id
      split at hget
      · rename_i hown
        obtain rfl : job.id = id := JobTable.id_of_get? hjob
        refine ⟨_, hget.trans (congrArg (Option.map _) hjob), ?_⟩
        exact hagrees.called hcloses x.world.now spares hown _
      · exact ⟨job, hget.trans hjob, hagrees, hcloses⟩
  | supplied supply value =>
    refine { h with job := ⟨job, ?_, hagrees, hcloses⟩ }
    cases supply <;> exact hjob
  | waited now => exact { h with job := ⟨job, hjob, hagrees, hcloses⟩ }

/-- Whatever the producer does by itself, asks or has to suffer. -/
theorem keeps (settings : ImportSettings) (source : List RowEvent) (id : JobId) :
    (Producing.machine settings).Keeps (Venue.host id) fun x ts =>
      ∃ p, ts = [p] ∧ Accord settings source id x p := by
  refine .single ?_ ?_ ?_
  · exact fun h hmove => h.goes (Producing.goes_of_move hmove)
  · intro x p c next h hmove verdict
    exact h.asks (Producing.asks_of_move hmove _) (Venue.replies_answer id 0 verdict c x)
  · exact fun h event => h.happen event

end Accord

def Tells (summary : ProducerSummary) (job : Job) : Prop :=
  match summary.outcome with
  | .finished =>
    1 ≤ summary.rowsRead ∧ job.totalRows = some summary.rowsRead ∧ job.status ≠ .failed
  | .cancelled => job.status = .cancelled ∧ job.totalRows = some summary.rowsRead
  | .failed reason => reason.length ≤ 1000 ∧ job.totalRows = none ∧
    (job.status = .failed ∧ job.failureReason = some reason ∨ job.status = .cancelled)

theorem Accord.rowsRead_pos {settings : ImportSettings} {source : List RowEvent} {id : JobId}
    {x : Venue} {p : Producing} (h : Accord settings source id x p)
    (final : p.point.isFinal = true) : 1 ≤ p.run.rowsRead := by
  obtain ⟨flushed, hreads⟩ := h.reads
  have hle := hreads.rows_le
  have hflushed := hreads.flushed
  have hrows := hreads.rows final
  omega

theorem Accord.tells {settings : ImportSettings} {source : List RowEvent} {id : JobId} {x : Venue}
    {p : Producing} {outcome : ProducerOutcome} (h : Accord settings source id x p)
    (ended : p.point = .ended outcome) :
    ∃ job, x.world.jobs.get? id = some job ∧ Tells (p.run.summary outcome) job := by
  obtain ⟨job, hjob, hagrees, hcloses⟩ := h.job
  refine ⟨job, hjob, ?_⟩
  have htotal := hagrees.total
  have hcancelled := hagrees.cancelled
  have hfailed := hagrees.failed
  rw [ended] at htotal hcancelled hfailed
  cases outcome with
  | finished =>
    refine ⟨h.rowsRead_pos (by rw [ended]; rfl), htotal, fun hstatus => ?_⟩
    cases hfailed hstatus
  | cancelled => exact ⟨hcancelled rfl, htotal⟩
  | failed reason =>
    obtain ⟨hlength, hstatus⟩ := hcloses reason ended
    exact ⟨hlength, htotal, hstatus⟩

section Mug

def mugWorld : World :=
  .opening ⟨0, 0⟩ (JobTable.empty.create (Job.started ⟨7⟩ ⟨0, 0⟩)).2 .empty .empty 1

/-- The bus takes the mug at the second attempt. The rejected row cannot be counted, and before the
producer fails its job somebody cancels it. -/
def mugUnlucky : List (Crowd.Turn (Option Failure) (Interference ⟨7⟩)) :=
  [.call 0 none, .call 0 (some (.of .busClosed)), .call 0 none, .call 0 none, .call 0 none,
    .call 0 (some (.of .jobStoreUnavailable)), .happen (.called (.cancelJob ⟨7⟩) rfl), .call 0 none]

end Mug

end Concurrency

end CatalogIntake
