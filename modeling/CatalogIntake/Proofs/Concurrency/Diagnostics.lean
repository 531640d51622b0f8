import CatalogIntake.Proofs.Concurrency.Provenance
import CatalogIntake.Proofs.Text.Bounded
import CatalogIntake.Proofs.Wire

/-!
The diagnostics in the stores: entries of the error log, and the reasons for which jobs were failed.
Each is what is kept of one full text, and the row data of a record are the record itself as long as
they have not been cut.
-/

namespace CatalogIntake

namespace ProductRecord

def IsReadFrom (record : ProductRecord) (text : String) : Prop :=
  ∃ json r, Json.read text = some json ∧ decode json = .ok r ∧ r.Same record

theorem isReadFrom_wire {record : ProductRecord} (h : record.InRange) :
    record.IsReadFrom record.wire :=
  ⟨record.toJson, record.received, Json.read_render (exact_toJson h), decode_toJson h,
    record.same_received⟩

end ProductRecord

namespace Job

variable {job : Job} {now : Instant} {reason : String}

theorem failureReason_finished {status : JobStatus} {given : Option String}
    (h : (job.finished status given now).failureReason = some reason) :
    job.failureReason = some reason ∨ given.map Text.boundedErrorMessage = some reason := by
  unfold finished at h
  split at h
  · exact .inr h
  · exact .inl h

theorem failureReason_after {c : Call} {answer : c.Answer}
    (h : (after now c answer job).failureReason = some reason) :
    job.failureReason = some reason ∨
      ∃ id given, c = .failJob id given ∧ Text.boundedErrorMessage given = reason := by
  cases c with
  | finalizeTotal id total =>
    simp only [after, totalled] at h
    split at h <;> exact .inl h
  | increment id processed failed => cases answer <;> exact .inl h
  | completeIfDone id =>
    simp only [after, checked] at h
    split at h <;> exact .inl h
  | failJob id given =>
    rcases failureReason_finished h with h | h
    · exact .inl h
    · exact .inr ⟨id, given, rfl, Option.some.inj h⟩
  | cancelJob id =>
    rcases failureReason_finished h with h | h
    · exact .inl h
    · cases h
  | _ => exact .inl h

end Job

namespace Concurrency

theorem World.entries_answer (w : World) (c : Call) :
    ∃ added, (w.answer c).2.errors.entries = w.errors.entries ++ added ∧
      ∀ e ∈ added, ∃ candidate ∈ c.saved (w.answer c).1, ∃ id,
        e = .ofCandidate id w.now candidate := by
  cases c with
  | saveErrors candidates =>
    rw [answer_saveErrors]
    unfold ErrorLog.save
    split
    · refine ⟨_, ErrorLog.append_eq _ _ _, ?_⟩
      intro e he
      obtain ⟨k, hk, rfl⟩ := List.mem_mapIdx.mp he
      exact ⟨candidates[k], List.getElem_mem hk, _, rfl⟩
    · exact ⟨[], (List.append_nil _).symm, fun e he => by cases he⟩
  | _ => exact ⟨[], (List.append_nil _).symm, fun e he => by cases he⟩

namespace System

variable {a : Action} {s s' : System} {i : Nat} {p : Producer} {id : JobId} {e : ErrorEntry}
  {candidate : ErrorCandidate} {reason : String}

/-- What an entry of the error log says, beside all that could be said. -/
inductive Diagnosed (s : System) (e : ErrorEntry) : Prop
  /-- It is about a line of a source, which gave no record. -/
  | rejected {i : Nat} {p : Producer} {rowNumber : Int} {message : String} {raw : Option String}
      (at_ : s.producers[i]? = some p) (own : p.jobId = e.jobId)
      (row : .rejected rowNumber message raw ∈ p.source) (number : e.rowNumber = some rowNumber)
      (text : Text.Cut 1000 message e.message)
      (rowData : Option.Rel (Text.Cut 2000) raw e.rowData)
  /-- It is about a record of a published chunk, which was not stored. -/
  | refused {chunk : Chunk} {record : ProductRecord} {message kept : String}
      (published : chunk ∈ s.published e.jobId) (member : record ∈ chunk.records)
      (refusal : Refusal chunk (s.AnsweredFor chunk) record message)
      (number : e.rowNumber = record.rowNumber) (text : Text.Cut 1000 message e.message)
      (rowData : e.rowData = some kept) (cut : Text.Cut 2000 record.wire kept)
      (reads : record.InRange → record.wire.length ≤ 2000 → record.IsReadFrom kept)

/-- The producer of the job has failed it, with this left of the full reason. -/
def GaveUp (s : System) (id : JobId) (kept : String) : Prop :=
  ∃ i p full, s.producers[i]? = some p ∧ p.jobId = id ∧
    StopReason id p.source (s.AnsweredTo i) full ∧ Text.Cut 1000 full kept

theorem Diagnosed.mono (h : s.Diagnosed e) (step : Step s a s') : s'.Diagnosed e := by
  cases h with
  | rejected at_ own row number text rowData =>
    obtain ⟨p', hp', source, jobId, -⟩ := step.later at_
    exact .rejected hp' (jobId.trans own) (source ▸ row) number text rowData
  | refused published member refusal number text rowData cut reads =>
    exact .refused (step.mem_published published) member (refusal.mono step.answeredFor) number
      text rowData cut reads

theorem GaveUp.mono (h : s.GaveUp id reason) (step : Step s a s') : s'.GaveUp id reason := by
  obtain ⟨i, p, full, at_, own, stop, cut⟩ := h
  obtain ⟨p', hp', source, jobId, -⟩ := step.later at_
  exact ⟨i, p', full, hp', jobId.trans own, source ▸ stop.mono step.answeredTo, cut⟩

theorem diagnosed_of_rejects {number : Int} {now : Instant} (at_ : s.producers[i]? = some p)
    (own : candidate.jobId = p.jobId) (rejects : RowEvent.Rejects p.source candidate) :
    s.Diagnosed (.ofCandidate number now candidate) := by
  obtain ⟨rowNumber, message, raw, row, hcandidate⟩ := rejects
  rw [hcandidate]
  refine .rejected at_ own.symm row rfl (Text.cut_truncate _ _) ?_
  cases raw with
  | none => exact .none
  | some raw => exact .some (Text.cut_truncate _ _)

theorem diagnosed_of_refuses {number : Int} {now : Instant} {chunk : Chunk}
    (published : chunk ∈ s.published chunk.jobId)
    (refuses : chunk.Refuses (s.AnsweredFor chunk) candidate) :
    s.Diagnosed (.ofCandidate number now candidate) := by
  obtain ⟨record, member, message, refusal, rfl⟩ := refuses
  refine .refused published member refusal rfl (Text.cut_truncate _ _) rfl
    (Text.cut_truncate _ _) ?_
  intro inRange short
  have hwhole : Text.boundedRowData record.wire = record.wire := Text.truncate_of_le short
  rw [hwhole]
  exact ProductRecord.isReadFrom_wire inRange

/-- The entries of what a call saves say enough if all its candidates do. -/
theorem entries_of_answer {c : Call} {answer : c.Answer} {world : World}
    (replies : s.world.answer c = (answer, world))
    (saved : ∀ candidate ∈ c.saved answer, ∀ number,
      s.Diagnosed (.ofCandidate number s.world.now candidate)) :
    ∃ added, world.errors.entries = s.world.errors.entries ++ added ∧
      ∀ e ∈ added, s.Diagnosed e := by
  obtain ⟨added, hentries, hadded⟩ := s.world.entries_answer c
  rw [replies] at hentries hadded
  refine ⟨added, hentries, ?_⟩
  intro e he
  obtain ⟨candidate, hcandidate, number, rfl⟩ := hadded e he
  exact saved candidate hcandidate number

theorem Step.entries (step : Step s a s') (traceable : s.Traceable) (sound : s.Sound) :
    ∃ added, s'.world.errors.entries = s.world.errors.entries ++ added ∧
      ∀ e ∈ added, s.Diagnosed e := by
  have nothing : ∃ added, s.world.errors.entries = s.world.errors.entries ++ added ∧
      ∀ e ∈ added, s.Diagnosed e :=
    ⟨[], (List.append_nil _).symm, fun e he => by cases he⟩
  cases step with
  | asked at_ _ _ replies asks =>
    refine entries_of_answer replies fun candidate hsaved number => ?_
    have hpending := asks.saved hsaved
    obtain ⟨job, himport⟩ := sound.imports at_
    exact diagnosed_of_rejects at_ (himport.reads.named _ hpending)
      (traceable.pending at_ _ hpending)
  | handled at_ busy replies asks =>
    refine entries_of_answer replies fun candidate hsaved number => ?_
    have herrors := Stage.saved_of_asks asks hsaved
    have htaken := taken_of_busy sound.balanced at_ busy (Stage.isCounted_of_mem_errors herrors)
    exact diagnosed_of_refuses (List.mem_filter.mpr ⟨htaken, decide_eq_true rfl⟩)
      ((traceable.duties at_ busy).errors _ herrors)
  | received _ _ _ =>
    simp only [setWorker, world_letIn]
    exact nothing
  | supplied supply value => cases supply <;> exact nothing
  | _ => exact nothing

/-- A reason that a job did not have before a step comes from its producer. -/
theorem Step.failureReason {job' : Job} (step : Step s a s') (traceable : s.Traceable)
    (known : s'.world.jobs.get? id = some job') (given : job'.failureReason = some reason) :
    (∃ job, s.world.jobs.get? id = some job ∧ job.failureReason = some reason) ∨
      s.GaveUp id reason := by
  have revision := step.revision id
  rw [known] at revision
  generalize hfound : some job' = found at revision
  cases revision with
  | rested => exact .inl ⟨job', hfound.symm, given⟩
  | started _ =>
    cases hfound
    cases given
  | @asked i p c answer next at_ asks own =>
    obtain ⟨job, hjob, rfl⟩ := Option.map_eq_some_iff.mp hfound.symm
    rcases Job.failureReason_after given with hreason | ⟨id', text, rfl, rfl⟩
    · exact .inl ⟨job, hjob, hreason⟩
    · right
      obtain rfl := Option.some.inj own
      cases asks with
      | @failed full _ hpoint =>
        refine ⟨i, p, full, at_, rfl, traceable.failing at_ hpoint, ?_⟩
        rw [Text.boundedErrorMessage_boundedErrorMessage]
        exact Text.cut_truncate _ _
  | handled asks _ =>
    obtain ⟨job, hjob, rfl⟩ := Option.map_eq_some_iff.mp hfound.symm
    rcases Job.failureReason_after given with hreason | ⟨id', text, rfl, -⟩
    · exact .inl ⟨job, hjob, hreason⟩
    · cases asks
  | cancelled =>
    obtain ⟨job, hjob, rfl⟩ := Option.map_eq_some_iff.mp hfound.symm
    rcases Job.failureReason_finished given with hreason | hnone
    · exact .inl ⟨job, hjob, hreason⟩
    · cases hnone

/-- What the stores hold besides what they held at first. -/
structure Bounded (jobs : JobTable) (errors : ErrorLog) (s : System) : Prop where
  entries : ∃ added, s.world.errors.entries = errors.entries ++ added ∧ ∀ e ∈ added, s.Diagnosed e
  reasons : ∀ {id : JobId} {job : Job} {reason : String}, s.world.jobs.get? id = some job →
    job.failureReason = some reason →
      (∃ first, jobs.get? id = some first ∧ first.failureReason = some reason) ∨ s.GaveUp id reason

theorem Bounded.step {jobs : JobTable} {errors : ErrorLog} (h : s.Bounded jobs errors)
    (traceable : s.Traceable) (sound : s.Sound) (step : Step s a s') : s'.Bounded jobs errors where
  entries := by
    obtain ⟨added, hentries, hadded⟩ := h.entries
    obtain ⟨more, hmore, hdiagnosed⟩ := step.entries traceable sound
    refine ⟨added ++ more, by rw [hmore, hentries, List.append_assoc], ?_⟩
    intro e he
    rcases List.mem_append.mp he with he | he
    · exact (hadded e he).mono step
    · exact (hdiagnosed e he).mono step
  reasons := by
    intro id job' reason known given
    rcases step.failureReason traceable known given with ⟨job, hjob, hreason⟩ | gaveUp
    · rcases h.reasons hjob hreason with first | gaveUp
      · exact .inl first
      · exact .inr (gaveUp.mono step)
    · exact .inr (gaveUp.mono step)

/-- Whatever is cancelled, closed or switched off on the way. A text that is cut twice, by who makes
it and by who stores it, is cut as if once. -/
theorem diagnostics_bounded {now : Instant} {jobs : JobTable} {errors : ErrorLog}
    {products : Catalogue} {capacity workers : Nat} {schedule : List Action}
    (run : (opening (.opening now jobs errors products capacity) workers).run schedule = some s) :
    s.Bounded jobs errors ∧ ∀ text m n,
      Text.truncate (Text.truncate text m) n = Text.truncate text (min m n) := by
  refine ⟨?_, Text.truncate_truncate⟩
  have hend : s.Sound ∧ s.Traceable ∧ s.Bounded jobs errors := by
    refine run_invariant (P := fun s => s.Sound ∧ s.Traceable ∧ s.Bounded jobs errors) ?_ run ?_
    · rintro a s s' step ⟨sound, traceable, bounded⟩
      exact ⟨sound.step step, traceable.step sound step, bounded.step traceable sound step⟩
    · refine ⟨sound_opening .., traceable_opening _ _, ?_, ?_⟩
      · exact ⟨[], (List.append_nil _).symm, fun e he => by cases he⟩
      · exact fun known given => .inl ⟨_, known, given⟩
  exact hend.2.2

section Mug

/-- A line that gives no record and is too long to be kept, a mug without a name, and a line that
cannot be decoded. -/
def oddLines : List RowEvent :=
  [.rejected 1 "price: not a number" (some ("9".pushn '9' 2000)), .parsed { mug with name := " " },
    .fault (.undecodableRow 3 ⟨3, ⟨4, 2100⟩, 1, 0⟩)]

def oddRun : List Action :=
  [.start { chunkSize := 1 } ⟨7⟩ oddLines, .read 0, .read 0, .read 0] ++
    List.replicate 7 (.produce 0) ++ List.replicate 8 (.work 0) ++ List.replicate 2 (.produce 0)

theorem mug_diagnostics_bounded : ∃ s,
    (opening (.opening ⟨0, 0⟩ .empty .empty .empty 1) 1).run oddRun = some s ∧
      (s.Bounded .empty .empty ∧ ∀ text m n,
        Text.truncate (Text.truncate text m) n = Text.truncate text (min m n)) ∧
      s.world.errors.entries.length = 2 ∧
      ∃ job reason, s.world.jobs.get? ⟨7⟩ = some job ∧ job.failureReason = some reason := by
  have hrun : ((opening (.opening ⟨0, 0⟩ .empty .empty .empty 1) 1).run oddRun).any (fun s =>
      decide (s.world.errors.entries.length = 2) &&
        (s.world.jobs.get? ⟨7⟩).any fun job => job.failureReason.isSome) = true := by
    decide +kernel
  obtain ⟨s, hs, hend⟩ := (Option.any_eq_true _ _).mp hrun
  obtain ⟨hlength, hjob⟩ := Bool.and_eq_true_iff.mp hend
  obtain ⟨job, known, hreason⟩ := (Option.any_eq_true _ _).mp hjob
  obtain ⟨reason, given⟩ := Option.isSome_iff_exists.mp hreason
  exact ⟨s, hs, diagnostics_bounded hs, of_decide_eq_true hlength, job, reason, known, given⟩

end Mug

end System

end Concurrency

end CatalogIntake
