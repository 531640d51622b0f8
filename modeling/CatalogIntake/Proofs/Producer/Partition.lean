import CatalogIntake.Proofs.Concurrency.Undisturbed
import CatalogIntake.Proofs.Producer.Calls

/-!
How a producer parts its source. With nothing in its way, every record goes into exactly one chunk
and every rejected row that counts is booked once, both in the order of the source, while window
and pending rejections stay smaller than a chunk.
-/

namespace CatalogIntake

open ProducerRun Respondent

namespace RowEvent

def rejection? (id : JobId) : RowEvent → Option ErrorCandidate
  | rejected rowNumber message raw =>
    some (ErrorCandidate.bounded id (some rowNumber) message raw)
  | _ => none

def candidates (settings : ImportSettings) (id : JobId) (events : List RowEvent) :
    List ErrorCandidate :=
  match settings.parseFailures with
  | .count => events.filterMap (rejection? id)
  | .logOnly => []

theorem candidates_append (settings : ImportSettings) (id : JobId) (events more : List RowEvent) :
    candidates settings id (events ++ more) =
      candidates settings id events ++ candidates settings id more := by
  unfold candidates
  cases settings.parseFailures with
  | count => exact List.filterMap_append
  | logOnly => rfl

@[simp] theorem candidates_nil (settings : ImportSettings) (id : JobId) :
    candidates settings id [] = [] := by
  unfold candidates
  cases settings.parseFailures <;> rfl

@[simp] theorem candidates_parsed (settings : ImportSettings) (id : JobId)
    (record : ProductRecord) : candidates settings id [.parsed record] = [] := by
  unfold candidates
  cases settings.parseFailures <;> rfl

theorem length_candidates (settings : ImportSettings) (id : JobId) (events : List RowEvent) :
    (candidates settings id events).length = settings.counted events := by
  unfold candidates ImportSettings.counted
  cases settings.parseFailures with
  | count =>
    have hsame : (fun event => (rejection? id event).isSome) = isRejected := by
      funext event
      cases event <;> rfl
    simp only [List.length_filterMap_eq_countP, hsame, rejections]
  | logOnly => rfl

end RowEvent

namespace ProducerRun

variable {settings : ImportSettings} {events more : List RowEvent} {run mid run' : ProducerRun}
  {chunks chunks' : List Chunk} {errors errors' : List ErrorCandidate}

def IsSmall (settings : ImportSettings) (run : ProducerRun) : Prop :=
  run.window.length < settings.chunkSize ∧ run.pendingErrors.length < settings.chunkSize

/-- From one run to a later one these rows have been read, and these full chunks and these errors
have left the buffers. -/
structure Advances (settings : ImportSettings) (events : List RowEvent) (run run' : ProducerRun)
    (chunks : List Chunk) (errors : List ErrorCandidate) : Prop where
  jobId : run'.jobId = run.jobId
  rowsRead : run'.rowsRead = run.rowsRead + events.length
  rejectedRows : run'.rejectedRows = run.rejectedRows + RowEvent.rejections events
  records : run.window ++ RowEvent.records events = chunks.flatMap (·.records) ++ run'.window
  candidates : run.pendingErrors ++ RowEvent.candidates settings run.jobId events =
    errors ++ run'.pendingErrors
  chunkNumber : run'.chunkNumber = run.chunkNumber + .ofNat chunks.length
  full : ∀ (k : Nat) (chunk : Chunk), chunks[k]? = some chunk → chunk.jobId = run.jobId ∧
    chunk.number = (run.chunkNumber + .ofNat k).toInt ∧
      chunk.records.length = settings.chunkSize
  small : run'.IsSmall settings

namespace Advances

theorem nil (small : run.IsSmall settings) : Advances settings [] run run [] [] where
  jobId := rfl
  rowsRead := (Int.add_zero _).symm
  rejectedRows := (Int.add_zero _).symm
  records := List.append_nil _
  candidates := by rw [RowEvent.candidates_nil, List.append_nil, List.nil_append]
  chunkNumber := (Int32.add_zero _).symm
  full _ _ h := by cases h
  small := small

theorem trans (first : Advances settings events run mid chunks errors)
    (second : Advances settings more mid run' chunks' errors') :
    Advances settings (events ++ more) run run' (chunks ++ chunks') (errors ++ errors') where
  jobId := second.jobId.trans first.jobId
  rowsRead := by
    rw [second.rowsRead, first.rowsRead, List.length_append]
    omega
  rejectedRows := by
    rw [second.rejectedRows, first.rejectedRows, RowEvent.rejections, RowEvent.rejections,
      RowEvent.rejections, List.countP_append]
    omega
  records := by
    have hrecords : RowEvent.records (events ++ more) =
        RowEvent.records events ++ RowEvent.records more := List.filterMap_append
    rw [hrecords, ← List.append_assoc, first.records, List.append_assoc, second.records,
      List.flatMap_append, List.append_assoc]
  candidates := by
    have hcandidates : RowEvent.candidates settings run.jobId (events ++ more) =
        RowEvent.candidates settings run.jobId events ++
          RowEvent.candidates settings mid.jobId more := by
      rw [first.jobId, RowEvent.candidates_append]
    rw [hcandidates, ← List.append_assoc, first.candidates, List.append_assoc, second.candidates,
      List.append_assoc]
  chunkNumber := by
    rw [second.chunkNumber, first.chunkNumber, List.length_append, Int32.ofNat_add,
      Int32.add_assoc]
  full := by
    intro k chunk hchunk
    rw [List.getElem?_append] at hchunk
    split at hchunk
    · exact first.full k chunk hchunk
    · rename_i behind
      obtain ⟨hid, hnumber, hlength⟩ := second.full _ chunk hchunk
      rw [first.chunkNumber, Int32.add_assoc, ← Int32.ofNat_add,
        Nat.add_sub_cancel' (Nat.le_of_not_lt behind)] at hnumber
      exact ⟨hid.trans first.jobId, hnumber, hlength⟩
  small := second.small

theorem chunk_cases {id : JobId} (h : Advances settings events (start id) run chunks errors)
    {k : Nat} {chunk : Chunk} (at_ : (chunks ++ run.due)[k]? = some chunk) :
    chunk.jobId = id ∧ chunk.number = Chunk.ordinal k ∧ 1 ≤ chunk.records.length ∧
      chunk.records.length ≤ settings.chunkSize ∧
      (k + 1 < (chunks ++ run.due).length → chunk.records.length = settings.chunkSize) := by
  have hsmall := h.small.1
  rw [List.getElem?_append] at at_
  split at at_
  · obtain ⟨hid, hnumber, hlength⟩ := h.full k chunk at_
    have hordinal : chunk.number = Chunk.ordinal k :=
      hnumber.trans (congrArg Int32.toInt (Int32.zero_add _))
    exact ⟨hid, hordinal, by omega, by omega, fun _ => hlength⟩
  · rename_i hk
    obtain ⟨rfl, hany⟩ := eq_of_mem_due (List.mem_of_getElem? at_)
    have hpositive := List.length_pos_iff.mpr hany
    have hlast := run.length_due_le
    have hbound := (List.getElem?_eq_some_iff.mp at_).1
    have hnumber : run.chunkNumber = .ofNat chunks.length :=
      h.chunkNumber.trans (Int32.zero_add _)
    obtain rfl : k = chunks.length := by omega
    refine ⟨h.jobId, congrArg Int32.toInt hnumber, hpositive, hsmall.le, ?_⟩
    rw [List.length_append]
    omega

end Advances

theorem reject_candidates (settings : ImportSettings) (rowNumber : Int) (message : String)
    (raw : Option String) (run : ProducerRun) :
    (reject settings rowNumber message raw run).pendingErrors = run.pendingErrors ++
      RowEvent.candidates settings run.jobId [.rejected rowNumber message raw] := by
  unfold reject RowEvent.candidates
  cases hpolicy : settings.parseFailures with
  | count => rfl
  | logOnly => exact (List.append_nil _).symm

theorem reject_chunkNumber (settings : ImportSettings) (rowNumber : Int) (message : String)
    (raw : Option String) (run : ProducerRun) :
    (reject settings rowNumber message raw run).chunkNumber = run.chunkNumber := by
  unfold reject
  cases settings.parseFailures <;> rfl

section Rows

variable (small : run.IsSmall settings) (record : ProductRecord) (rowNumber : Int)
  (message : String) (raw : Option String)
include small

theorem Advances.kept (room : (Producing.take record run).window.length < settings.chunkSize) :
    Advances settings [.parsed record] run (Producing.take record run) [] [] where
  jobId := rfl
  rowsRead := rfl
  rejectedRows := (Int.add_zero _).symm
  records := rfl
  candidates := by
    rw [RowEvent.candidates_parsed]
    exact List.append_nil _
  chunkNumber := (Int32.add_zero _).symm
  full _ _ h := by cases h
  small := ⟨room, small.2⟩

theorem Advances.published
    (full : settings.chunkSize ≤ (Producing.take record run).window.length) :
    Advances settings [.parsed record] run (Producing.take record run).emptied
      (Producing.take record run).due run.pendingErrors := by
  have hdue : (Producing.take record run).due =
      [⟨run.jobId, run.chunkNumber.toInt, run.window ++ [record]⟩] := by
    simp [due, Producing.take]
  have hlength : (run.window ++ [record]).length = settings.chunkSize := by
    have hsmall := small.1
    simp only [Producing.take, List.length_append, List.length_singleton] at full ⊢
    omega
  have hpositive : 0 < settings.chunkSize := Nat.zero_lt_of_lt small.1
  refine ⟨rfl, rfl, (Int.add_zero _).symm, ?_, ?_, rfl, ?_, hpositive, hpositive⟩
  · rw [hdue]
    simp [emptied, RowEvent.records, RowEvent.record?]
  · simp [emptied]
  · intro k chunk hchunk
    rw [hdue, List.getElem?_singleton] at hchunk
    split at hchunk
    · rename_i hk
      cases hchunk
      subst hk
      exact ⟨rfl, congrArg Int32.toInt (Int32.add_zero _).symm, hlength⟩
    · cases hchunk

theorem Advances.pended
    (room : (reject settings rowNumber message raw run).pendingErrors.length < settings.chunkSize) :
    Advances settings [.rejected rowNumber message raw] run
      (reject settings rowNumber message raw run) [] [] where
  jobId := reject_jobId ..
  rowsRead := reject_rowsRead ..
  rejectedRows := reject_rejectedRows ..
  records := by
    rw [reject_window]
    exact List.append_nil _
  candidates := (reject_candidates ..).symm
  chunkNumber := (reject_chunkNumber ..).trans (Int32.add_zero _).symm
  full _ _ h := by cases h
  small := ⟨by rw [reject_window]; exact small.1, room⟩

theorem Advances.booked :
    Advances settings [.rejected rowNumber message raw] run
      { reject settings rowNumber message raw run with pendingErrors := [] } []
      (reject settings rowNumber message raw run).pendingErrors where
  jobId := reject_jobId ..
  rowsRead := reject_rowsRead ..
  rejectedRows := reject_rejectedRows ..
  records := by
    simp only [reject_window]
    exact List.append_nil _
  candidates := (reject_candidates ..).symm.trans (List.append_nil _).symm
  chunkNumber := (reject_chunkNumber ..).trans (Int32.add_zero _).symm
  full _ _ h := by cases h
  small := by
    refine ⟨?_, Nat.zero_lt_of_lt small.2⟩
    simp only [reject_window]
    exact small.1

end Rows

end ProducerRun

namespace Respondent

variable {reply : Respondent} {id : JobId} {settings : ImportSettings} {run : ProducerRun}
  {log : List Answered}

/-- A row goes into one of the buffers, which is emptied when it holds a chunk. -/
theorem runs_onEvent (obliging : reply.Obliging id) {event : RowEvent}
    (genuine : event.isFault = false) (named : run.jobId = id) (small : run.IsSmall settings)
    (untotalled : ∀ a ∈ log, a.isTotal = false) :
    ∃ run' calls chunks errors, reply.Runs (onEvent settings event) run log () run' (log ++ calls) ∧
      Leaves calls chunks errors ∧ run.Advances settings [event] run' chunks errors := by
  unfold onEvent
  cases event with
  | fault f => cases genuine
  | parsed record =>
    by_cases full : settings.chunkSize ≤ (Producing.take record run).window.length
    · have hnamed : (Producing.take record run).jobId = id := named
      obtain ⟨calls, hruns, hleaves⟩ := runs_publishWindow obliging settings hnamed untotalled
      refine ⟨_, calls, _, _, ?_, hleaves, .published small record full⟩
      apply (Runs.modify (Producing.take record) run log).bind
      apply (Runs.get (Producing.take record run) _).bind
      rw [if_pos full]
      exact hruns
    · refine ⟨_, [], _, _, ?_, .nil, .kept small record (Nat.lt_of_not_le full)⟩
      apply (Runs.modify (Producing.take record) run log).bind
      apply (Runs.get (Producing.take record run) _).bind
      rw [if_neg full, List.append_nil]
      exact Runs.pure _ _ _
  | rejected rowNumber message raw =>
    by_cases full : settings.chunkSize ≤
        (reject settings rowNumber message raw run).pendingErrors.length
    · obtain ⟨calls, hruns, hleaves⟩ :=
        runs_flushRejections obliging (reject settings rowNumber message raw run) log
      refine ⟨_, calls, _, _, ?_, hleaves, .booked small rowNumber message raw⟩
      apply (Runs.modify _ run log).bind
      apply (Runs.get _ _).bind
      rw [if_pos full]
      exact hruns
    · refine ⟨_, [], _, _, ?_, .nil,
        .pended small rowNumber message raw (Nat.lt_of_not_le full)⟩
      apply (Runs.modify _ run log).bind
      apply (Runs.get _ _).bind
      rw [if_neg full, List.append_nil]
      exact Runs.pure _ _ _

/-- Begun with small buffers, a source without a fault is read to its end. -/
theorem runs_stream (obliging : reply.Obliging id) {events : List RowEvent}
    (genuine : ∀ event ∈ events, event.isFault = false) (named : run.jobId = id)
    (small : run.IsSmall settings) (untotalled : ∀ a ∈ log, a.isTotal = false) :
    ∃ run' calls chunks errors, reply.Runs (stream settings events) run log () run' (log ++ calls) ∧
      Leaves calls chunks errors ∧ run.Advances settings events run' chunks errors := by
  induction events generalizing run log with
  | nil =>
    refine ⟨run, [], [], [], ?_, .nil, .nil small⟩
    rw [List.append_nil]
    exact Runs.pure _ _ _
  | cons event rest ih =>
    obtain ⟨hevent, hrest⟩ := List.forall_mem_cons.mp genuine
    obtain ⟨mid, first, chunks, errors, hruns, hleaves, hadvances⟩ :=
      runs_onEvent obliging hevent named small untotalled
    obtain ⟨run', more, chunks', errors', hruns', hleaves', hadvances'⟩ :=
      ih hrest (hadvances.jobId.trans named) hadvances.small
        (List.forall_mem_append.mpr ⟨untotalled, hleaves.untotalled⟩)
    refine ⟨run', first ++ more, _, _, ?_, hleaves.append hleaves', hadvances.trans hadvances'⟩
    rw [← List.append_assoc]
    exact hruns.bind hruns'

theorem runs_checkAndComplete (obliging : reply.Obliging id) (log : List Answered) :
    ∃ completed calls,
      Plan.run reply.answer (checkAndComplete id) log = (.ok completed, log ++ calls) ∧
      ∀ a ∈ calls, a.isTotal = false ∧ a.isPublishing = false ∧ a.isBooking = false := by
  obtain ⟨completed, hcheck⟩ := obliging.succeeds log (.completeIfDone id)
  unfold checkAndComplete
  rw [Plan.run_call]
  simp only [Respondent.answer, hcheck]
  cases completed with
  | false =>
    refine ⟨false, _, rfl, ?_⟩
    simp [Answered.isTotal, Answered.isPublishing, Answered.isBooking]
  | true =>
    obtain ⟨job, hjob⟩ := obliging.succeeds (log ++ [⟨.completeIfDone id, .ok true⟩]) (.getJob id)
    refine ⟨true, [⟨.completeIfDone id, .ok true⟩] ++ [⟨.getJob id, .ok job⟩], ?_, ?_⟩
    · rw [Plan.run_call, ← List.append_assoc]
      simp only [Respondent.answer, hjob]
      rfl
    · simp [Answered.isTotal, Answered.isPublishing, Answered.isBooking]

/-- What is left in the buffers goes out before the total is written. -/
theorem runs_finish (obliging : reply.Obliging id) (settings : ImportSettings)
    (named : run.jobId = id) (untotalled : ∀ a ∈ log, a.isTotal = false)
    (any : run.rowsRead ≠ 0) :
    ∃ before written after, reply.Runs (finish settings) run log () run.emptied
        (log ++ before ++ ⟨.finalizeTotal id run.rowsRead, .ok written⟩ :: after) ∧
      Leaves before run.due run.pendingErrors ∧
      ∀ a ∈ after, a.isTotal = false ∧ a.isPublishing = false ∧ a.isBooking = false := by
  obtain ⟨before, hwindow, hleaves⟩ := runs_publishWindow obliging settings named untotalled
  obtain ⟨written, htotal⟩ := runs_ask obliging (.finalizeTotal id run.rowsRead) run.emptied
    (log ++ before)
  obtain ⟨completed, after, hcheck, hafter⟩ := runs_checkAndComplete obliging
    (log ++ before ++ [⟨.finalizeTotal id run.rowsRead, .ok written⟩])
  refine ⟨before, written, after, ?_, hleaves, hafter⟩
  have hnamed : run.emptied.jobId = id := named
  have hrows : run.emptied.rowsRead = run.rowsRead := rfl
  rw [List.append_cons]
  unfold finish
  apply hwindow.bind
  apply (Runs.get _ _).bind
  rw [hnamed, hrows, if_neg any]
  apply htotal.bind
  apply (Runs.pure written _ _).bind
  apply (Runs.lift _ hcheck).bind
  apply (Runs.pure completed _ _).bind
  exact Runs.pure () _ _

end Respondent

/-- How a run of a producer has parted its source. -/
structure Partitioned (reply : Respondent) (settings : ImportSettings) (id : JobId)
    (source : List RowEvent) (told : ProducerSummary) (log : List Answered) : Prop where
  summary : told =
    ⟨id, source.length, RowEvent.rejections source, .ofNat (chunksOf log).length, .finished⟩
  records : (chunksOf log).flatMap (·.records) = RowEvent.records source
  /-- Numbered from 0 on, and full, but for the last one, which is not empty. -/
  chunks : ∀ (k : Nat) (chunk : Chunk), (chunksOf log)[k]? = some chunk →
    chunk.jobId = id ∧ chunk.number = Chunk.ordinal k ∧ 1 ≤ chunk.records.length ∧
      chunk.records.length ≤ settings.chunkSize ∧
      (k + 1 < (chunksOf log).length → chunk.records.length = settings.chunkSize)
  /-- As many chunks as 32 bits can count have their places as numbers. -/
  numbered : (chunksOf log).length < 2 ^ 31 →
    told.chunksPublished.toInt = (chunksOf log).length ∧
      ∀ (k : Nat) (chunk : Chunk), (chunksOf log)[k]? = some chunk → chunk.number = k
  errors : errorsOf log = RowEvent.candidates settings id source
  counted : failedOf log = settings.counted source
  quiet : settings.parseFailures = .logOnly → ∀ a ∈ log, a.isBooking = false
  /-- The total is written once, when all chunks are published and all rejections are booked. -/
  total : ∃ before written after,
    log = before ++ ⟨.finalizeTotal id source.length, .ok written⟩ :: after ∧
    (∀ a ∈ before, a.isTotal = false) ∧
    ∀ a ∈ after, a.isTotal = false ∧ a.isPublishing = false ∧ a.isBooking = false
  /-- After every row the buffers hold less than a chunk each. -/
  bounded : ∀ k ≤ source.length, ∃ (run : ProducerRun) (calls : List Answered),
    reply.Runs (stream settings (source.take k)) (start id) [] () run calls ∧ calls <+: log ∧
      run.rowsRead = k ∧ run.IsSmall settings

namespace Respondent

variable {reply : Respondent} {id : JobId} {settings : ImportSettings} {source : List RowEvent}

theorem stream_append (settings : ImportSettings) (events more : List RowEvent) :
    stream settings (events ++ more) = (do stream settings events; stream settings more) := by
  unfold stream
  exact List.forM_append

/-- Every part of a source that is read to its end begins with the rows before. -/
theorem runs_stream_take (obliging : reply.Obliging id)
    (genuine : ∀ event ∈ source, event.isFault = false)
    (positive : 1 ≤ settings.chunkSize) {run' : ProducerRun} {log : List Answered}
    (runs : reply.Runs (stream settings source) (start id) [] () run' log) (k : Nat) :
    ∃ (run : ProducerRun) (calls : List Answered),
      reply.Runs (stream settings (source.take k)) (start id) [] () run calls ∧ calls <+: log ∧
        run.rowsRead = (source.take k).length ∧ run.IsSmall settings := by
  have hgenuine (events : List RowEvent) (h : events ⊆ source) (event : RowEvent)
      (hevent : event ∈ events) : event.isFault = false := genuine event (h hevent)
  have small : (start id).IsSmall settings := ⟨positive, positive⟩
  have untotalled : ∀ a ∈ ([] : List Answered), a.isTotal = false := List.forall_mem_nil _
  obtain ⟨run, calls, chunks, errors, hruns, hleaves, hadvances⟩ :=
    runs_stream obliging (hgenuine (source.take k) (List.take_subset _ _)) rfl small untotalled
  rw [List.nil_append] at hruns
  obtain ⟨_, more, _, _, hrest, -, -⟩ :=
    runs_stream obliging (hgenuine (source.drop k) (List.drop_subset _ _)) hadvances.jobId
      hadvances.small hleaves.untotalled
  refine ⟨run, calls, hruns, ⟨more, ?_⟩, ?_, hadvances.small⟩
  · have hwhole := Runs.bind (f := fun _ => stream settings (source.drop k)) hruns hrest
    rw [← stream_append, List.take_append_drop] at hwhole
    exact congrArg Prod.snd (hwhole.symm.trans runs)
  · rw [hadvances.rowsRead]
    exact Int.zero_add _

end Respondent

theorem partitioned_of_obliging {reply : Respondent} {id : JobId} {settings : ImportSettings}
    {source : List RowEvent} (obliging : reply.Obliging id) (any : source ≠ [])
    (genuine : ∀ event ∈ source, event.isFault = false) (positive : 1 ≤ settings.chunkSize) :
    let ran := Plan.run reply.answer (produce settings id source) []
    Partitioned reply settings id source ran.1 ran.2 := by
  have small : (start id).IsSmall settings := ⟨positive, positive⟩
  have untotalled : ∀ a ∈ ([] : List Answered), a.isTotal = false := List.forall_mem_nil _
  obtain ⟨run, calls, chunks, errors, hstream, hleaves, hadvances⟩ :=
    runs_stream obliging genuine rfl small untotalled
  have hnamed : run.jobId = id := hadvances.jobId
  have hrows : run.rowsRead = source.length := hadvances.rowsRead.trans (Int.zero_add _)
  have hnumber : run.chunkNumber = .ofNat chunks.length :=
    hadvances.chunkNumber.trans (Int32.zero_add _)
  have hany : run.rowsRead ≠ 0 := by
    have hlength := List.length_pos_iff.mpr any
    omega
  obtain ⟨before, written, after, hfinish, hbefore, hafter⟩ :=
    runs_finish obliging settings hadvances.jobId hleaves.untotalled hany
  rw [hrows] at hfinish
  rw [List.nil_append] at hstream
  have hsteps : reply.Runs (do stream settings source; finish settings) (start id) [] () run.emptied
      (calls ++ before ++ ⟨.finalizeTotal id source.length, .ok written⟩ :: after) :=
    hstream.bind hfinish
  have hproduce : Plan.run reply.answer (produce settings id source) [] =
      (run.emptied.summary .finished,
        calls ++ before ++ ⟨.finalizeTotal id source.length, .ok written⟩ :: after) := by
    show Plan.run _ (Plan.bind _ _) [] = _
    rw [Plan.run_bind, hsteps]
    rfl
  have hsent := hleaves.append hbefore
  have hchunks :
      chunksOf (calls ++ before ++ ⟨.finalizeTotal id source.length, .ok written⟩ :: after) =
      chunks ++ run.due := by
    rw [chunksOf_append, hsent.published, chunksOf_eq_nil, List.append_nil]
    exact List.forall_mem_cons.mpr ⟨rfl, fun a ha => (hafter a ha).2.1⟩
  have hbooking : ∀ a ∈ (⟨.finalizeTotal id source.length, .ok written⟩ :: after : List Answered),
      a.isBooking = false := List.forall_mem_cons.mpr ⟨rfl, fun a ha => (hafter a ha).2.2⟩
  have herrors : errors ++ run.pendingErrors = RowEvent.candidates settings id source :=
    hadvances.candidates.symm
  rw [hproduce]
  show Partitioned reply settings id source (run.emptied.summary .finished)
    (calls ++ before ++ ⟨.finalizeTotal id source.length, .ok written⟩ :: after)
  have hlast : run.emptied.chunkNumber = .ofNat (chunks ++ run.due).length := by
    rw [emptied, hnumber, List.length_append, Int32.ofNat_add]
  constructor
  · have hrejected : run.rejectedRows = RowEvent.rejections source :=
      hadvances.rejectedRows.trans (Int.zero_add _)
    rw [hchunks, ProducerRun.summary, hlast]
    simp only [emptied, hnamed, hrows, hrejected]
  · rw [hchunks, List.flatMap_append, run.due_records]
    exact hadvances.records.symm
  · rw [hchunks]
    exact fun k chunk hchunk => hadvances.chunk_cases hchunk
  · rw [hchunks]
    intro few
    refine ⟨(congrArg Int32.toInt hlast).trans (Chunk.ordinal_of_lt few), ?_⟩
    intro k chunk hchunk
    have hk := (List.getElem?_eq_some_iff.mp hchunk).1
    exact (hadvances.chunk_cases hchunk).2.1.trans (Chunk.ordinal_of_lt (hk.trans few))
  · rw [errorsOf_append, hsent.saved, errorsOf_eq_nil hbooking, List.append_nil, herrors]
  · rw [failedOf_append, hsent.counted, failedOf_eq_zero hbooking, herrors,
      RowEvent.length_candidates, Int.add_zero]
  · intro policy
    have hnone : errors ++ run.pendingErrors = [] := by
      rw [herrors, RowEvent.candidates, policy]
    exact List.forall_mem_append.mpr ⟨hsent.quiet hnone, hbooking⟩
  · exact ⟨calls ++ before, written, after, rfl, hsent.untotalled, hafter⟩
  · intro k hk
    obtain ⟨mid, first, hruns, ⟨rest, hprefix⟩, hread, hsmall⟩ :=
      runs_stream_take obliging genuine positive hstream k
    rw [List.length_take_of_le hk] at hread
    refine ⟨mid, first, hruns, ?_, hread, hsmall⟩
    rw [← hprefix, List.append_assoc, List.append_assoc]
    exact List.prefix_append _ _

end CatalogIntake
