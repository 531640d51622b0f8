import CatalogIntake.Proofs.Chunk
import CatalogIntake.Proofs.Sql.JobRecords
import CatalogIntake.Proofs.Store.Requests

/-!
The jobs in the database and the jobs in memory are told apart by nothing that can be asked of them,
except by the times and by the words of a failure, as long as no number is negative or too large for
its column.
-/

namespace CatalogIntake

open Number Sql

/-- The job without its times: that it has ended is all that is left of them. -/
def Job.timeless (job : Job) : Job :=
  { job with startTime := default, endTime := job.endTime.map fun _ => default }

namespace JobReply

def timeless : JobReply → JobReply
  | .found job => .found (job.map Job.timeless)
  | reply => reply

def Agree (reply other : Outcome JobReply) : Prop :=
  reply.toOption.map timeless = other.toOption.map timeless

end JobReply

namespace JobRequest

def script : JobRequest → Script (Outcome JobReply)
  | create id start => (Jobs.create (.started id start)).bind fun result =>
    .done (result.map fun _ => .created)
  | get id => (Jobs.get id).bind fun result => .done (result.map .found)
  | finalizeTotal id total => (Jobs.finalizeTotal id total).bind fun result =>
    .done (result.map .applied)
  | increment id processed failed => (Jobs.increment id processed failed).bind fun result =>
    .done (result.map .counted)
  | completeIfDone id => (Jobs.completeIfDone id).bind fun result => .done (result.map .applied)
  | fail id reason => (Jobs.fail id reason).bind fun result => .done (result.map .applied)
  | cancel id => (Jobs.cancel id).bind fun result => .done (result.map .applied)

def fits (table : JobTable) : JobRequest → Bool
  | finalizeTotal _ total => 0 ≤ total && Width.i64.contains total
  | increment id processed failed => (table.get? id).all (·.canCount processed failed)
  | completeIfDone id => (table.get? id).all fun job => Width.i64.contains job.rowsAccounted
  | create _ _ | get _ | fail _ _ | cancel _ => true

end JobRequest

namespace Sql

structure JobRecord.Mirrors (r : JobRecord) (job : Job) : Prop where
  id : r.id = job.id
  status : r.status = job.status.name
  totalRows : r.totalRows = job.totalRows
  processedRows : r.processedRows = job.processedRows
  failedRows : r.failedRows = job.failedRows
  ended : r.endTime.isSome = job.endTime.isSome
  failureReason : r.failureReason = job.failureReason

namespace JobRecords

structure Mirrors (records : JobRecords) (table : JobTable) : Prop extends IsTable records where
  jobs : ∀ id, records.find? id = none ∧ table.get? id = none ∨
    ∃ r job, records.find? id = some r ∧ table.get? id = some job ∧ r.Mirrors job

def answer (times : TimeColumn) (now : Instant) (records : JobRecords) (request : JobRequest) :
    Outcome JobReply × JobRecords :=
  request.script.run (execute times now) records

end JobRecords

namespace Jobs

variable {α : Type} {decode : Json.Decoder α}

theorem value_of_decode {json : Json} {a : α} (h : decode json = .ok a) :
    value decode json = .ok a := by
  rw [value, h]

theorem value_int64 {n : Int} (h : Width.i64.contains n = true) :
    value Json.int64 (.integer n) = .ok n := by
  apply value_of_decode
  rw [Json.int64, Json.integerIn, if_pos h]

theorem nullable_of_ne {json : Json} (h : json ≠ .null) :
    Json.nullable decode json = (decode json).map some := by
  cases json with
  | null => exact absurd rfl h
  | _ => rfl

/-- A nullable column is read if it can be read where it is not null. -/
theorem value_nullable {β : Type} {encode : β → Json} {read : β → α} (b? : Option β)
    (filled : ∀ b, encode b ≠ .null) (h : ∀ b, b? = some b → decode (encode b) = .ok (read b)) :
    value (Json.nullable decode) (Json.option encode b?) = .ok (b?.map read) := by
  apply value_of_decode
  cases b? with
  | none => rfl
  | some b =>
    rw [Json.option, nullable_of_ne (filled b), h b rfl]
    rfl

theorem value_bigint {n? : Option Int} (h : ∀ n, n? = some n → Width.i64.contains n = true) :
    value (Json.nullable Json.int64) (Json.option .integer n?) = .ok n? := by
  have hread : value (Json.nullable Json.int64) (Json.option .integer n?) =
      .ok (n?.map fun n => n) :=
    value_nullable n? (fun _ hnull => by cases hnull) fun n hn => if_pos (h n hn)
  rwa [Option.map_id'] at hread

theorem value_text (s? : Option String) :
    value (Json.nullable Json.text) (Json.option .string s?) = .ok s? := by
  have hread : value (Json.nullable Json.text) (Json.option .string s?) =
      .ok (s?.map fun s => s) :=
    value_nullable s? (fun _ hnull => by cases hnull) fun _ _ => rfl
  rwa [Option.map_id'] at hread

theorem status_name (s : JobStatus) : status (.string s.name) = .ok s := by
  have hname : value Json.text (.string s.name) = .ok s.name := rfl
  unfold status
  rw [hname]
  dsimp only [bind, Except.bind]
  rw [JobStatus.ofName?_name]
  rfl

end Jobs

namespace JobRecord

variable {r : JobRecord} {job : Job} {times : TimeColumn}

theorem contains_names_iff (name : String) :
    (JobStatus.all.map JobStatus.name).contains name = true ↔
      ∃ status : JobStatus, name = status.name := by
  rw [List.contains_iff_mem, List.mem_map]
  constructor
  · rintro ⟨status, -, rfl⟩
    exact ⟨status, rfl⟩
  · rintro ⟨status, rfl⟩
    exact ⟨status, by cases status <;> decide, rfl⟩

theorem sound_iff : r.fault? = none ↔
    (∃ status : JobStatus, r.status = status.name) ∧
      (∀ total, r.totalRows = some total → Width.i64.contains total = true ∧ 0 ≤ total) ∧
      (Width.i64.contains r.processedRows = true ∧ 0 ≤ r.processedRows) ∧
      Width.i64.contains r.failedRows = true ∧ 0 ≤ r.failedRows := by
  rw [fault?_eq_none, isInRange, meetsChecks]
  simp only [Bool.and_eq_true, contains_names_iff, Option.all_eq_true, decide_eq_true_eq]
  constructor
  · rintro ⟨⟨⟨htotal, hprocessed⟩, hfailed⟩, ⟨⟨hstatus, htotal'⟩, hprocessed'⟩, hfailed'⟩
    exact ⟨hstatus, fun total h => ⟨htotal total h, htotal' total h⟩, ⟨hprocessed, hprocessed'⟩,
      hfailed, hfailed'⟩
  · rintro ⟨hstatus, htotal, ⟨hprocessed, hprocessed'⟩, hfailed, hfailed'⟩
    exact ⟨⟨⟨fun total h => (htotal total h).1, hprocessed⟩, hfailed⟩,
      ⟨⟨hstatus, fun total h => (htotal total h).2⟩, hprocessed'⟩, hfailed'⟩

theorem countersOfRow_counters (sound : r.fault? = none) :
    Jobs.countersOfRow r.counters = .ok ⟨r.totalRows, r.processedRows, r.failedRows⟩ := by
  obtain ⟨-, htotal, ⟨hprocessed, -⟩, hfailed, -⟩ := sound_iff.mp sound
  rw [counters, Jobs.countersOfRow, Jobs.value_bigint fun n h => (htotal n h).1,
    Jobs.value_int64 hprocessed, Jobs.value_int64 hfailed]
  rfl

theorem ofRow_columns (sound : r.fault? = none) (h : r.Mirrors job) :
    ∃ found, Jobs.ofRow (r.columns times) = .ok found ∧ found.timeless = job.timeless := by
  obtain ⟨-, htotal, ⟨hprocessed, -⟩, hfailed, -⟩ := sound_iff.mp sound
  choose read hread using times.legible
  have hfilled : ∀ t, times.write t ≠ .null := by
    intro t hnull
    have ht := hread t
    rw [hnull] at ht
    cases ht
  have hid : Jobs.value JobId.decode (.string r.id.text) = .ok r.id :=
    Jobs.value_of_decode (JobId.decode_text r.id)
  have hstart := Jobs.value_of_decode (hread r.startTime)
  have hend := Jobs.value_nullable r.endTime hfilled fun t _ => hread t
  have hstatus : Jobs.status (.string r.status) = .ok job.status := by
    rw [h.status, Jobs.status_name]
  refine ⟨⟨r.id, job.status, r.totalRows, r.processedRows, r.failedRows, read r.startTime,
    r.endTime.map read, r.failureReason⟩, ?_, ?_⟩
  · rw [columns, Jobs.ofRow, hid, Jobs.value_bigint fun n h => (htotal n h).1,
      Jobs.value_int64 hprocessed, Jobs.value_int64 hfailed, hstart, hend, Jobs.value_text,
      hstatus]
    rfl
  · have hended : (r.endTime.map read).map (fun _ => (default : Instant)) =
        job.endTime.map fun _ => default := by
      have hsome := h.ended
      cases hr : r.endTime <;> cases hjob : job.endTime <;> simp_all
    simp only [Job.timeless, hended, h.id, h.totalRows, h.processedRows, h.failedRows,
      h.failureReason]

theorem mirrors_started (id : JobId) (start : Instant) :
    (ofJob (.started id start)).Mirrors (.started id start) :=
  ⟨rfl, rfl, rfl, rfl, rfl, rfl, rfl⟩

theorem sound_started (id : JobId) (start : Instant) :
    (ofJob (.started id start)).fault? = none := rfl

theorem Mirrors.isProcessing (h : r.Mirrors job) :
    (r.status == JobStatus.processing.name) = decide (job.status = .processing) := by
  rw [h.status]
  cases job.status <;> rfl

end JobRecord

namespace JobRecords

variable {records : JobRecords} {table : JobTable} {times : TimeColumn} {id : JobId}

theorem run_request {α : Type} (now : Instant) (attempt : Attempt) (statement : Statement)
    (read : Reply → Outcome α) (tell : Outcome α → Outcome JobReply) :
    ((Script.request attempt statement read).bind fun result => .done (tell result)).run
        (execute times now) records =
      (tell (match (execute times now statement records).1 with
        | .ok reply => read reply
        | .error e => .error ⟨[attempt], .database e⟩),
        (execute times now statement records).2) := by
  rw [Script.run_bind, Script.request]
  simp only [Script.run]
  rcases execute times now statement records with ⟨reply | e, next⟩ <;> rfl

section Update

def ChangeAlike (records : JobRecords) (table : JobTable) (id : JobId)
    (condition : JobRecord → Bool) (becomes : JobRecord → JobRecord)
    (turns : Job → Option Job) : Prop :=
  ∀ r job, records.find? id = some r → table.get? id = some job → r.Mirrors job →
    condition r = false ∧ turns job = none ∨
      condition r = true ∧ (becomes r).fault? = none ∧
        ∃ turned, turns job = some turned ∧ (becomes r).Mirrors turned

variable {condition : JobRecord → Bool} {becomes : JobRecord → JobRecord}
  {turns : Job → Option Job} (h : records.Mirrors table) (keeps : ∀ r, (becomes r).id = r.id)
  (keepsJob : ∀ job turned, turns job = some turned → turned.id = job.id)
  (alike : ChangeAlike records table id condition becomes turns)

include h alike in
theorem sound_of_alike (r : JobRecord) (hfind : records.find? id = some r)
    (hcondition : condition r = true) : (becomes r).fault? = none := by
  obtain ⟨hnone, -⟩ | ⟨r', job, hfind', hget, hmirrors⟩ := h.jobs id
  · rw [hfind] at hnone
    cases hnone
  · obtain rfl := Option.some.inj (hfind'.symm.trans hfind)
    obtain ⟨hfalse, -⟩ | ⟨-, hsound, -⟩ := alike r' job hfind hget hmirrors
    · rw [hcondition] at hfalse
      cases hfalse
    · exact hsound

include h keeps keepsJob alike in
theorem mirrors_change :
    (records.change id condition becomes).Mirrors (table.changeIf id turns).2 where
  toIsTable := isTable_change h.toIsTable keeps (sound_of_alike h alike)
  jobs := by
    intro other
    rw [find?_change keeps, JobTable.get?_changeIf table id turns keepsJob]
    obtain ⟨hfind, hget⟩ | ⟨r, job, hfind, hget, hmirrors⟩ := h.jobs other
    · rw [hfind, hget]
      exact .inl ⟨rfl, ite_self _⟩
    · have hmeant : isMeant id condition r = (other == id && condition r) := by
        rw [isMeant, id_of_find? hfind]
      rw [hfind, hget, Option.map_some, hmeant]
      by_cases hother : other = id
      · subst hother
        rw [if_pos rfl, Option.map_some, beq_self_eq_true, Bool.true_and]
        obtain ⟨hcondition, hturns⟩ | ⟨hcondition, -, turned, hturns, hturned⟩ :=
          alike r job hfind hget hmirrors
        · rw [hcondition, hturns]
          exact .inr ⟨r, job, rfl, rfl, hmirrors⟩
        · rw [hcondition, hturns]
          exact .inr ⟨becomes r, turned, rfl, rfl, hturned⟩
      · have hne : (other == id) = false := by
          simpa using hother
        rw [if_neg hother, hne, Bool.false_and]
        exact .inr ⟨r, job, rfl, rfl, hmirrors⟩

include h alike in
theorem length_changed :
    ((((records.find? id).filter condition).map becomes).toList.length == 1) =
      (table.changeIf id turns).1 := by
  rw [JobTable.changeIf]
  obtain ⟨hfind, hget⟩ | ⟨r, job, hfind, hget, hmirrors⟩ := h.jobs id
  · rw [hfind, hget]
    rfl
  · rw [hfind, hget, Option.bind_some, Option.filter]
    obtain ⟨hcondition, hturns⟩ | ⟨hcondition, -, turned, hturns, -⟩ :=
      alike r job hfind hget hmirrors
    · rw [hcondition, hturns]
      rfl
    · rw [hcondition, hturns]
      rfl

include h alike in
theorem answers_update {now : Instant} {attempt : Attempt} {statement : Statement}
    (carriedOut : execute times now statement records =
      records.update id condition becomes affected) :
    ((Script.request attempt statement Jobs.changedOne).bind fun result =>
        .done (result.map JobReply.applied)).run (execute times now) records =
      (.ok (JobReply.applied (table.changeIf id turns).1),
        records.change id condition becomes) := by
  rw [run_request, carriedOut,
    update_eq h.toIsTable affected (sound_of_alike h alike)]
  simp only [affected, Jobs.changedOne, Reply.count, length_changed h alike]
  rfl

end Update

variable {now : Instant} {r : JobRecord} {job : Job}

theorem alike_finalizeTotal (h : records.Mirrors table) (id : JobId) {total : Int}
    (nonnegative : 0 ≤ total) (bounded : Width.i64.contains total = true) :
    ChangeAlike records table id (fun r => r.totalRows.isNone)
      (fun r => { r with totalRows := some total }) fun job =>
        if job.totalRows.isNone then some { job with totalRows := some total } else none := by
  intro r job hfind hget hmirrors
  have hsound := JobRecord.sound_iff.mp (h.sound r (mem_of_find? hfind))
  dsimp only
  rw [hmirrors.totalRows]
  cases htotal : job.totalRows with
  | some known => exact .inl ⟨rfl, rfl⟩
  | none =>
    refine .inr ⟨rfl, ?_, _, rfl, ?_⟩
    · apply JobRecord.sound_iff.mpr
      refine ⟨hsound.1, ?_, hsound.2.2⟩
      intro written hwritten
      obtain rfl := Option.some.inj hwritten
      exact ⟨bounded, nonnegative⟩
    · exact { hmirrors with totalRows := rfl }

theorem alike_finish (h : records.Mirrors table) (id : JobId) (status : JobStatus)
    (reason : Option String) (here there : Instant) :
    ChangeAlike records table id (fun r => r.status == JobStatus.processing.name)
      (fun r => { r with status := status.name, endTime := some there, failureReason := reason })
      fun job =>
        if job.status = .processing then
          some { job with status, endTime := some here, failureReason := reason }
        else none := by
  intro r job hfind hget hmirrors
  have hsound := JobRecord.sound_iff.mp (h.sound r (mem_of_find? hfind))
  dsimp only
  rw [hmirrors.isProcessing]
  by_cases hprocessing : job.status = .processing
  · refine .inr ⟨decide_eq_true hprocessing, ?_, _, if_pos hprocessing, ?_⟩
    · exact JobRecord.sound_iff.mpr ⟨⟨status, rfl⟩, hsound.2⟩
    · exact { hmirrors with status := rfl, ended := rfl, failureReason := rfl }
  · exact .inl ⟨decide_eq_false hprocessing, if_neg hprocessing⟩

theorem isReadyToComplete_eq (hmirrors : r.Mirrors job) :
    (r.status == JobStatus.processing.name &&
        r.totalRows.any fun total => 0 < total && total ≤ r.processedRows + r.failedRows) =
      job.isReadyToComplete := by
  rw [hmirrors.isProcessing, hmirrors.totalRows, hmirrors.processedRows, hmirrors.failedRows,
    Bool.eq_iff_iff, Job.isReadyToComplete_iff]
  cases job.totalRows <;> simp [Job.rowsAccounted]

theorem alike_completeIfDone (h : records.Mirrors table) (id : JobId) (here there : Instant) :
    ChangeAlike records table id
      (fun r => r.status == JobStatus.processing.name &&
        r.totalRows.any fun total => 0 < total && total ≤ r.processedRows + r.failedRows)
      (fun r => { r with status := JobStatus.completed.name, endTime := some there })
      fun job =>
        if job.isReadyToComplete then some { job with status := .completed, endTime := some here }
        else none := by
  intro r job hfind hget hmirrors
  have hsound := JobRecord.sound_iff.mp (h.sound r (mem_of_find? hfind))
  simp only [isReadyToComplete_eq hmirrors]
  cases hready : job.isReadyToComplete with
  | true =>
    refine .inr ⟨rfl, ?_, _, rfl, ?_⟩
    · exact JobRecord.sound_iff.mpr ⟨⟨.completed, rfl⟩, hsound.2⟩
    · exact { hmirrors with status := rfl, ended := rfl }
  | false => exact .inl ⟨rfl, rfl⟩

theorem alike_increment (h : records.Mirrors table) {id : JobId} {processed failed : Nat}
    (fits : (JobRequest.increment id processed failed).fits table = true) :
    ChangeAlike records table id (fun _ => true)
      (fun r => { r with
        processedRows := r.processedRows + processed
        failedRows := r.failedRows + failed })
      fun job => some (job.counted processed failed) := by
  intro r job hfind hget hmirrors
  obtain ⟨hstatus, htotal, hprocessed, hfailed⟩ :=
    JobRecord.sound_iff.mp (h.sound r (mem_of_find? hfind))
  simp only [JobRequest.fits, hget, Option.all_some, Job.canCount, Bool.and_eq_true,
    ← hmirrors.processedRows, ← hmirrors.failedRows] at fits
  refine .inr ⟨rfl, JobRecord.sound_iff.mpr ⟨hstatus, htotal, ?_, ?_⟩, _, rfl, ?_⟩
  · exact ⟨fits.1, by simp only; omega⟩
  · exact ⟨fits.2, by simp only; omega⟩
  · exact { hmirrors with
      processedRows := congrArg (· + (processed : Int)) hmirrors.processedRows
      failedRows := congrArg (· + (failed : Int)) hmirrors.failedRows }

/-- The request is answered alike, and afterwards the table and the jobs say the same again. -/
structure AnswerAlike (times : TimeColumn) (here there : Instant) (records : JobRecords)
    (table : JobTable) (request : JobRequest) : Prop where
  replies : JobReply.Agree (table.answer here request).1 (records.answer times there request).1
  mirrors : (records.answer times there request).2.Mirrors (table.answer here request).2

variable {here there : Instant}

theorem answerAlike_update {request : JobRequest} {condition : JobRecord → Bool}
    {becomes : JobRecord → JobRecord} {turns : Job → Option Job} {attempt : Attempt}
    {statement : Statement} (h : records.Mirrors table)
    (alike : ChangeAlike records table id condition becomes turns)
    (keeps : ∀ r, (becomes r).id = r.id)
    (keepsJob : ∀ job turned, turns job = some turned → turned.id = job.id)
    (asked : request.script = (Script.request attempt statement Jobs.changedOne).bind fun result =>
      .done (result.map JobReply.applied))
    (carriedOut : execute times there statement records =
      records.update id condition becomes affected)
    (held : table.answer here request =
      (.ok (.applied (table.changeIf id turns).1), (table.changeIf id turns).2)) :
    AnswerAlike times here there records table request := by
  have hanswer : records.answer times there request =
      (.ok (.applied (table.changeIf id turns).1), records.change id condition becomes) := by
    rw [answer, asked, answers_update h alike carriedOut]
  constructor
  · rw [hanswer, held]
    rfl
  · rw [hanswer, held]
    exact mirrors_change h keeps keepsJob alike

theorem answerAlike_create (h : records.Mirrors table) (id : JobId) (start : Instant) :
    AnswerAlike times here there records table (.create id start) := by
  have hanswer : records.answer times there (.create id start) = _ :=
    run_request there .createJob (.insertJob (.started id start)) (fun _ => .ok ()) _
  have hid : (JobRecord.ofJob (.started id start)).id = id := rfl
  have hid' : (Job.started id start).id = id := rfl
  simp only [execute, insert, JobRecord.sound_started, hid] at hanswer
  obtain ⟨hfind, hget⟩ | ⟨r, job, hfind, hget, hmirrors⟩ := h.jobs id
  · have hcreated : table.answer here (.create id start) =
        (.ok .created, { table with jobs := table.jobs ++ [.started id start] }) := by
      simp only [JobTable.answer, JobTable.create, hid', hget]
      rfl
    simp only [hfind] at hanswer
    constructor
    · rw [hanswer, hcreated]
      rfl
    · have hget' (other : JobId) := table.get?_answer here (.create id start) other
      rw [hcreated] at hget' ⊢
      rw [hanswer]
      refine ⟨isTable_add h.toIsTable hfind (JobRecord.sound_started id start), ?_⟩
      intro other
      rw [hget', JobTable.afterwards, Option.isSome_none, if_neg Bool.false_ne_true,
        find?_add records hfind, hid]
      by_cases hother : other = id
      · rw [if_pos hother, if_pos ⟨hother, hget⟩]
        exact .inr ⟨_, _, rfl, rfl, JobRecord.mirrors_started id start⟩
      · rw [if_neg hother, if_neg fun hnew => hother hnew.1]
        exact h.jobs other
  · have hrefused : table.answer here (.create id start) =
        (.error (.of (.jobExists id)), table) := by
      simp only [JobTable.answer, JobTable.create, hid', hget]
      rfl
    simp only [hfind] at hanswer
    constructor
    · rw [hanswer, hrefused]
      rfl
    · rw [hanswer, hrefused]
      exact h

theorem answerAlike_get (h : records.Mirrors table) (id : JobId) :
    AnswerAlike times here there records table (.get id) := by
  have hanswer : records.answer times there (.get id) = _ :=
    run_request there .fetchJob (.selectJob id) _ _
  simp only [execute, filter_id h.toIsTable] at hanswer
  refine ⟨?_, by rw [hanswer]; exact h⟩
  rw [hanswer, JobTable.answer]
  obtain ⟨hfind, hget⟩ | ⟨r, job, hfind, hget, hmirrors⟩ := h.jobs id
  · rw [hfind, hget]
    rfl
  · obtain ⟨found, hfound, hsame⟩ : ∃ found, Jobs.ofRow (r.columns times) = .ok found ∧
        found.timeless = job.timeless :=
      JobRecord.ofRow_columns (h.sound r (mem_of_find? hfind)) hmirrors
    rw [hfind, hget]
    simp only [Reply.first?, Reply.toRows, Option.toList_some, List.map_cons, List.head?_cons,
      hfound, Except.map]
    exact congrArg (fun job => some (JobReply.found (some job))) hsame.symm

theorem increment_eq (available : table.progressAvailable = true) (id : JobId)
    (processed failed : Int) :
    table.increment id processed failed =
      (match table.get? id with
        | none => .fail (.jobNotFound id)
        | some job => .ok (job.counted processed failed).counters,
        (table.changeIf id fun job => some (job.counted processed failed)).2) := by
  rw [JobTable.increment, JobTable.incrementIn, JobTable.changeIf, available]
  cases table.get? id <;> rfl

theorem answerAlike_increment (h : records.Mirrors table)
    (available : table.progressAvailable = true) {processed failed : Nat}
    (fits : (JobRequest.increment id processed failed).fits table = true) :
    AnswerAlike times here there records table (.increment id processed failed) := by
  have alike := alike_increment h fits
  have hanswer : records.answer times there (.increment id processed failed) = _ :=
    run_request there .updateProgress (.addProgress id processed failed) _ _
  simp only [execute] at hanswer
  rw [update_eq h.toIsTable _ (sound_of_alike h alike)] at hanswer
  have hheld : table.answer here (.increment id processed failed) = _ :=
    congrArg (fun result => (result.1.map JobReply.counted, result.2))
      (increment_eq available id processed failed)
  constructor
  · rw [hanswer, hheld]
    obtain ⟨hfind, hget⟩ | ⟨r, job, hfind, hget, hmirrors⟩ := h.jobs id
    · rw [hfind, hget]
      rfl
    · obtain ⟨hfalse, -⟩ | ⟨-, hsound, changed, hchanged, hmirrors'⟩ :=
        alike r job hfind hget hmirrors
      · cases hfalse
      · obtain rfl := Option.some.inj hchanged
        have hread := JobRecord.countersOfRow_counters hsound
        rw [hmirrors'.totalRows, hmirrors'.processedRows, hmirrors'.failedRows] at hread
        rw [hfind, hget]
        exact congrArg (fun o => Option.map JobReply.timeless (o.map JobReply.counted).toOption)
          hread.symm
  · rw [hanswer, hheld]
    exact mirrors_change h (fun _ => rfl) (fun _ _ hturned => by cases hturned; rfl) alike

theorem completeJob_eq (h : records.Mirrors table)
    (fits : (JobRequest.completeIfDone id).fits table = true) :
    execute times there (.completeJob id) records =
      records.update id
        (fun r => r.status == JobStatus.processing.name &&
          r.totalRows.any fun total => 0 < total && total ≤ r.processedRows + r.failedRows)
        (fun r => { r with status := JobStatus.completed.name, endTime := some there })
        affected := by
  apply if_neg
  rw [filter_id h.toIsTable]
  obtain ⟨hfind, -⟩ | ⟨r, job, hfind, hget, hmirrors⟩ := h.jobs id
  · simp [hfind]
  · simp only [JobRequest.fits, hget, Option.all_some, Job.rowsAccounted] at fits
    simp [hfind, hmirrors.processedRows, hmirrors.failedRows, fits]

theorem answerAlike (h : records.Mirrors table) (available : table.progressAvailable = true)
    {request : JobRequest} (fits : request.fits table = true) :
    AnswerAlike times here there records table request := by
  have unchanged {p : Job → Prop} [DecidablePred p] {f : Job → Job}
      (hf : ∀ job, (f job).id = job.id) (job turned : Job)
      (hturned : (if p job then some (f job) else none) = some turned) : turned.id = job.id := by
    split at hturned
    · obtain rfl := Option.some.inj hturned
      exact hf job
    · cases hturned
  cases request with
  | create id start => exact answerAlike_create h id start
  | get id => exact answerAlike_get h id
  | increment id processed failed => exact answerAlike_increment h available fits
  | finalizeTotal id total =>
    obtain ⟨hnonnegative, hbounded⟩ := Bool.and_eq_true_iff.mp fits
    exact answerAlike_update h (alike_finalizeTotal h id (of_decide_eq_true hnonnegative) hbounded)
      (fun _ => rfl) (unchanged fun _ => rfl) rfl rfl rfl
  | completeIfDone id =>
    exact answerAlike_update h (alike_completeIfDone h id here there) (fun _ => rfl)
      (unchanged fun _ => rfl) rfl (completeJob_eq h fits) rfl
  | fail id reason =>
    exact answerAlike_update h (alike_finish h id .failed _ here there) (fun _ => rfl)
      (unchanged fun _ => rfl) rfl rfl rfl
  | cancel id =>
    exact answerAlike_update h (alike_finish h id .cancelled _ here there) (fun _ => rfl)
      (unchanged fun _ => rfl) rfl rfl rfl

end JobRecords

end Sql

structure JobCall where
  request : JobRequest
  here : Instant
  there : Instant

def JobTable.converse (table : JobTable) : List JobCall → List (Outcome JobReply) × JobTable
  | [] => ([], table)
  | call :: rest =>
    let (reply, next) := table.answer call.here call.request
    let (replies, last) := next.converse rest
    (reply :: replies, last)

def JobTable.takes (table : JobTable) : List JobCall → Bool
  | [] => true
  | call :: rest =>
    call.request.fits table && (table.answer call.here call.request).2.takes rest

namespace Sql.JobRecords

def converse (times : TimeColumn) (records : JobRecords) :
    List JobCall → List (Outcome JobReply) × JobRecords
  | [] => ([], records)
  | call :: rest =>
    let (reply, next) := records.answer times call.there call.request
    let (replies, last) := next.converse times rest
    (reply :: replies, last)

variable {records : JobRecords} {table : JobTable}

theorem mirrors_empty : empty.Mirrors .empty :=
  ⟨isTable_empty, fun _ => .inl ⟨rfl, rfl⟩⟩

theorem converse_alike (times : TimeColumn) (calls : List JobCall) (h : records.Mirrors table)
    (available : table.progressAvailable = true) (fits : table.takes calls = true) :
    List.Forall₂ JobReply.Agree (table.converse calls).1 (records.converse times calls).1 ∧
      (records.converse times calls).2.Mirrors (table.converse calls).2 ∧
      (table.converse calls).2.progressAvailable = true := by
  -- after each call the rows mirror the jobs again, so the next one finds the two alike
  induction calls generalizing records table with
  | nil => exact ⟨.nil, h, available⟩
  | cons call rest ih =>
    obtain ⟨hfirst, hrest⟩ := Bool.and_eq_true_iff.mp fits
    obtain ⟨hreply, hmirrors⟩ :=
      (answerAlike h available hfirst : AnswerAlike times call.here call.there ..)
    have havailable := (table.progressAvailable_answer call.here call.request).trans available
    obtain ⟨hreplies, hlast⟩ := ih hmirrors havailable hrest
    exact ⟨.cons hreply hreplies, hlast⟩

/-- As long as the numbers fit, the same requests get the same replies from the database and from
memory, and afterwards the table says of every job what is kept of it in memory. A request fails
only if it creates a job anew or adds to the counters of one that is unknown, and then it fails
with both. -/
theorem jobs_agree (times : TimeColumn) (calls : List JobCall)
    (fits : JobTable.empty.takes calls = true) :
    List.Forall₂ JobReply.Agree (JobTable.empty.converse calls).1
        (empty.converse times calls).1 ∧
      (empty.converse times calls).2.Mirrors (JobTable.empty.converse calls).2 ∧
      ∀ now request, (∃ f, ((JobTable.empty.converse calls).2.answer now request).1 = .error f) ↔
        (∃ id start, request = .create id start ∧
          ((JobTable.empty.converse calls).2.get? id).isSome = true) ∨
        ∃ id processed failed, request = .increment id processed failed ∧
          (JobTable.empty.converse calls).2.get? id = none := by
  obtain ⟨hreplies, hmirrors, havailable⟩ := converse_alike times calls mirrors_empty rfl fits
  refine ⟨hreplies, hmirrors, ?_⟩
  intro now request
  rw [(JobTable.answer_error_iff _ now request).1]
  cases request <;> simp [JobTable.refuses, havailable]

/-- Points in time as they are written out, or the start of 1970 for those that are not read
back. -/
def textColumn : TimeColumn where
  write t := match Instant.read t.text with
    | .ok _ => .string t.text
    | .error _ => .string "1970-01-01T00:00:00Z"
  legible := by
    intro t
    cases hread : Instant.read t.text with
    | ok t' => exact ⟨t', by simp only [Job.decodeInstant, hread]; rfl⟩
    | error e => exact ⟨⟨0, 0⟩, rfl⟩

/-- A job is created twice, counted, completed and then failed; another is never created. -/
def createdTwice : List JobCall :=
  [⟨.create ⟨0⟩ ⟨0, 0⟩, ⟨0, 0⟩, ⟨1, 0⟩⟩, ⟨.create ⟨0⟩ ⟨2, 0⟩, ⟨2, 0⟩, ⟨3, 0⟩⟩,
    ⟨.finalizeTotal ⟨0⟩ 2, ⟨4, 0⟩, ⟨5, 0⟩⟩, ⟨.increment ⟨0⟩ 1 1, ⟨6, 0⟩, ⟨7, 0⟩⟩,
    ⟨.increment ⟨1⟩ 1 0, ⟨8, 0⟩, ⟨9, 0⟩⟩, ⟨.completeIfDone ⟨0⟩, ⟨10, 0⟩, ⟨11, 0⟩⟩,
    ⟨.fail ⟨0⟩ "late", ⟨12, 0⟩, ⟨13, 0⟩⟩, ⟨.get ⟨1⟩, ⟨14, 0⟩, ⟨15, 0⟩⟩]

theorem createdTwice_agree :
    JobTable.empty.takes createdTwice = true ∧
      List.Forall₂ JobReply.Agree
        [.ok .created, .error ⟨[], .jobExists ⟨0⟩⟩, .ok (.applied true),
          .ok (.counted ⟨some 2, 1, 1⟩), .error ⟨[], .jobNotFound ⟨1⟩⟩, .ok (.applied true),
          .ok (.applied false), .ok (.found none)]
        (empty.converse textColumn createdTwice).1 :=
  ⟨by decide, (jobs_agree textColumn createdTwice (by decide)).1⟩

end Sql.JobRecords

end CatalogIntake
