import CatalogIntake.Proofs.JobId
import CatalogIntake.Proofs.Store.Jobs
import CatalogIntake.Sql.Jobs
import CatalogIntake.Sql.Peer
import Mathlib.Data.List.Nodup

/-!
The table behind the jobs in the database, and a server that carries out each statement on it as a
whole or not at all. Its rows have no two identifiers in common and keep to the bounds and the
checks of their columns.
-/

namespace CatalogIntake.Sql

open Number

structure JobRecord where
  id : JobId
  status : String
  totalRows : Option Int
  processedRows : Int
  failedRows : Int
  startTime : Instant
  endTime : Option Instant
  failureReason : Option String
  deriving DecidableEq, Repr

/-- How points in time are kept. What is read need not be what was written, as fractions of seconds
may be cut, but it is a point in time. -/
structure TimeColumn where
  write : Instant → Json
  legible : ∀ t, ∃ t', Job.decodeInstant (write t) = .ok t'

namespace JobRecord

def ofJob (job : Job) : JobRecord where
  id := job.id
  status := job.status.name
  totalRows := job.totalRows
  processedRows := job.processedRows
  failedRows := job.failedRows
  startTime := job.startTime
  endTime := none
  failureReason := none

def isInRange (r : JobRecord) : Bool :=
  r.totalRows.all Width.i64.contains && Width.i64.contains r.processedRows &&
    Width.i64.contains r.failedRows

def meetsChecks (r : JobRecord) : Bool :=
  (JobStatus.all.map JobStatus.name).contains r.status && r.totalRows.all (0 ≤ ·) &&
    0 ≤ r.processedRows && 0 ≤ r.failedRows

def outOfRange : DatabaseError := .server "22003" "bigint out of range"

def fault? (r : JobRecord) : Option DatabaseError :=
  if !r.isInRange then some outOfRange
  else if !r.meetsChecks then
    some (.server "23514" "new row for relation \"import_jobs\" violates check constraint")
  else none

def counters (r : JobRecord) : Row :=
  [Json.option .integer r.totalRows, .integer r.processedRows, .integer r.failedRows]

def columns (times : TimeColumn) (r : JobRecord) : Row :=
  [.string r.id.text, .string r.status, Json.option .integer r.totalRows,
   .integer r.processedRows, .integer r.failedRows, times.write r.startTime,
   Json.option times.write r.endTime, Json.option .string r.failureReason]

theorem fault?_eq_none (r : JobRecord) :
    r.fault? = none ↔ r.isInRange = true ∧ r.meetsChecks = true := by
  unfold fault?
  cases r.isInRange <;> cases r.meetsChecks <;> simp

end JobRecord

structure JobRecords where
  rows : List JobRecord

namespace JobRecords

def empty : JobRecords := ⟨[]⟩

def find? (records : JobRecords) (id : JobId) : Option JobRecord :=
  records.rows.find? (·.id == id)

def add (records : JobRecords) (r : JobRecord) : JobRecords := ⟨records.rows ++ [r]⟩

def duplicateKey : DatabaseError :=
  .server "23505" "duplicate key value violates unique constraint \"import_jobs_pkey\""

def insert (records : JobRecords) (r : JobRecord) : Answer × JobRecords :=
  match r.fault? with
  | some e => (.error e, records)
  | none =>
    if (records.find? r.id).isSome then (.error duplicateKey, records)
    else (.ok (.affected 1), records.add r)

/-- The row with this identifier is meant, provided that it meets the condition. -/
def isMeant (id : JobId) (condition : JobRecord → Bool) (r : JobRecord) : Bool :=
  r.id == id && condition r

def change (records : JobRecords) (id : JobId) (condition : JobRecord → Bool)
    (becomes : JobRecord → JobRecord) : JobRecords :=
  ⟨records.rows.map fun r => if isMeant id condition r then becomes r else r⟩

/-- Changes the rows that are meant and replies what became of them; if one of them could not be in
the table then, none is changed. -/
def update (records : JobRecords) (id : JobId) (condition : JobRecord → Bool)
    (becomes : JobRecord → JobRecord) (reply : List JobRecord → Reply) : Answer × JobRecords :=
  let changed := (records.rows.filter (isMeant id condition)).map becomes
  match changed.findSome? JobRecord.fault? with
  | some e => (.error e, records)
  | none => (.ok (reply changed), records.change id condition becomes)

def affected (changed : List JobRecord) : Reply := .affected changed.length

/-- What a statement does when it is carried out at a time. Comparing the sum of the counters
fails when it is beyond the bounds of the columns, whatever else is asked of the row. -/
def execute (times : TimeColumn) (now : Instant) (statement : Statement) (records : JobRecords) :
    Answer × JobRecords :=
  match statement with
  | .insertJob job => records.insert (.ofJob job)
  | .selectJob id =>
    (.ok (.rows ((records.rows.filter (·.id == id)).map (JobRecord.columns times))), records)
  | .finishJob id status reason =>
    records.update id (fun r => r.status == JobStatus.processing.name)
      (fun r => { r with status := status.name, endTime := some now, failureReason := reason })
      affected
  | .setTotal id total =>
    records.update id (fun r => r.totalRows.isNone) (fun r => { r with totalRows := some total })
      affected
  | .addProgress id processed failed =>
    records.update id (fun _ => true)
      (fun r => { r with
        processedRows := r.processedRows + processed
        failedRows := r.failedRows + failed })
      fun changed => .rows (changed.map JobRecord.counters)
  | .completeJob id =>
    if (records.rows.filter (·.id == id)).any fun r =>
        !Width.i64.contains (r.processedRows + r.failedRows) then
      (.error JobRecord.outOfRange, records)
    else
      records.update id
        (fun r => r.status == JobStatus.processing.name &&
          r.totalRows.any fun total => 0 < total && total ≤ r.processedRows + r.failedRows)
        (fun r => { r with status := JobStatus.completed.name, endTime := some now }) affected
  | statement => (.ok (Peer.defaultReply statement), records)

structure IsTable (records : JobRecords) : Prop where
  keyed : (records.rows.map (·.id)).Nodup
  sound : ∀ r ∈ records.rows, r.fault? = none

theorem isTable_empty : empty.IsTable := ⟨List.nodup_nil, fun _ h => nomatch h⟩

variable {records : JobRecords} {id : JobId} {r : JobRecord} {condition : JobRecord → Bool}
  {becomes : JobRecord → JobRecord}

theorem id_of_find? (h : records.find? id = some r) : r.id = id := by
  simpa using List.find?_some h

theorem mem_of_find? (h : records.find? id = some r) : r ∈ records.rows :=
  List.mem_of_find?_eq_some h

theorem find?_of_mem (h : records.IsTable) (here : r ∈ records.rows) :
    records.find? r.id = some r := by
  cases hfind : records.find? r.id with
  | none => simpa using List.find?_eq_none.mp hfind r here
  | some found =>
    have hid := id_of_find? hfind
    rw [List.inj_on_of_nodup_map h.keyed (mem_of_find? hfind) here hid]

theorem filter_isMeant (h : records.IsTable) (id : JobId) (condition : JobRecord → Bool) :
    records.rows.filter (isMeant id condition) =
      ((records.find? id).filter condition).toList := by
  have keyed := h.keyed
  unfold find?
  generalize records.rows = rows at keyed
  induction rows with
  | nil => rfl
  | cons first rest ih =>
    rw [List.map_cons] at keyed
    obtain ⟨hnew, hrest⟩ := List.nodup_cons.mp keyed
    rw [List.filter_cons, List.find?_cons, isMeant]
    by_cases hid : first.id = id
    · have hnone : rest.filter (isMeant id condition) = [] := by
        rw [List.filter_eq_nil_iff]
        intro r hr hmeant
        have hsame : r.id = id := by
          simpa using (Bool.and_eq_true_iff.mp hmeant).1
        exact hnew (List.mem_map.mpr ⟨r, hr, hsame.trans hid.symm⟩)
      rw [hnone]
      cases hcondition : condition first <;> simp [hid, hcondition, Option.filter]
    · have hne : (first.id == id) = false := by
        simpa using hid
      rw [hne, Bool.false_and]
      exact ih hrest

theorem filter_id (h : records.IsTable) (id : JobId) :
    records.rows.filter (·.id == id) = (records.find? id).toList := by
  have hmeant : (fun r : JobRecord => r.id == id) = isMeant id fun _ => true := by
    funext r
    rw [isMeant, Bool.and_true]
  have hall : (records.find? id).filter (fun _ => true) = records.find? id := by
    cases records.find? id <;> rfl
  rw [hmeant, filter_isMeant h, hall]

theorem find?_add (records : JobRecords) {r : JobRecord} (new : records.find? r.id = none)
    (id : JobId) :
    (records.add r).find? id = if id = r.id then some r else records.find? id := by
  have happend : (records.add r).find? id = (records.find? id).or ([r].find? (·.id == id)) :=
    List.find?_append
  rw [happend]
  by_cases hid : id = r.id
  · rw [if_pos hid, hid, new]
    simp
  · have hne : (r.id == id) = false := by
      simpa using fun h => hid (Eq.symm h)
    rw [if_neg hid, List.find?_cons, hne]
    simp

theorem isTable_add (h : records.IsTable) (new : records.find? r.id = none)
    (sound : r.fault? = none) : (records.add r).IsTable where
  keyed := by
    rw [add, List.map_append]
    apply h.keyed.append (List.nodup_singleton _)
    intro id hid hid'
    obtain ⟨old, hold, rfl⟩ := List.mem_map.mp hid
    have hsame : old.id = r.id := by
      simpa using hid'
    simpa [hsame] using List.find?_eq_none.mp new old hold
  sound := by
    intro old hold
    rcases List.mem_append.mp hold with hold | hold
    · exact h.sound old hold
    · rw [List.mem_singleton.mp hold]
      exact sound

section Change

variable (h : records.IsTable) (keeps : ∀ r, (becomes r).id = r.id)

include keeps in
theorem find?_change (other : JobId) :
    (records.change id condition becomes).find? other =
      (records.find? other).map fun r => if isMeant id condition r then becomes r else r := by
  unfold find? change
  rw [List.find?_map]
  congr 1
  apply congrArg (List.find? · records.rows)
  funext r
  simp only [Function.comp]
  split
  · rw [keeps]
  · rfl

include h keeps in
theorem isTable_change
    (sound : ∀ r, records.find? id = some r → condition r = true → (becomes r).fault? = none) :
    (records.change id condition becomes).IsTable where
  keyed := by
    have hsame : (records.change id condition becomes).rows.map (·.id) =
        records.rows.map (·.id) := by
      unfold change
      rw [List.map_map]
      apply List.map_congr_left
      intro r _
      simp only [Function.comp]
      split
      · exact keeps r
      · rfl
    rw [hsame]
    exact h.keyed
  sound := by
    intro changed hchanged
    obtain ⟨r, hr, rfl⟩ := List.mem_map.mp hchanged
    split
    · rename_i hmeant
      obtain ⟨hid, hcondition⟩ := Bool.and_eq_true_iff.mp hmeant
      have hfind := find?_of_mem h hr
      rw [beq_iff_eq.mp hid] at hfind
      exact sound r hfind hcondition
    · exact h.sound r hr

include h in
/-- An update that leaves the table sound takes effect on the row under the key, if it is meant. -/
theorem update_eq (reply : List JobRecord → Reply)
    (sound : ∀ r, records.find? id = some r → condition r = true → (becomes r).fault? = none) :
    records.update id condition becomes reply =
      (.ok (reply (((records.find? id).filter condition).map becomes).toList),
        records.change id condition becomes) := by
  have hchanged : (records.rows.filter (isMeant id condition)).map becomes =
      (((records.find? id).filter condition).map becomes).toList := by
    rw [filter_isMeant h, Option.toList_map]
  have hsound : (((records.find? id).filter condition).map becomes).toList.findSome?
      JobRecord.fault? = none := by
    rw [List.findSome?_eq_none_iff]
    intro changed hmem
    obtain ⟨r, hr, rfl⟩ := Option.map_eq_some_iff.mp (Option.mem_toList.mp hmem)
    obtain ⟨hfind, hcondition⟩ := Option.filter_eq_some_iff.mp hr
    exact sound r hfind hcondition
  unfold update
  simp only [hchanged, hsound]

end Change

end JobRecords

end CatalogIntake.Sql
