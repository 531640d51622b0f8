import CatalogIntake.Store.Jobs

namespace CatalogIntake

open Number

theorem Number.Width.wrap_of_contains {width : Width} {n : Int} (h : width.contains n = true) :
    width.wrap n = n := by
  simp only [contains, Bool.and_eq_true, decide_eq_true_eq] at h
  unfold wrap
  rw [Int.emod_eq_of_lt (by omega) (by omega)]
  omega

namespace Job

def totalled (total : Int) (job : Job) : Job :=
  if job.totalRows.isNone then { job with totalRows := some total } else job

def counted (processed failed : Int) (job : Job) : Job :=
  { job with
    processedRows := job.processedRows + processed
    failedRows := job.failedRows + failed }

def countedIn (counters : Option Width) (processed failed : Int) (job : Job) : Job :=
  { job with
    processedRows := Width.hold counters (job.processedRows + processed)
    failedRows := Width.hold counters (job.failedRows + failed) }

def canCount (processed failed : Int) (job : Job) : Bool :=
  Width.i64.contains (job.processedRows + processed) &&
    Width.i64.contains (job.failedRows + failed)

theorem countedIn_of_canCount {processed failed : Int} {job : Job}
    (fits : job.canCount processed failed = true) :
    job.countedIn (some .i64) processed failed = job.counted processed failed := by
  obtain ⟨hprocessed, hfailed⟩ := (Bool.and_eq_true _ _).mp fits
  simp only [countedIn, Width.hold, Width.wrap_of_contains hprocessed,
    Width.wrap_of_contains hfailed]
  rfl

def checked (now : Instant) (job : Job) : Job :=
  if job.isReadyToComplete then { job with status := .completed, endTime := some now } else job

def checkedIn (counters : Option Width) (now : Instant) (job : Job) : Job :=
  if job.isReadyIn counters then { job with status := .completed, endTime := some now } else job

def finished (status : JobStatus) (reason : Option String) (now : Instant) (job : Job) : Job :=
  if job.status = .processing then
    { job with status, endTime := some now, failureReason := reason.map Text.boundedErrorMessage }
  else job

@[simp] theorem totalled_id (total : Int) (job : Job) : (job.totalled total).id = job.id := by
  unfold totalled
  split <;> rfl

@[simp] theorem counted_id (processed failed : Int) (job : Job) :
    (job.counted processed failed).id = job.id := rfl

@[simp] theorem checked_id (now : Instant) (job : Job) : (job.checked now).id = job.id := by
  unfold checked
  split <;> rfl

@[simp] theorem finished_id (status : JobStatus) (reason : Option String) (now : Instant)
    (job : Job) : (job.finished status reason now).id = job.id := by
  unfold finished
  split <;> rfl

@[simp] theorem totalled_rows (total : Int) (job : Job) :
    (job.totalled total).processedRows = job.processedRows ∧
      (job.totalled total).failedRows = job.failedRows := by
  unfold totalled
  split <;> exact ⟨rfl, rfl⟩

section Checked

variable (counters : Option Width) (now : Instant) (job : Job)

@[simp] theorem checkedIn_rows :
    (job.checkedIn counters now).processedRows = job.processedRows ∧
      (job.checkedIn counters now).failedRows = job.failedRows := by
  unfold checkedIn
  split <;> exact ⟨rfl, rfl⟩

@[simp] theorem checkedIn_totalRows : (job.checkedIn counters now).totalRows = job.totalRows := by
  unfold checkedIn
  split <;> rfl

@[simp] theorem checked_rows :
    (job.checked now).processedRows = job.processedRows ∧
      (job.checked now).failedRows = job.failedRows :=
  job.checkedIn_rows none now

@[simp] theorem checked_totalRows : (job.checked now).totalRows = job.totalRows :=
  job.checkedIn_totalRows none now

end Checked

@[simp] theorem finished_rows (status : JobStatus) (reason : Option String) (now : Instant)
    (job : Job) :
    (job.finished status reason now).processedRows = job.processedRows ∧
      (job.finished status reason now).failedRows = job.failedRows := by
  unfold finished
  split <;> exact ⟨rfl, rfl⟩

@[simp] theorem finished_totalRows (status : JobStatus) (reason : Option String) (now : Instant)
    (job : Job) : (job.finished status reason now).totalRows = job.totalRows := by
  unfold finished
  split <;> rfl

theorem isReadyIn_iff (counters : Option Width) (job : Job) :
    job.isReadyIn counters = true ↔
      job.status = .processing ∧ ∃ total, job.totalRows = some total ∧ 0 < total ∧
        total ≤ Width.hold counters job.rowsAccounted := by
  unfold isReadyIn knownTotal?
  cases job.totalRows with
  | none => simp
  | some total =>
    by_cases h : 0 < total
    · simp [Option.filter, h]
    · simp [Option.filter, h]

theorem isReadyToComplete_iff (job : Job) :
    job.isReadyToComplete = true ↔
      job.status = .processing ∧
        ∃ total, job.totalRows = some total ∧ 0 < total ∧ total ≤ job.rowsAccounted :=
  job.isReadyIn_iff none

theorem isReadyIn_of_contains {job : Job} (fits : Width.i64.contains job.rowsAccounted = true) :
    job.isReadyIn (some .i64) = job.isReadyToComplete := by
  have hsum : Width.hold (some .i64) job.rowsAccounted = job.rowsAccounted :=
    Width.wrap_of_contains fits
  unfold isReadyToComplete isReadyIn
  rw [hsum]
  rfl

def IsEarned (job : Job) : Prop :=
  job.status = .completed → ∃ total, job.totalRows = some total ∧ 0 < total ∧
    total ≤ job.rowsAccounted

theorem IsEarned.finished {job : Job} (h : job.IsEarned) {status : JobStatus}
    (reason : Option String) (now : Instant) (other : status ≠ .completed) :
    (job.finished status reason now).IsEarned := by
  unfold Job.finished
  split
  · exact fun hstatus => absurd hstatus other
  · exact h

end Job

namespace JobTable

theorem id_of_get? {table : JobTable} {id : JobId} {job : Job} (h : table.get? id = some job) :
    job.id = id := by
  simpa using List.find?_some h

theorem get?_set (table : JobTable) (job : Job) (id : JobId) :
    (table.set job).get? id =
      if id = job.id then (table.get? id).map fun _ => job else table.get? id := by
  unfold get? set
  simp only
  induction table.jobs with
  | nil => simp
  | cons first rest ih =>
    rw [List.map_cons, List.find?_cons, List.find?_cons]
    by_cases hid : id = job.id
    · subst hid
      by_cases hfirst : first.id = job.id
      · simp [hfirst]
      · have hne : (first.id == job.id) = false := by simpa using hfirst
        simpa [hfirst, hne] using ih
    · have hne : (job.id == id) = false := by
        simpa using fun h => hid (Eq.symm h)
      by_cases hfirst : first.id = job.id
      · simpa [hfirst, hne, hid] using ih
      · simp only [hfirst, if_false, hid] at ih ⊢
        cases first.id == id
        · exact ih
        · rfl

theorem get?_changeIf (table : JobTable) (id : JobId) (change : Job → Option Job)
    (keeps : ∀ job changed, change job = some changed → changed.id = job.id) (other : JobId) :
    (table.changeIf id change).2.get? other =
      if other = id then (table.get? other).map fun job => (change job).getD job
      else table.get? other := by
  unfold changeIf
  by_cases hother : other = id
  · subst hother
    cases hget : table.get? other with
    | none => simp [hget]
    | some job =>
      cases hchange : change job with
      | none => simp [hget, hchange]
      | some changed =>
        have hid : changed.id = other := (keeps job changed hchange).trans (id_of_get? hget)
        simp [hget, hchange, get?_set, hid]
  · cases hbind : (table.get? id).bind change with
    | none => simp [hother]
    | some changed =>
      obtain ⟨job, hget, hchange⟩ := Option.bind_eq_some_iff.mp hbind
      have hid : changed.id = id := (keeps job changed hchange).trans (id_of_get? hget)
      simp [get?_set, hid, hother]

theorem get?_create (table : JobTable) (job : Job) (id : JobId) :
    (table.create job).2.get? id =
      if id = job.id ∧ table.get? job.id = none then some job else table.get? id := by
  unfold create
  cases hget : table.get? job.id with
  | some old => simp
  | none =>
    simp only [get?, List.find?_append, and_true] at hget ⊢
    by_cases hid : id = job.id
    · subst hid
      simp [hget]
    · have hne : ¬job.id = id := fun h => hid h.symm
      simp [hid, hne]

theorem get?_finalizeTotal (table : JobTable) (id : JobId) (total : Int) (other : JobId) :
    (table.finalizeTotal id total).2.get? other =
      if other = id then (table.get? other).map (Job.totalled total) else table.get? other := by
  unfold finalizeTotal
  rw [get?_changeIf]
  · congr 2
    funext job
    unfold Job.totalled
    split <;> rfl
  · intro job changed h
    split at h
    · cases h
      rfl
    · cases h

theorem get?_incrementIn (counters : Option Width) (table : JobTable) (id : JobId)
    (processed failed : Int) (other : JobId) :
    (table.incrementIn counters id processed failed).2.get? other =
      if other = id ∧ table.progressAvailable = true then
        (table.get? other).map (Job.countedIn counters processed failed)
      else table.get? other := by
  unfold incrementIn
  cases havailable : table.progressAvailable with
  | false => simp
  | true =>
    cases hget : table.get? id with
    | none =>
      by_cases hother : other = id
      · simp [hother, hget]
      · simp [hother]
    | some job =>
      have hid := id_of_get? hget
      by_cases hother : other = id
      · subst hother
        simp [get?_set, hid, hget, Job.countedIn]
      · simp [get?_set, hid, hother]

theorem get?_increment (table : JobTable) (id : JobId) (processed failed : Int) (other : JobId) :
    (table.increment id processed failed).2.get? other =
      if other = id ∧ table.progressAvailable = true then
        (table.get? other).map (Job.counted processed failed)
      else table.get? other :=
  table.get?_incrementIn none id processed failed other

theorem fst_incrementIn (counters : Option Width) (table : JobTable) (id : JobId)
    (processed failed : Int) :
    (table.incrementIn counters id processed failed).1 =
      if table.progressAvailable = true then
        match table.get? id with
        | none => .fail (.jobNotFound id)
        | some job => .ok (job.countedIn counters processed failed).counters
      else .fail .jobStoreUnavailable := by
  unfold incrementIn
  cases table.progressAvailable with
  | false => rfl
  | true => cases table.get? id <;> rfl

theorem fst_increment (table : JobTable) (id : JobId) (processed failed : Int) :
    (table.increment id processed failed).1 =
      if table.progressAvailable = true then
        match table.get? id with
        | none => .fail (.jobNotFound id)
        | some job => .ok (job.counted processed failed).counters
      else .fail .jobStoreUnavailable :=
  table.fst_incrementIn none id processed failed

theorem incrementIn_of_fits {table : JobTable} {id : JobId} {processed failed : Int}
    (fits : (table.get? id).all (·.canCount processed failed) = true) :
    table.incrementIn (some .i64) id processed failed = table.increment id processed failed := by
  unfold increment incrementIn
  cases hget : table.get? id with
  | none => rfl
  | some job =>
    rw [hget, Option.all_some] at fits
    have hcounted : job.countedIn (some .i64) processed failed =
        job.countedIn none processed failed := Job.countedIn_of_canCount fits
    unfold Job.countedIn at hcounted
    simp only [hcounted]

theorem get?_completeIfDoneIn (counters : Option Width) (table : JobTable) (id : JobId)
    (now : Instant) (other : JobId) :
    (table.completeIfDoneIn counters id now).2.get? other =
      if other = id then (table.get? other).map (Job.checkedIn counters now)
      else table.get? other := by
  unfold completeIfDoneIn
  rw [get?_changeIf]
  · congr 2
    funext job
    unfold Job.checkedIn
    split <;> rfl
  · intro job changed h
    split at h
    · cases h
      rfl
    · cases h

theorem get?_completeIfDone (table : JobTable) (id : JobId) (now : Instant) (other : JobId) :
    (table.completeIfDone id now).2.get? other =
      if other = id then (table.get? other).map (Job.checked now) else table.get? other :=
  table.get?_completeIfDoneIn none id now other

theorem fst_completeIfDoneIn (counters : Option Width) (table : JobTable) (id : JobId)
    (now : Instant) :
    (table.completeIfDoneIn counters id now).1 = (table.get? id).any (·.isReadyIn counters) := by
  unfold completeIfDoneIn changeIf
  cases table.get? id with
  | none => rfl
  | some job => cases hready : job.isReadyIn counters <;> simp [hready]

theorem fst_completeIfDone (table : JobTable) (id : JobId) (now : Instant) :
    (table.completeIfDone id now).1 = (table.get? id).any (·.isReadyToComplete) :=
  table.fst_completeIfDoneIn none id now

theorem completeIfDoneIn_of_fits {table : JobTable} {id : JobId}
    (fits : (table.get? id).all (fun job => Width.i64.contains job.rowsAccounted) = true)
    (now : Instant) :
    table.completeIfDoneIn (some .i64) id now = table.completeIfDone id now := by
  unfold completeIfDone completeIfDoneIn changeIf
  cases hget : table.get? id with
  | none => rfl
  | some job =>
    rw [hget, Option.all_some] at fits
    have hready : job.isReadyIn (some .i64) = job.isReadyIn none := Job.isReadyIn_of_contains fits
    simp only [Option.bind_some, hready]

theorem get?_finish (table : JobTable) (id : JobId) (status : JobStatus) (reason : Option String)
    (now : Instant) (other : JobId) :
    (table.finish id status reason now).2.get? other =
      if other = id then (table.get? other).map (Job.finished status reason now)
      else table.get? other := by
  unfold finish
  rw [get?_changeIf]
  · congr 2
    funext job
    unfold Job.finished
    split <;> rfl
  · intro job changed h
    split at h
    · cases h
      rfl
    · cases h

theorem fst_finish (table : JobTable) (id : JobId) (status : JobStatus) (reason : Option String)
    (now : Instant) :
    (table.finish id status reason now).1 = (table.get? id).any (·.status = .processing) := by
  unfold finish changeIf
  cases table.get? id with
  | none => rfl
  | some job => by_cases h : job.status = .processing <;> simp [h]

theorem progressAvailable_changeIf (table : JobTable) (id : JobId) (change : Job → Option Job) :
    (table.changeIf id change).2.progressAvailable = table.progressAvailable := by
  unfold changeIf
  cases (table.get? id).bind change <;> rfl

theorem progressAvailable_incrementIn (counters : Option Width) (table : JobTable) (id : JobId)
    (processed failed : Int) :
    (table.incrementIn counters id processed failed).2.progressAvailable =
      table.progressAvailable := by
  unfold incrementIn
  split
  · rfl
  · split <;> rfl

theorem progressAvailable_increment (table : JobTable) (id : JobId) (processed failed : Int) :
    (table.increment id processed failed).2.progressAvailable = table.progressAvailable :=
  table.progressAvailable_incrementIn none id processed failed

end JobTable

end CatalogIntake
