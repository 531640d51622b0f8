import CatalogIntake.Pipeline.Producer
import CatalogIntake.Proofs.Pipeline.Stage
import Mathlib.Algebra.GroupWithZero.Nat

/-!
Where a producer stands between two of its calls: its run, the events it has not taken yet and the
point it has come to. `Producing.plan_eq` says that the points go through the plan of `produce`, one
event or one call at a time.
-/

namespace CatalogIntake

namespace Chunk

/-- The number of a chunk that so many others precede: it has 32 bits, and starts over. -/
def ordinal (count : Nat) : Int := (Int32.ofNat count).toInt

theorem ordinal_of_lt {count : Nat} (h : count < 2 ^ 31) : ordinal count = count :=
  Int32.toInt_ofNat_of_lt h

theorem mod_eq_of_ordinal_eq {count other : Nat} (h : ordinal count = ordinal other) :
    count % 2 ^ 32 = other % 2 ^ 32 := by
  have same := congrArg (· % (Int32.size : Int)) h
  simp only [ordinal, Int32.toInt_ofNat', Int.bmod_emod, Int32.size] at same
  omega

end Chunk

/-- A flag says whether the source is at its end, so that the total follows instead of the next
event. -/
inductive Point
  | reading
  /-- The window is published next, if it holds anything. -/
  | opening (atEnd : Bool)
  | publishing (atEnd : Bool) (chunk : Chunk) (attempts retries : Nat)
  | pausing (atEnd : Bool) (chunk : Chunk) (attempts retries : Nat)
  | flushing (atEnd : Bool)
  /-- The rejected rows have been logged. -/
  | counting (atEnd : Bool) (rejected : Nat)
  | totalling
  | completing
  | confirming
  | stopping
  | failing (reason : String)
  | ended (outcome : ProducerOutcome)
  deriving DecidableEq

structure Producing where
  run : ProducerRun
  unread : List RowEvent
  point : Point

namespace Producing

def start (jobId : JobId) (events : List RowEvent) : Producing :=
  ⟨ProducerRun.start jobId, events, .reading⟩

def moveTo (p : Producing) (point : Point) : Producing := { p with point }

/-- After the rejected rows: the next event, or the total of a source that had rows. -/
def proceed (p : Producing) (atEnd : Bool) : Producing :=
  if atEnd then
    if p.run.rowsRead = 0 then p.moveTo (.failing ProducerRun.emptySourceReason)
    else p.moveTo .totalling
  else p.moveTo .reading

def take (record : ProductRecord) (run : ProducerRun) : ProducerRun :=
  { run with rowsRead := run.rowsRead + 1, window := run.window ++ [record] }

def onEvent (settings : ImportSettings) (run : ProducerRun) (rest : List RowEvent) :
    RowEvent → Producing
  | .parsed record =>
    ⟨take record run, rest,
      if settings.chunkSize ≤ (take record run).window.length then .opening false else .reading⟩
  | .rejected rowNumber message raw =>
    let run := ProducerRun.reject settings rowNumber message raw run
    ⟨run, rest,
      if settings.chunkSize ≤ run.pendingErrors.length then .flushing false else .reading⟩
  | .fault fault => ⟨run, rest, .failing fault.text⟩

def move (settings : ImportSettings) (p : Producing) : Move Producing ProducerSummary :=
  match p.point with
  | .reading =>
    match p.unread with
    | [] => .go (p.moveTo (.opening true))
    | event :: rest => .go (onEvent settings p.run rest event)
  | .opening atEnd =>
    if p.run.window.isEmpty then .go (p.moveTo (.flushing atEnd))
    else .ask (.getJob p.run.jobId) fun
      | .error f => p.moveTo (.failing f.text)
      | .ok none => p.moveTo (.failing "import job disappeared")
      | .ok (some job) =>
        match job.status with
        | .processing =>
          { p with
            run := { p.run with window := [] }
            point := .publishing atEnd ⟨p.run.jobId, p.run.chunkNumber.toInt, p.run.window⟩ 0
              settings.publishRetries }
        | .cancelled => p.moveTo .stopping
        | status => p.moveTo (.failing s!"job left processing state ({status.name})")
  | .publishing atEnd chunk attempts retries => .ask (.publish chunk) fun
    | .ok _ =>
      { p with
        run := { p.run with chunkNumber := p.run.chunkNumber + 1 }
        point := .flushing atEnd }
    | .error f =>
      match retries with
      | 0 =>
        p.moveTo (.failing (f.during (.publishChunk chunk.number (.ofNat (attempts + 1)))).text)
      | retries + 1 => p.moveTo (.pausing atEnd chunk (attempts + 1) retries)
  | .pausing atEnd chunk attempts retries => .ask .pause fun _ =>
    p.moveTo (.publishing atEnd chunk attempts retries)
  | .flushing atEnd =>
    if p.run.pendingErrors.isEmpty then .go (p.proceed atEnd)
    else .ask (.saveErrors p.run.pendingErrors) fun _ =>
      { p with
        run := { p.run with pendingErrors := [] }
        point := .counting atEnd p.run.pendingErrors.length }
  | .counting atEnd rejected => .ask (.increment p.run.jobId 0 rejected) fun
    | .error f => p.moveTo (.failing f.text)
    | .ok _ => p.proceed atEnd
  | .totalling => .ask (.finalizeTotal p.run.jobId p.run.rowsRead) fun
    | .error f => p.moveTo (.failing (f.during .recordTotal).text)
    | .ok _ => p.moveTo .completing
  | .completing => .ask (.completeIfDone p.run.jobId) fun
    | .error f => p.moveTo (.failing (f.during (.checkCompletion p.run.jobId)).text)
    | .ok false => p.moveTo (.ended .finished)
    | .ok true => p.moveTo .confirming
  | .confirming => .ask (.getJob p.run.jobId) fun
    | .error f => p.moveTo (.failing f.text)
    | .ok _ => p.moveTo (.ended .finished)
  | .stopping => .ask (.finalizeTotal p.run.jobId p.run.rowsRead) fun _ =>
    p.moveTo (.ended .cancelled)
  | .failing reason =>
    .ask (.failJob p.run.jobId (Text.boundedErrorMessage reason)) fun _ =>
      p.moveTo (.ended (.failed (Text.boundedErrorMessage reason)))
  | .ended outcome => .halt (p.run.summary outcome)

inductive Goes (settings : ImportSettings) (p : Producing) : Producing → Prop
  | sourceEnded (at_ : p.point = .reading) (unread : p.unread = []) :
      Goes settings p (p.moveTo (.opening true))
  | taken {event : RowEvent} {rest : List RowEvent} (at_ : p.point = .reading)
      (unread : p.unread = event :: rest) : Goes settings p (onEvent settings p.run rest event)
  | nothingToPublish {atEnd : Bool} (at_ : p.point = .opening atEnd) (empty : p.run.window = []) :
      Goes settings p (p.moveTo (.flushing atEnd))
  | nothingToFlush {atEnd : Bool} (at_ : p.point = .flushing atEnd)
      (empty : p.run.pendingErrors = []) : Goes settings p (p.proceed atEnd)

inductive Asks (settings : ImportSettings) (p : Producing) :
    (c : Call) → c.Answer → Producing → Prop
  | jobUnavailable {atEnd : Bool} {f : Failure} (at_ : p.point = .opening atEnd)
      (any : p.run.window ≠ []) :
      Asks settings p (.getJob p.run.jobId) (.error f) (p.moveTo (.failing f.text))
  | jobGone {atEnd : Bool} (at_ : p.point = .opening atEnd) (any : p.run.window ≠ []) :
      Asks settings p (.getJob p.run.jobId) (.ok none)
        (p.moveTo (.failing "import job disappeared"))
  | processing {atEnd : Bool} {job : Job} (at_ : p.point = .opening atEnd)
      (any : p.run.window ≠ []) (status : job.status = .processing) :
      Asks settings p (.getJob p.run.jobId) (.ok (some job))
        { p with
          run := { p.run with window := [] }
          point := .publishing atEnd ⟨p.run.jobId, p.run.chunkNumber.toInt, p.run.window⟩ 0
            settings.publishRetries }
  | cancelled {atEnd : Bool} {job : Job} (at_ : p.point = .opening atEnd)
      (any : p.run.window ≠ []) (status : job.status = .cancelled) :
      Asks settings p (.getJob p.run.jobId) (.ok (some job)) (p.moveTo .stopping)
  | inactive {atEnd : Bool} {job : Job} (at_ : p.point = .opening atEnd)
      (any : p.run.window ≠ []) (processing : job.status ≠ .processing)
      (cancelled : job.status ≠ .cancelled) :
      Asks settings p (.getJob p.run.jobId) (.ok (some job))
        (p.moveTo (.failing s!"job left processing state ({job.status.name})"))
  | published {atEnd : Bool} {chunk : Chunk} {attempts retries : Nat}
      (at_ : p.point = .publishing atEnd chunk attempts retries) :
      Asks settings p (.publish chunk) (.ok ())
        { p with
          run := { p.run with chunkNumber := p.run.chunkNumber + 1 }
          point := .flushing atEnd }
  | notPublished {atEnd : Bool} {chunk : Chunk} {attempts : Nat} {f : Failure}
      (at_ : p.point = .publishing atEnd chunk attempts 0) :
      Asks settings p (.publish chunk) (.error f)
        (p.moveTo (.failing (f.during (.publishChunk chunk.number (.ofNat (attempts + 1)))).text))
  | publishedAgain {atEnd : Bool} {chunk : Chunk} {attempts retries : Nat} {f : Failure}
      (at_ : p.point = .publishing atEnd chunk attempts (retries + 1)) :
      Asks settings p (.publish chunk) (.error f)
        (p.moveTo (.pausing atEnd chunk (attempts + 1) retries))
  | paused {atEnd : Bool} {chunk : Chunk} {attempts retries : Nat} {answer : Outcome Unit}
      (at_ : p.point = .pausing atEnd chunk attempts retries) :
      Asks settings p .pause answer (p.moveTo (.publishing atEnd chunk attempts retries))
  | logged {atEnd : Bool} {answer : Outcome Unit} (at_ : p.point = .flushing atEnd)
      (any : p.run.pendingErrors ≠ []) :
      Asks settings p (.saveErrors p.run.pendingErrors) answer
        { p with
          run := { p.run with pendingErrors := [] }
          point := .counting atEnd p.run.pendingErrors.length }
  | uncounted {atEnd : Bool} {rejected : Nat} {f : Failure}
      (at_ : p.point = .counting atEnd rejected) :
      Asks settings p (.increment p.run.jobId 0 rejected) (.error f) (p.moveTo (.failing f.text))
  | counted {atEnd : Bool} {rejected : Nat} {counters : JobCounters}
      (at_ : p.point = .counting atEnd rejected) :
      Asks settings p (.increment p.run.jobId 0 rejected) (.ok counters) (p.proceed atEnd)
  | notTotalled {f : Failure} (at_ : p.point = .totalling) :
      Asks settings p (.finalizeTotal p.run.jobId p.run.rowsRead) (.error f)
        (p.moveTo (.failing (f.during .recordTotal).text))
  | totalled {first : Bool} (at_ : p.point = .totalling) :
      Asks settings p (.finalizeTotal p.run.jobId p.run.rowsRead) (.ok first)
        (p.moveTo .completing)
  | unchecked {f : Failure} (at_ : p.point = .completing) :
      Asks settings p (.completeIfDone p.run.jobId) (.error f)
        (p.moveTo (.failing (f.during (.checkCompletion p.run.jobId)).text))
  | notDone (at_ : p.point = .completing) :
      Asks settings p (.completeIfDone p.run.jobId) (.ok false) (p.moveTo (.ended .finished))
  | completed (at_ : p.point = .completing) :
      Asks settings p (.completeIfDone p.run.jobId) (.ok true) (p.moveTo .confirming)
  | unconfirmed {f : Failure} (at_ : p.point = .confirming) :
      Asks settings p (.getJob p.run.jobId) (.error f) (p.moveTo (.failing f.text))
  | confirmed {job : Option Job} (at_ : p.point = .confirming) :
      Asks settings p (.getJob p.run.jobId) (.ok job) (p.moveTo (.ended .finished))
  | stopped {answer : Outcome Bool} (at_ : p.point = .stopping) :
      Asks settings p (.finalizeTotal p.run.jobId p.run.rowsRead) answer
        (p.moveTo (.ended .cancelled))
  | failed {reason : String} {answer : Outcome Bool} (at_ : p.point = .failing reason) :
      Asks settings p (.failJob p.run.jobId (Text.boundedErrorMessage reason)) answer
        (p.moveTo (.ended (.failed (Text.boundedErrorMessage reason))))

section Moves

variable {settings : ImportSettings} {p : Producing}

theorem goes_of_move {next : Producing} (h : p.move settings = .go next) :
    Goes settings p next := by
  unfold move at h
  split at h
  · rename_i hpoint
    split at h
    · cases h
      exact .sourceEnded hpoint ‹_›
    · cases h
      exact .taken hpoint ‹_›
  · rename_i hpoint
    split at h
    · cases h
      exact .nothingToPublish hpoint (List.isEmpty_iff.mp ‹_›)
    · cases h
  · cases h
  · cases h
  · rename_i hpoint
    split at h
    · cases h
      exact .nothingToFlush hpoint (List.isEmpty_iff.mp ‹_›)
    · cases h
  all_goals cases h

theorem asks_of_move {c : Call} {next : c.Answer → Producing}
    (h : p.move settings = .ask c next) (answer : c.Answer) :
    Asks settings p c answer (next answer) := by
  unfold move at h
  split at h
  · split at h <;> cases h
  · rename_i hpoint
    split at h
    · cases h
    · rename_i hwindow
      have any : p.run.window ≠ [] := fun hnil => hwindow (List.isEmpty_iff.mpr hnil)
      cases h
      rcases answer with f | _ | job
      · exact .jobUnavailable hpoint any
      · exact .jobGone hpoint any
      · cases hstatus : job.status with
        | processing =>
          simp only [hstatus]
          exact .processing hpoint any hstatus
        | cancelled =>
          simp only [hstatus]
          exact .cancelled hpoint any hstatus
        | _ =>
          simp only [hstatus]
          have hinactive : Asks settings p (.getJob p.run.jobId) (.ok (some job)) _ :=
            .inactive hpoint any (by simp [hstatus]) (by simp [hstatus])
          rw [hstatus] at hinactive
          exact hinactive
  · rename_i retries hpoint
    cases h
    cases answer with
    | ok _ => exact .published hpoint
    | error f =>
      cases retries with
      | zero => exact .notPublished hpoint
      | succ retries => exact .publishedAgain hpoint
  · cases h
    exact .paused ‹_›
  · rename_i hpoint
    split at h
    · cases h
    · rename_i hpending
      cases h
      exact .logged hpoint fun hnil => hpending (List.isEmpty_iff.mpr hnil)
  · cases h
    cases answer with
    | error f => exact .uncounted ‹_›
    | ok counters => exact .counted ‹_›
  · cases h
    cases answer with
    | error f => exact .notTotalled ‹_›
    | ok first => exact .totalled ‹_›
  · cases h
    rcases answer with f | _ | _
    · exact .unchecked ‹_›
    · exact .notDone ‹_›
    · exact .completed ‹_›
  · cases h
    cases answer with
    | error f => exact .unconfirmed ‹_›
    | ok job => exact .confirmed ‹_›
  · cases h
    exact .stopped ‹_›
  · cases h
    exact .failed ‹_›
  · cases h

end Moves

def concluding (steps : ProducerRun.Step Unit) (run : ProducerRun) : Plan ProducerSummary :=
  (steps run).bind fun (result, run) =>
    (run.conclude result).bind fun outcome => .done (run.summary outcome)

def lastCheck (check : Plan (Outcome Bool)) : ProducerRun.Step Unit := do
  let completed ← fun s => do return (.ok (← check), s)
  let _ ← ProducerRun.stopOnFailure completed

def recordTotal (jobId : JobId) (rowsRead : Int) : ProducerRun.Step Unit := do
  let total ← ProducerRun.ask (.finalizeTotal jobId rowsRead)
  let _ ← ProducerRun.stopOnFailure (total.during .recordTotal)
  lastCheck (checkAndComplete jobId)

def closing : ProducerRun.Step Unit := do
  let run ← get
  if run.rowsRead = 0 then throw (.failed ProducerRun.emptySourceReason)
  recordTotal run.jobId run.rowsRead

def following (settings : ImportSettings) (unread : List RowEvent) (atEnd : Bool) :
    ProducerRun.Step Unit :=
  if atEnd then closing
  else do
    ProducerRun.stream settings unread
    ProducerRun.finish settings

def published (settings : ImportSettings) (unread : List RowEvent) (atEnd : Bool)
    (attempt : Outcome Unit) : ProducerRun.Step Unit := do
  ProducerRun.stopOnFailure attempt
  modify fun run => { run with chunkNumber := run.chunkNumber + 1 }
  ProducerRun.flushRejections
  following settings unread atEnd

def counted (settings : ImportSettings) (unread : List RowEvent) (atEnd : Bool) (rejected : Nat) :
    ProducerRun.Step Unit := do
  let run ← get
  let _ ← ProducerRun.stopOnFailure (← ProducerRun.ask (.increment run.jobId 0 rejected))
  following settings unread atEnd

/-- The rest of the plan of `produce`. -/
def plan (settings : ImportSettings) (p : Producing) : Plan ProducerSummary :=
  match p.point with
  | .reading => concluding (following settings p.unread false) p.run
  | .opening atEnd => concluding (do
      ProducerRun.publishWindow settings
      following settings p.unread atEnd) p.run
  | .publishing atEnd chunk attempts retries =>
    (ProducerRun.publishWithRetry chunk attempts retries).bind fun attempt =>
      concluding (published settings p.unread atEnd attempt) p.run
  | .pausing atEnd chunk attempts retries => .call .pause fun _ =>
    (ProducerRun.publishWithRetry chunk attempts retries).bind fun attempt =>
      concluding (published settings p.unread atEnd attempt) p.run
  | .flushing atEnd => concluding (do
      ProducerRun.flushRejections
      following settings p.unread atEnd) p.run
  | .counting atEnd rejected => concluding (counted settings p.unread atEnd rejected) p.run
  | .totalling => concluding (recordTotal p.run.jobId p.run.rowsRead) p.run
  | .completing => concluding (lastCheck (checkAndComplete p.run.jobId)) p.run
  | .confirming => concluding (lastCheck (.call (.getJob p.run.jobId) fun
      | .error f => .done (.error f)
      | .ok _ => .done (.ok true))) p.run
  | .stopping => concluding (throw .cancelled) p.run
  | .failing reason => concluding (throw (.failed reason)) p.run
  | .ended outcome => .done (p.run.summary outcome)

section Plan

open ProducerRun

theorem step_bind {α β : Type} (x : ProducerRun.Step α) (f : α → ProducerRun.Step β)
    (run : ProducerRun) :
    (x >>= f) run = (x run).bind fun (result, run) =>
      match result with
      | .ok a => f a run
      | .error stop => .done (.error stop, run) := by
  show Plan.bind _ _ = _
  congr 1
  funext ⟨result, run⟩
  cases result <;> rfl

theorem concluding_bind {α : Type} (x : ProducerRun.Step α) (f : α → ProducerRun.Step Unit)
    (run : ProducerRun) :
    concluding (x >>= f) run = (x run).bind fun (result, run) =>
      match result with
      | .ok a => concluding (f a) run
      | .error stop => concluding (throw stop) run := by
  unfold concluding
  rw [step_bind, Plan.bind_assoc]
  congr 1
  funext ⟨result, run⟩
  cases result <;> rfl

theorem concluding_get (f : ProducerRun → ProducerRun.Step Unit) (run : ProducerRun) :
    concluding (get >>= f) run = concluding (f run) run := by
  rw [concluding_bind]
  rfl

theorem concluding_ask (c : Call) (f : c.Answer → ProducerRun.Step Unit) (run : ProducerRun) :
    concluding (ProducerRun.ask c >>= f) run = .call c fun answer => concluding (f answer) run := by
  rw [concluding_bind]
  rfl

theorem concluding_modify (g : ProducerRun → ProducerRun) (f : PUnit → ProducerRun.Step Unit)
    (run : ProducerRun) :
    concluding (modify g >>= f) run = concluding (f ()) (g run) := by
  rw [concluding_bind]
  rfl

theorem concluding_set (g : ProducerRun) (f : PUnit → ProducerRun.Step Unit) (run : ProducerRun) :
    concluding (set g >>= f) run = concluding (f ()) g := by
  rw [concluding_bind]
  rfl

theorem concluding_throw {α : Type} (stop : Stop) (f : α → ProducerRun.Step Unit)
    (run : ProducerRun) :
    concluding ((throw stop : ProducerRun.Step α) >>= f) run = concluding (throw stop) run := by
  rw [concluding_bind]
  rfl

theorem finish_eq (settings : ImportSettings) :
    ProducerRun.finish settings = (do
      ProducerRun.publishWindow settings
      closing) := by
  unfold ProducerRun.finish closing recordTotal lastCheck
  rfl

theorem concluding_closing (run : ProducerRun) :
    concluding closing run =
      if run.rowsRead = 0 then concluding (throw (.failed emptySourceReason)) run
      else concluding (recordTotal run.jobId run.rowsRead) run := by
  unfold closing
  rw [concluding_get]
  split
  · rw [concluding_throw]
  · rfl

theorem concluding_flush (run : ProducerRun) (f : Unit → ProducerRun.Step Unit) :
    concluding (flushRejections >>= f) run =
      if run.pendingErrors.isEmpty then concluding (f ()) run
      else .call (.saveErrors run.pendingErrors) fun _ =>
        concluding (do
          let answer ← ProducerRun.ask (.increment run.jobId 0 run.pendingErrors.length)
          let _ ← stopOnFailure answer
          f ()) { run with pendingErrors := [] } := by
  unfold flushRejections
  simp only [bind_assoc, concluding_get]
  split
  · simp only [pure_bind]
  · simp only [bind_assoc, concluding_set]
    exact concluding_ask _ _ _

theorem stopOnFailure_ok {α : Type} (a : α) :
    stopOnFailure (.ok a) = (pure a : ProducerRun.Step α) := rfl

theorem concluding_publishWindow (settings : ImportSettings) (run : ProducerRun)
    (f : Unit → ProducerRun.Step Unit) :
    concluding (publishWindow settings >>= f) run =
      if run.window.isEmpty then concluding (flushRejections >>= f) run
      else concluding (ensureProcessing >>= fun _ => do
        set { run with window := [] }
        let published ← fun s => do
          return (.ok (← publishWithRetry ⟨run.jobId, run.chunkNumber.toInt, run.window⟩ 0
            settings.publishRetries), s)
        stopOnFailure published
        modify fun run => { run with chunkNumber := run.chunkNumber + 1 }
        flushRejections
        f ()) run := by
  unfold publishWindow
  simp only [bind_assoc, concluding_get]
  split
  · simp
  · simp [bind_assoc]

theorem concluding_ensure (f : Unit → ProducerRun.Step Unit) (run : ProducerRun) :
    concluding (ensureProcessing >>= f) run = .call (.getJob run.jobId) fun
      | .error f => concluding (throw (.failed f.text)) run
      | .ok none => concluding (throw (.failed "import job disappeared")) run
      | .ok (some job) =>
        match job.status with
        | .processing => concluding (f ()) run
        | .cancelled => concluding (throw .cancelled) run
        | status =>
          concluding (throw (.failed s!"job left processing state ({status.name})")) run := by
  unfold ensureProcessing
  simp only [bind_assoc, concluding_get]
  refine (concluding_ask _ _ _).trans ?_
  congr 1
  funext answer
  rcases answer with g | _ | job
  · exact concluding_throw _ _ _
  · rfl
  · simp only [stopOnFailure_ok, pure_bind]
    cases h : job.status <;> rfl

theorem concluding_stopOnFailure {α : Type} (o : Outcome α) (f : α → ProducerRun.Step Unit)
    (run : ProducerRun) :
    concluding (stopOnFailure o >>= f) run = match o with
      | .ok a => concluding (f a) run
      | .error g => concluding (throw (.failed g.text)) run := by
  cases o with
  | ok a => rfl
  | error g => exact concluding_throw _ _ _

theorem concluding_lift {α : Type} (q : Plan α) (f : α → ProducerRun.Step Unit)
    (run : ProducerRun) :
    concluding ((fun s => do return (.ok (← q), s) : ProducerRun.Step α) >>= f) run =
      q.bind fun a => concluding (f a) run := by
  rw [concluding_bind]
  show Plan.bind (q.bind _) _ = _
  rw [Plan.bind_assoc]
  rfl

theorem plan_onEvent (settings : ImportSettings) (run : ProducerRun) (rest : List RowEvent)
    (event : RowEvent) :
    concluding (ProducerRun.onEvent settings event >>= fun _ => following settings rest false) run =
      plan settings (onEvent settings run rest event) := by
  cases event with
  | parsed record =>
    simp only [ProducerRun.onEvent, bind_assoc, concluding_modify, concluding_get]
    by_cases h : settings.chunkSize ≤ (take record run).window.length
    · have h' := h
      simp only [take] at h'
      simp only [onEvent, h, h', if_true, plan]
      rfl
    · have h' := h
      simp only [take] at h'
      simp only [onEvent, h, h', if_false, plan, pure_bind]
      rfl
  | rejected n m raw =>
    simp only [ProducerRun.onEvent, bind_assoc, concluding_modify, concluding_get]
    by_cases h : settings.chunkSize ≤ (reject settings n m raw run).pendingErrors.length
    · simp only [onEvent, h, if_true, plan]
    · simp only [onEvent, h, if_false, plan, pure_bind]
  | fault fault => exact concluding_throw _ _ _

theorem plan_proceed (settings : ImportSettings) (p : Producing) (atEnd : Bool) :
    concluding (following settings p.unread atEnd) p.run = plan settings (p.proceed atEnd) := by
  cases atEnd with
  | false => rfl
  | true =>
    simp only [following, if_true, proceed]
    rw [concluding_closing]
    split <;> rfl

theorem plan_reading (settings : ImportSettings) (run : ProducerRun) (unread : List RowEvent) :
    plan settings ⟨run, unread, .reading⟩ =
      (move settings ⟨run, unread, .reading⟩).plan (plan settings) := by
  cases unread with
  | nil =>
    show concluding (following settings [] false) run =
      concluding (do ProducerRun.publishWindow settings; following settings [] true) run
    simp [following, ProducerRun.stream, finish_eq]
  | cons event rest =>
    show concluding (following settings (event :: rest) false) run =
      plan settings (onEvent settings run rest event)
    rw [← plan_onEvent]
    simp [following, ProducerRun.stream]

theorem plan_opening (settings : ImportSettings) (run : ProducerRun) (unread : List RowEvent)
    (atEnd : Bool) :
    plan settings ⟨run, unread, .opening atEnd⟩ =
      (move settings ⟨run, unread, .opening atEnd⟩).plan (plan settings) := by
  refine (concluding_publishWindow settings run _).trans ?_
  simp only [move]
  by_cases h : run.window.isEmpty
  · rw [if_pos h, if_pos h]
    rfl
  · rw [if_neg h, if_neg h, concluding_ensure]
    simp only [Move.plan]
    congr 1
    funext answer
    rcases answer with g | _ | job
    · rfl
    · rfl
    · cases h : job.status with
      | processing =>
        simp only [h, concluding_set, concluding_lift]
        rfl
      | _ =>
        simp only [h]
        rfl

theorem plan_publishing (settings : ImportSettings) (run : ProducerRun) (unread : List RowEvent)
    (atEnd : Bool) (chunk : Chunk) (attempts retries : Nat) :
    plan settings ⟨run, unread, .publishing atEnd chunk attempts retries⟩ =
      (move settings ⟨run, unread, .publishing atEnd chunk attempts retries⟩).plan
        (plan settings) := by
  cases retries with
  | zero =>
    show Plan.call _ _ = Plan.call _ _
    congr 1
    funext answer
    cases answer with
    | error g => exact concluding_stopOnFailure _ _ run
    | ok a => rfl
  | succ retries =>
    show Plan.call _ _ = Plan.call _ _
    congr 1
    funext answer
    cases answer <;> rfl

theorem plan_flushing (settings : ImportSettings) (run : ProducerRun) (unread : List RowEvent)
    (atEnd : Bool) :
    plan settings ⟨run, unread, .flushing atEnd⟩ =
      (move settings ⟨run, unread, .flushing atEnd⟩).plan (plan settings) := by
  refine (concluding_flush run _).trans ?_
  simp only [move]
  by_cases h : run.pendingErrors.isEmpty
  · rw [if_pos h, if_pos h]
    exact plan_proceed settings ⟨run, unread, .flushing atEnd⟩ atEnd
  · rw [if_neg h, if_neg h]
    rfl

theorem plan_counting (settings : ImportSettings) (run : ProducerRun) (unread : List RowEvent)
    (atEnd : Bool) (rejected : Nat) :
    plan settings ⟨run, unread, .counting atEnd rejected⟩ =
      (move settings ⟨run, unread, .counting atEnd rejected⟩).plan (plan settings) := by
  show concluding (counted settings unread atEnd rejected) run = _
  unfold counted
  rw [concluding_get]
  refine (concluding_ask _ _ _).trans ?_
  show Plan.call _ _ = Plan.call _ _
  congr 1
  funext answer
  rw [concluding_stopOnFailure]
  cases answer with
  | error g => rfl
  | ok a => exact plan_proceed settings ⟨run, unread, .counting atEnd rejected⟩ atEnd

theorem plan_totalling (settings : ImportSettings) (run : ProducerRun) (unread : List RowEvent) :
    plan settings ⟨run, unread, .totalling⟩ =
      (move settings ⟨run, unread, .totalling⟩).plan (plan settings) := by
  refine (concluding_ask _ _ _).trans ?_
  show Plan.call _ _ = Plan.call _ _
  congr 1
  funext answer
  rw [concluding_stopOnFailure]
  cases answer <;> rfl

theorem concluding_lastCheck (check : Plan (Outcome Bool)) (run : ProducerRun) :
    concluding (lastCheck check) run = check.bind fun
      | .ok _ => concluding (pure ()) run
      | .error f => concluding (throw (.failed f.text)) run := by
  unfold lastCheck
  rw [concluding_lift]
  congr 1
  funext answer
  rw [concluding_stopOnFailure]
  cases answer <;> rfl

theorem plan_completing (settings : ImportSettings) (run : ProducerRun) (unread : List RowEvent) :
    plan settings ⟨run, unread, .completing⟩ =
      (move settings ⟨run, unread, .completing⟩).plan (plan settings) := by
  refine (concluding_lastCheck _ run).trans ?_
  show Plan.call _ _ = Plan.call _ _
  congr 1
  funext answer
  rcases answer with g | _ | _
  · rfl
  · rfl
  · refine Eq.trans ?_ (concluding_lastCheck _ run).symm
    show Plan.call _ _ = Plan.call _ _
    congr 1
    funext answer
    cases answer <;> rfl

theorem plan_confirming (settings : ImportSettings) (run : ProducerRun) (unread : List RowEvent) :
    plan settings ⟨run, unread, .confirming⟩ =
      (move settings ⟨run, unread, .confirming⟩).plan (plan settings) := by
  refine (concluding_lastCheck _ run).trans ?_
  show Plan.call _ _ = Plan.call _ _
  congr 1
  funext answer
  cases answer <;> rfl

theorem plan_eq (settings : ImportSettings) (p : Producing) :
    p.plan settings = (p.move settings).plan (plan settings) := by
  obtain ⟨run, unread, point⟩ := p
  cases point with
  | reading => exact plan_reading settings run unread
  | opening atEnd => exact plan_opening settings run unread atEnd
  | publishing atEnd chunk attempts retries =>
    exact plan_publishing settings run unread atEnd chunk attempts retries
  | pausing atEnd chunk attempts retries => rfl
  | flushing atEnd => exact plan_flushing settings run unread atEnd
  | counting atEnd rejected => exact plan_counting settings run unread atEnd rejected
  | totalling => exact plan_totalling settings run unread
  | completing => exact plan_completing settings run unread
  | confirming => exact plan_confirming settings run unread
  | stopping => rfl
  | failing reason => rfl
  | ended outcome => rfl

theorem plan_start (settings : ImportSettings) (jobId : JobId) (events : List RowEvent) :
    (start jobId events).plan settings = produce settings jobId events := by
  rfl

end Plan

end Producing

end CatalogIntake
