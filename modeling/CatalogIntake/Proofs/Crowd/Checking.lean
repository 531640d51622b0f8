import CatalogIntake.Proofs.Concurrency.Timeliness
import CatalogIntake.Proofs.Crowd.Basic
import CatalogIntake.Proofs.Pool.Jobs

/-!
Who sees that a job is completed. Consumers that have counted a chunk and producers that have
written a total check the same job, in any order, at a store that completes a job in one conditional
step and fails any call at any time. One check completes the job; its caller learns of it only if
the look-up that follows is answered, and takes the failure of that for a failure of the check.
-/

namespace CatalogIntake

def Call.concerns (id : JobId) : Call → Bool
  | .completeIfDone other => other = id
  | .createJob job => job.id = id
  | _ => false

/-- A store of jobs whose completion check is one conditional step, and the only way for a job to be
completed. -/
structure JobStore (σ : Type) where
  answer : (c : Call) → σ → c.Answer × σ
  isCompleted : JobId → σ → Bool
  completes : ∀ {id : JobId} {x : σ}, (answer (.completeIfDone id) x).1 = .ok true →
    isCompleted id x = false ∧ isCompleted id (answer (.completeIfDone id) x).2 = true
  refuses : ∀ {id : JobId} {x : σ}, (answer (.completeIfDone id) x).1 ≠ .ok true →
    isCompleted id (answer (.completeIfDone id) x).2 = isCompleted id x
  others : ∀ {id : JobId} {c : Call} {x : σ}, c.concerns id = false →
    isCompleted id (answer c x).2 = isCompleted id x

structure Exchange where
  caller : Nat
  call : Call
  answer : call.Answer

namespace Exchange

def completes (id : JobId) (e : Exchange) : Bool := e.call.completed? e.answer = some id

theorem completes_of_not_concerns {id : JobId} {e : Exchange} (apart : e.call.concerns id = false) :
    e.completes id = false := by
  obtain ⟨i, c, answer⟩ := e
  cases c with
  | completeIfDone other =>
    have hne : other ≠ id := of_decide_eq_false apart
    rcases answer with f | _ | _ <;> simp [completes, Call.completed?, hne]
  | _ => rfl

def looksUp : Exchange → Bool
  | ⟨_, .getJob _, .ok _⟩ => true
  | _ => false

end Exchange

structure Desk (σ : Type) where
  store : σ
  log : List Exchange

namespace Desk

variable {σ : Type}

def completedBy (x : Desk σ) (id : JobId) (caller : Nat) : Bool :=
  x.log.any fun e => e.caller = caller && e.completes id

def lookedUpBy (x : Desk σ) (caller : Nat) : Bool :=
  x.log.any fun e => e.caller = caller && e.looksUp

def write (x : Desk σ) (store : σ) (e : Exchange) : Desk σ := ⟨store, x.log ++ [e]⟩

variable (x : Desk σ) (store : σ) (e : Exchange)

@[simp] theorem completedBy_write (id : JobId) (caller : Nat) :
    (x.write store e).completedBy id caller =
      (x.completedBy id caller || (decide (e.caller = caller) && e.completes id)) := by
  simp [completedBy, write]

@[simp] theorem lookedUpBy_write (caller : Nat) :
    (x.write store e).lookedUpBy caller =
      (x.lookedUpBy caller || (decide (e.caller = caller) && e.looksUp)) := by
  simp [lookedUpBy, write]

end Desk

/-- A call of somebody else that does not bear on whether the job is completed. -/
structure Bystander (id : JobId) where
  call : Call
  apart : call.concerns id = false

def JobStore.host {σ : Type} (store : JobStore σ) (id : JobId) :
    Host (Desk σ) (Option Failure) (Bystander id) where
  answer
    | i, none, c, x =>
      ((store.answer c x.store).1,
        x.write (store.answer c x.store).2 ⟨i, c, (store.answer c x.store).1⟩)
    | i, some f, c, x => (.error f, x.write x.store ⟨i, c, .error f⟩)
  happen event x := { x with store := (store.answer event.call x.store).2 }

/-- Who checks: a consumer that has counted its chunk, or a producer that has written the total. -/
inductive Checker
  | consumer (chunk : Chunk) (stored : Storing)
  | producer (run : ProducerRun)

inductive Report
  | chunk (result : Outcome ChunkOutcome)
  | run (summary : ProducerSummary)

structure Checked where
  result : Outcome Bool
  report : Report

namespace Checker

def jobId : Checker → JobId
  | consumer chunk _ => chunk.jobId
  | producer run => run.jobId

def conclude : Checker → Outcome Bool → Plan Report
  | consumer chunk stored, result =>
    (Stage.concluding chunk stored (.done result)).bind fun outcome => .done (.chunk outcome)
  | producer run, result =>
    (Producing.concluding (Producing.lastCheck (.done result)) run).bind fun summary =>
      .done (.run summary)

def plan (k : Checker) : Plan Checked :=
  (checkAndComplete k.jobId).bind fun result =>
    (k.conclude result).bind fun report => .done ⟨result, report⟩

def tell : Checker → Outcome Bool → Report
  | consumer chunk stored, result =>
    .chunk (.ok (Stage.outcome chunk stored (match result with
      | .ok completed => completed
      | .error _ => false)))
  | producer run, .ok _ => .run (run.summary .finished)
  | producer run, .error f => .run (run.summary (.failed (Text.boundedErrorMessage f.text)))

/-- What a consumer does from its check on, with the result of the check noted besides. -/
theorem plan_consumer (chunk : Chunk) (stored : Storing) :
    ((consumer chunk stored).plan.bind fun checked => .done checked.report) =
      (Stage.plan chunk (.checking stored)).bind fun outcome => .done (.chunk outcome) := by
  show _ = ((checkAndComplete chunk.jobId).bind fun result =>
    Stage.concluding chunk stored (.done result)).bind _
  unfold plan conclude
  rw [Plan.bind_assoc, Plan.bind_assoc]
  congr 1

/-- What a producer does from its check on, with the result of the check noted besides. -/
theorem plan_producer (settings : ImportSettings) (run : ProducerRun) (unread : List RowEvent) :
    ((producer run).plan.bind fun checked => .done checked.report) =
      (Producing.plan settings ⟨run, unread, .completing⟩).bind fun summary =>
        .done (.run summary) := by
  have hplan : Producing.plan settings ⟨run, unread, .completing⟩ =
      (checkAndComplete run.jobId).bind fun result =>
        Producing.concluding (Producing.lastCheck (.done result)) run := by
    refine (Producing.concluding_lastCheck _ run).trans ?_
    congr 1
    funext result
    exact (Producing.concluding_lastCheck (.done result) run).symm
  rw [hplan]
  unfold plan conclude
  rw [Plan.bind_assoc, Plan.bind_assoc]
  congr 1
  funext result
  rw [Plan.bind_assoc, Plan.bind_assoc]
  rfl

end Checker

inductive CheckStage
  | asking
  /-- The job has been completed and is looked up for the log. -/
  | confirming
  | telling (result : Outcome Bool)
  | settled (checked : Checked)

structure Checking where
  checker : Checker
  stage : CheckStage

namespace Checking

def goTo (t : Checking) (stage : CheckStage) : Checking := { t with stage }

def move (t : Checking) : Move Checking Checked :=
  match t.stage with
  | .asking => .ask (.completeIfDone t.checker.jobId) fun
    | .error f => t.goTo (.telling (.error (f.during (.checkCompletion t.checker.jobId))))
    | .ok false => t.goTo (.telling (.ok false))
    | .ok true => t.goTo .confirming
  | .confirming => .ask (.getJob t.checker.jobId) fun
    | .error f => t.goTo (.telling (.error f))
    | .ok _ => t.goTo (.telling (.ok true))
  | .telling result =>
    match t.checker, result with
    -- a run whose check has failed fails its job
    | .producer run, .error f =>
      .ask (.failJob run.jobId (Text.boundedErrorMessage f.text)) fun _ =>
        t.goTo (.settled ⟨result, t.checker.tell result⟩)
    | _, _ => .go (t.goTo (.settled ⟨result, t.checker.tell result⟩))
  | .settled checked => .halt checked

def plan (t : Checking) : Plan Checked :=
  match t.stage with
  | .asking => t.checker.plan
  | .confirming => Plan.call (.getJob t.checker.jobId) fun answer =>
    let result : Outcome Bool := match answer with
      | .error f => .error f
      | .ok _ => .ok true
    (t.checker.conclude result).bind fun report => .done ⟨result, report⟩
  | .telling result => (t.checker.conclude result).bind fun report => .done ⟨result, report⟩
  | .settled checked => .done checked

theorem plan_eq (t : Checking) : t.plan = t.move.plan plan := by
  obtain ⟨checker, stage⟩ := t
  cases stage with
  | asking =>
    show Plan.call _ _ = Plan.call _ _
    congr 1
    funext answer
    rcases answer with f | _ | _
    · rfl
    · rfl
    · show Plan.call _ _ = Plan.call _ _
      congr 1
      funext answer
      cases answer <;> rfl
  | confirming =>
    show Plan.call _ _ = Plan.call _ _
    congr 1
    funext answer
    cases answer <;> rfl
  | telling result =>
    cases checker with
    | consumer chunk stored => rfl
    | producer run => cases result <;> rfl
  | settled checked => rfl

def machine : Machine Checking Checked where
  move := move
  plan := plan
  plan_eq := plan_eq
  effort t := match t.stage with
    | .telling _ => 1
    | _ => 0
  effort_lt := by
    intro t next h
    obtain ⟨checker, stage⟩ := t
    cases stage with
    | telling result =>
      simp only [move] at h
      split at h
      · cases h
      · cases h
        exact Nat.lt_succ_self 0
    | _ => cases h

end Checking

/-- What a check returns that has completed the job, or not, and whose look-up has been answered,
or not. -/
def Returns (completed lookedUp : Bool) (result : Outcome Bool) : Prop :=
  if completed then if lookedUp then result = .ok true else ∃ f, result = .error f
  else result ≠ .ok true

namespace Checking

def Stands {σ : Type} (x : Desk σ) (i : Nat) (t : Checking) : Prop :=
  let completed := x.completedBy t.checker.jobId i
  let lookedUp := x.lookedUpBy i
  match t.stage with
  | .asking => completed = false ∧ lookedUp = false
  | .confirming => completed = true ∧ lookedUp = false
  | .telling result => Returns completed lookedUp result
  | .settled checked =>
    Returns completed lookedUp checked.result ∧ checked.report = t.checker.tell checked.result

variable {σ : Type} {x : Desk σ} {i : Nat} {t : Checking}

theorem Stands.write_of_ne (h : t.Stands x i) (store : σ) {e : Exchange} (other : e.caller ≠ i) :
    t.Stands (x.write store e) i := by
  unfold Stands at h ⊢
  simpa [other] using h

theorem settled_of_halt {checked : Checked} (h : t.move = .halt checked) :
    t.stage = .settled checked := by
  unfold move at h
  split at h
  · cases h
  · cases h
  · split at h <;> cases h
  · cases h
    assumption

/-- A call of a checker, and how it stands with an answer to it. -/
theorem stands_of_ask {c : Call} {next : c.Answer → Checking} (h : t.Stands x i)
    (hmove : t.move = .ask c next) (answer : c.Answer) (store : σ) :
    (next answer).checker = t.checker ∧ (next answer).Stands (x.write store ⟨i, c, answer⟩) i ∧
      (c = .completeIfDone t.checker.jobId ∨ ∀ id, c.concerns id = false) := by
  obtain ⟨checker, stage⟩ := t
  cases stage with
  | asking =>
    cases hmove
    obtain ⟨hcompleted, hlooked⟩ := h
    refine ⟨?_, ?_, .inl rfl⟩
    · rcases answer with f | _ | _ <;> rfl
    · rcases answer with f | _ | _ <;>
        simp_all [Stands, goTo, Returns, Exchange.completes, Exchange.looksUp, Call.completed?]
  | confirming =>
    cases hmove
    obtain ⟨hcompleted, hlooked⟩ := h
    refine ⟨?_, ?_, .inr fun _ => rfl⟩
    · cases answer <;> rfl
    · cases answer <;>
        simp_all [Stands, goTo, Returns, Exchange.completes, Exchange.looksUp, Call.completed?]
  | telling result =>
    simp only [move] at hmove
    split at hmove
    · cases hmove
      refine ⟨rfl, ⟨?_, rfl⟩, .inr fun _ => rfl⟩
      simpa [Stands, goTo, Exchange.completes, Exchange.looksUp, Call.completed?] using h
    · cases hmove
  | settled checked => cases hmove

end Checking

structure Watched {σ : Type} (store : JobStore σ) (id : JobId) (checkers : List Checker)
    (x : Desk σ) (ts : List Checking) : Prop where
  members : ts.map (·.checker) = checkers
  stands : ∀ {i : Nat} {t : Checking}, ts[i]? = some t → t.Stands x i
  once : x.log.countP (·.completes id) = (store.isCompleted id x.store).toNat
  callers : ∀ e ∈ x.log, e.completes id = true →
    ∃ k, checkers[e.caller]? = some k ∧ k.jobId = id

namespace JobStore

variable {σ : Type} (store : JobStore σ) {id : JobId}

theorem isCompleted_host {c : Call}
    (check : (∃ other, c = .completeIfDone other) ∨ c.concerns id = false) (i : Nat)
    (verdict : Option Failure) (x : Desk σ) :
    ∃ answer next, (store.host id).answer i verdict c x =
        (answer, x.write next ⟨i, c, answer⟩) ∧
      (store.isCompleted id next).toNat = (store.isCompleted id x.store).toNat +
        (Exchange.completes id ⟨i, c, answer⟩).toNat := by
  cases verdict with
  | some f =>
    refine ⟨_, _, rfl, ?_⟩
    cases c <;> rfl
  | none =>
    refine ⟨_, _, rfl, ?_⟩
    by_cases concerns : c.concerns id = true
    · obtain ⟨other, rfl⟩ := check.resolve_right (by rw [concerns]; exact Bool.noConfusion)
      obtain rfl : other = id := of_decide_eq_true concerns
      by_cases hanswer : (store.answer (.completeIfDone other) x.store).1 = .ok true
      · obtain ⟨hbefore, hafter⟩ := store.completes hanswer
        rw [hbefore, hafter, hanswer]
        simp [Exchange.completes, Call.completed?]
      · rw [store.refuses hanswer]
        rcases hanswer' : (store.answer (.completeIfDone other) x.store).1 with f | _ | _
        · rfl
        · rfl
        · exact absurd hanswer' hanswer
    · have apart := eq_false_of_ne_true concerns
      rw [store.others apart, Exchange.completes_of_not_concerns apart]
      rfl

end JobStore

namespace Watched

variable {σ : Type} {store : JobStore σ} {id : JobId} {checkers : List Checker} {x : Desk σ}
  {ts : List Checking} {i : Nat} {t next : Checking}

theorem start (store : JobStore σ) {y : σ} (opens : store.isCompleted id y = false)
    (checkers : List Checker) :
    Watched store id checkers ⟨y, []⟩ (checkers.map (⟨·, .asking⟩)) where
  members := by
    rw [List.map_map]
    exact List.map_id' checkers
  stands := by
    intro i t hi
    rw [List.getElem?_map] at hi
    obtain ⟨k, -, rfl⟩ := Option.map_eq_some_iff.mp hi
    exact ⟨rfl, rfl⟩
  once := by
    rw [opens]
    rfl
  callers := fun _ he => by cases he

theorem member (h : Watched store id checkers x ts) (at_ : ts[i]? = some t) :
    checkers[i]? = some t.checker := by
  rw [← h.members, List.getElem?_map, at_]
  rfl

theorem go (h : Watched store id checkers x ts) (at_ : ts[i]? = some t)
    (hmove : t.move = .go next) : Watched store id checkers x (ts.set i next) := by
  obtain ⟨checker, stage⟩ := t
  cases stage with
  | telling result =>
    simp only [Checking.move] at hmove
    split at hmove
    · cases hmove
    · cases hmove
      refine { h with members := ?_, stands := fun {j u} hj => ?_ }
      · refine (Machine.map_set_of_eq (·.checker) at_ ?_).trans h.members
        rfl
      · rcases Machine.getElem?_set_cases hj with ⟨rfl, rfl⟩ | ⟨-, hj⟩
        · exact ⟨h.stands at_, rfl⟩
        · exact h.stands hj
  | _ => cases hmove

theorem ask (h : Watched store id checkers x ts) (at_ : ts[i]? = some t) {c : Call}
    {next : c.Answer → Checking} (hmove : t.move = .ask c next) (verdict : Option Failure) :
    Watched store id checkers ((store.host id).answer i verdict c x).2
      (ts.set i (next ((store.host id).answer i verdict c x).1)) := by
  obtain ⟨-, -, hchecks⟩ :=
    Checking.stands_of_ask (h.stands at_) hmove (.error (.of .busClosed)) x.store
  have hcheck : (∃ other, c = .completeIfDone other) ∨ c.concerns id = false :=
    hchecks.imp (fun h => ⟨_, h⟩) fun h => h id
  obtain ⟨answer, after, hanswer, hcompleted⟩ := store.isCompleted_host hcheck i verdict x
  rw [hanswer]
  obtain ⟨same, stands, -⟩ := Checking.stands_of_ask (h.stands at_) hmove answer after
  refine ⟨?_, fun {j u} hj => ?_, ?_, fun e he hcompletes => ?_⟩
  · exact (Machine.map_set_of_eq (·.checker) at_ same).trans h.members
  · rcases Machine.getElem?_set_cases hj with ⟨rfl, rfl⟩ | ⟨hne, hj⟩
    · exact stands
    · exact (h.stands hj).write_of_ne after fun heq => hne heq.symm
  · show (x.log ++ [_]).countP _ = _
    rw [List.countP_append, h.once, List.countP_singleton]
    show _ = (store.isCompleted id after).toNat
    rw [hcompleted]
    cases Exchange.completes id ⟨i, c, answer⟩ <;> rfl
  · rcases List.mem_append.mp he with he | he
    · exact h.callers e he hcompletes
    · obtain rfl := List.mem_singleton.mp he
      refine ⟨t.checker, h.member at_, ?_⟩
      -- only a check of the job has completed it, and this was the check of its caller's job
      rcases hchecks with rfl | apart
      · rcases answer with f | _ | _
        · cases hcompletes
        · cases hcompletes
        · exact Option.some.inj (of_decide_eq_true hcompletes)
      · rw [Exchange.completes_of_not_concerns (apart id)] at hcompletes
        cases hcompletes

theorem keeps (store : JobStore σ) (id : JobId) (checkers : List Checker) :
    Checking.machine.Keeps (store.host id) (Watched store id checkers) where
  go := fun h at_ hmove => h.go at_ hmove
  ask := fun h at_ hmove verdict => h.ask at_ hmove verdict
  happen := by
    intro x ts h event
    refine { h with once := ?_ }
    show _ = (store.isCompleted id (store.answer event.call x.store).2).toNat
    rw [store.others event.apart]
    exact h.once

theorem exists_caller (h : Watched store id checkers x ts)
    (completed : store.isCompleted id x.store = true) :
    ∃ i k, checkers[i]? = some k ∧ k.jobId = id ∧ ∀ j, x.completedBy id j = true ↔ j = i := by
  have hone : (x.log.filter (·.completes id)).length = 1 := by
    rw [← List.countP_eq_length_filter, h.once, completed]
    rfl
  obtain ⟨e, he⟩ := List.length_eq_one_iff.mp hone
  have hmem : ∀ e', e' ∈ x.log ∧ e'.completes id = true ↔ e' = e := by
    intro e'
    rw [← List.mem_filter, he, List.mem_singleton]
  obtain ⟨hlog, hcompletes⟩ := (hmem e).mpr rfl
  obtain ⟨k, hk, hid⟩ := h.callers e hlog hcompletes
  refine ⟨e.caller, k, hk, hid, fun j => ?_⟩
  unfold Desk.completedBy
  rw [List.any_eq_true]
  constructor
  · rintro ⟨e', hlog', hcompletes'⟩
    obtain ⟨hcaller, hcompletes'⟩ := (Bool.and_eq_true _ _).mp hcompletes'
    obtain rfl := (hmem e').mp ⟨hlog', hcompletes'⟩
    exact (of_decide_eq_true hcaller).symm
  · rintro rfl
    exact ⟨e, hlog, by simp [hcompletes]⟩

end Watched

/-- One check completes the job. Its caller is told so just if its look-up is answered, and no other
caller is. -/
theorem completion_seen_iff_looked_up {σ : Type} {store : JobStore σ} {id : JobId} {x : σ}
    {checkers : List Checker} {schedule : List (Crowd.Turn (Option Failure) (Bystander id))}
    {s : Crowd (Desk σ) Checked} {reports : List Checked}
    (opens : store.isCompleted id x = false)
    (run : Crowd.run (store.host id) ⟨⟨x, []⟩, checkers.map Checker.plan⟩ schedule = some s)
    (ended : s.plans = reports.map .done)
    (completed : store.isCompleted id s.shared.store = true) :
    (∃ i k checked, checkers[i]? = some k ∧ k.jobId = id ∧ reports[i]? = some checked ∧
      (if s.shared.lookedUpBy i then checked.result = .ok true
        else ∃ f, checked.result = .error f) ∧
      ∀ j other, (checkers[j]?).any (·.jobId = id) → reports[j]? = some other → j ≠ i →
        other.result ≠ .ok true) ∧
    ∀ (j : Nat) (k : Checker) (checked : Checked), checkers[j]? = some k →
      reports[j]? = some checked → checked.report = k.tell checked.result := by
  have keeps := Watched.keeps store id checkers
  have hplans : checkers.map Checker.plan =
      (checkers.map (⟨·, .asking⟩)).map Checking.machine.plan := by
    rw [List.map_map]
    rfl
  rw [hplans] at run
  obtain ⟨ts, hwatched, hmoves⟩ := keeps.run_to_end (.start store opens checkers) run ended
  have settled {j : Nat} {k : Checker} {checked : Checked} (hk : checkers[j]? = some k)
      (hchecked : reports[j]? = some checked) :
      Returns (s.shared.completedBy k.jobId j) (s.shared.lookedUpBy j) checked.result ∧
        checked.report = k.tell checked.result := by
    have hj := congrArg (·[j]?) hmoves
    simp only [List.getElem?_map, hchecked, Option.map_some] at hj
    obtain ⟨t, ht, hmove⟩ := Option.map_eq_some_iff.mp hj
    obtain rfl := Option.some.inj (hk.symm.trans (hwatched.member ht))
    have hstands := hwatched.stands ht
    unfold Checking.Stands at hstands
    rw [Checking.settled_of_halt hmove] at hstands
    exact hstands
  obtain ⟨i, k, hk, hid, hcaller⟩ := hwatched.exists_caller completed
  have hlength : checkers.length = reports.length := by
    rw [← hwatched.members, List.length_map]
    simpa using congrArg List.length hmoves
  have hi : i < reports.length := hlength ▸ (List.getElem?_eq_some_iff.mp hk).1
  have hreport : reports[i]? = some reports[i] := List.getElem?_eq_getElem hi
  refine ⟨⟨i, k, reports[i], hk, hid, hreport, ?_, fun j other hj hother hne => ?_⟩,
    fun j k checked hk hchecked => (settled hk hchecked).2⟩
  · have hreturns := (settled hk hreport).1
    rw [hid, (hcaller i).mpr rfl] at hreturns
    exact hreturns
  · obtain ⟨k', hk', hid'⟩ := (Option.any_eq_true _ _).mp hj
    have hid' : k'.jobId = id := of_decide_eq_true hid'
    have hreturns := (settled hk' hother).1
    have hnot : s.shared.completedBy id j = false :=
      eq_false_of_ne_true fun h => hne ((hcaller j).mp h)
    rw [hid', hnot] at hreturns
    exact hreturns

section Memory

open Concurrency

def JobStore.inMemory : JobStore World where
  answer c w := w.answer c
  isCompleted id w := (w.jobs.get? id).any (·.status = .completed)
  completes := by
    intro id w h
    have hready : (w.jobs.get? id).any (·.isReadyToComplete) = true := by
      rw [← JobTable.fst_completeIfDone w.jobs id w.now]
      exact Except.ok.inj h
    obtain ⟨job, hjob, hready⟩ := (Option.any_eq_true _ _).mp hready
    rw [World.answer_completeIfDone, JobTable.get?_completeIfDone, if_pos rfl, hjob]
    refine ⟨?_, ?_⟩
    · have hprocessing := (job.isReadyToComplete_iff.mp hready).1
      simp [hprocessing]
    · simp [Job.checked, hready]
  refuses := by
    intro id w h
    have hnot : (w.jobs.get? id).any (·.isReadyToComplete) ≠ true := by
      rw [← JobTable.fst_completeIfDone w.jobs id w.now]
      exact fun hready => h (congrArg Except.ok hready)
    rw [World.answer_completeIfDone, JobTable.get?_completeIfDone, if_pos rfl]
    cases hjob : w.jobs.get? id with
    | none => rfl
    | some job =>
      rw [hjob] at hnot
      simp_all [Job.checked]
  others := by
    intro id c w apart
    cases create : c.isCreate with
    | true =>
      cases c with
      | createJob job =>
        have hne : job.id ≠ id := of_decide_eq_false apart
        rw [World.answer_createJob, JobTable.get?_create, if_neg fun h => hne h.1.symm]
      | _ => cases create
    | false =>
      rw [w.get?_answer create]
      split
      · rename_i own
        cases w.jobs.get? id with
        | none => rfl
        | some job =>
          refine decide_eq_decide.mpr ((job.completed_after w.now c _).trans (or_iff_left ?_))
          rintro ⟨⟨other, rfl⟩, -⟩
          exact of_decide_eq_false apart (Option.some.inj own)
      · rfl

/-- One row has been stored and one has been rejected; both are counted, and the total is known. -/
def mugAccounted : World :=
  let job :=
    { Job.started ⟨7⟩ ⟨0, 0⟩ with totalRows := some 2, processedRows := 1, failedRows := 1 }
  .opening ⟨0, 0⟩ (JobTable.empty.create job).2 .empty .empty 1

def mugCheckers : List Checker :=
  [.consumer ⟨⟨7⟩, 1, [System.mug]⟩ ⟨1, [], false⟩,
    .producer { ProducerRun.start ⟨7⟩ with rowsRead := 2, rejectedRows := 1, chunkNumber := 1 }]

/-- The check of the consumer completes the job, and its look-up is answered after the producer has
checked. -/
def mugSeen : List (Crowd.Turn (Option Failure) (Bystander ⟨7⟩)) :=
  [.call 0 none, .call 1 none, .happen ⟨.cancelJob ⟨7⟩, rfl⟩, .call 0 none]

def mugUnseen : List (Crowd.Turn (Option Failure) (Bystander ⟨7⟩)) :=
  [.call 1 none, .call 1 (some (.of .jobStoreUnavailable)), .call 1 none, .call 0 none]

theorem mug_completion_seen : ∃ (s : Crowd (Desk World) Checked) (reports : List Checked),
    JobStore.inMemory.isCompleted ⟨7⟩ mugAccounted = false ∧
    Crowd.run (JobStore.inMemory.host ⟨7⟩) ⟨⟨mugAccounted, []⟩, mugCheckers.map Checker.plan⟩
      mugSeen = some s ∧
    s.plans = reports.map .done ∧ JobStore.inMemory.isCompleted ⟨7⟩ s.shared.store = true ∧
    (∃ i k checked, mugCheckers[i]? = some k ∧ k.jobId = ⟨7⟩ ∧ reports[i]? = some checked ∧
      (if s.shared.lookedUpBy i then checked.result = .ok true
        else ∃ f, checked.result = .error f) ∧
      ∀ j other, (mugCheckers[j]?).any (·.jobId = ⟨7⟩) → reports[j]? = some other → j ≠ i →
        other.result ≠ .ok true) ∧
    ∀ (j : Nat) (k : Checker) (checked : Checked), mugCheckers[j]? = some k →
      reports[j]? = some checked → checked.report = k.tell checked.result := by
  have opens : JobStore.inMemory.isCompleted ⟨7⟩ mugAccounted = false := rfl
  have run : Crowd.run (JobStore.inMemory.host ⟨7⟩)
      ⟨⟨mugAccounted, []⟩, mugCheckers.map Checker.plan⟩ mugSeen = some _ := rfl
  exact ⟨_, [_, _], opens, run, rfl, rfl, completion_seen_iff_looked_up opens run rfl rfl⟩

/-- The job is completed by a check of its producer, but no caller is told so, and the producer
reports that its run has failed. -/
theorem mug_completion_unseen : ∃ s first last reason,
    JobStore.inMemory.isCompleted ⟨7⟩ mugAccounted = false ∧
    Crowd.run (JobStore.inMemory.host ⟨7⟩) ⟨⟨mugAccounted, []⟩, mugCheckers.map Checker.plan⟩
      mugUnseen = some s ∧
    s.plans = [.done first, .done last] ∧
    JobStore.inMemory.isCompleted ⟨7⟩ s.shared.store = true ∧
    s.shared.completedBy ⟨7⟩ 1 = true ∧ first.result ≠ .ok true ∧ last.result ≠ .ok true ∧
    ∃ summary, last.report = .run summary ∧ summary.outcome = .failed reason :=
  ⟨_, _, _, _, rfl, rfl, rfl, rfl, rfl, (fun h => by cases h), (fun h => by cases h), _, rfl, rfl⟩

end Memory

end CatalogIntake
