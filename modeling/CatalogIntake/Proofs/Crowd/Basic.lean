import CatalogIntake.Proofs.Pipeline.Stage

/-!
Plans carried out side by side. They share a state and take turns, one call at a time and in any
order; how a call is answered may depend on who makes it and on a verdict from outside, and other
things may happen in between. Of plans that are taken apart into moves, a run keeps what the moves
keep.
-/

namespace CatalogIntake

def Plan.result? {α : Type} : Plan α → Option α
  | done a => some a
  | call _ _ => none

structure Host (σ ν ο : Type) where
  /-- The answer to a call from this place, given a verdict on it. -/
  answer : Nat → ν → (c : Call) → σ → c.Answer × σ
  happen : ο → σ → σ

structure Crowd (σ α : Type) where
  shared : σ
  plans : List (Plan α)

namespace Crowd

inductive Turn (ν ο : Type)
  /-- The plan at this place makes its next call. -/
  | call (place : Nat) (verdict : ν)
  | happen (event : ο)

variable {σ ν ο α : Type} (host : Host σ ν ο)

def act (s : Crowd σ α) : Turn ν ο → Option (Crowd σ α)
  | .call i verdict =>
    match s.plans[i]? with
    | some (.call c next) =>
      let (reply, shared) := host.answer i verdict c s.shared
      some ⟨shared, s.plans.set i (next reply)⟩
    | _ => none
  | .happen event => some { s with shared := host.happen event s.shared }

def run (s : Crowd σ α) : List (Turn ν ο) → Option (Crowd σ α)
  | [] => some s
  | turn :: schedule =>
    match s.act host turn with
    | some s => s.run schedule
    | none => none

def isOver (s : Crowd σ α) : Bool := s.plans.all (·.result?.isSome)

theorem exists_results {s : Crowd σ α} (ended : s.isOver = true) :
    ∃ results : List α, s.plans = results.map .done := by
  obtain ⟨shared, plans⟩ := s
  induction plans with
  | nil => exact ⟨[], rfl⟩
  | cons p plans ih =>
    obtain ⟨hp, hplans⟩ := (Bool.and_eq_true _ _).mp ended
    obtain ⟨results, hresults⟩ := ih hplans
    cases p with
    | done a => exact ⟨a :: results, congrArg _ hresults⟩
    | call c next => cases hp

/-- The plans can be carried out to their ends so that this is left and they have these results. -/
def Ends (s : Crowd σ α) (x : σ) (results : List α) : Prop :=
  ∃ schedule, s.run host schedule = some ⟨x, results.map .done⟩

variable {host} {s t : Crowd σ α}

theorem run_append {schedule more : List (Turn ν ο)} (run : s.run host schedule = some t) :
    s.run host (schedule ++ more) = t.run host more := by
  induction schedule generalizing s with
  | nil =>
    cases run
    rfl
  | cons turn schedule ih =>
    simp only [Crowd.run, List.cons_append] at run ⊢
    split at run
    · exact ih run
    · cases run

theorem exists_run_plan (host : Host σ ν ο) (verdict : ν) (p : Plan α)
    (before after : List (Plan α)) (x : σ) : ∃ schedule y a,
      Crowd.run host ⟨x, before ++ p :: after⟩ schedule = some ⟨y, before ++ .done a :: after⟩ := by
  induction p generalizing x with
  | done a => exact ⟨[], x, a, rfl⟩
  | call c next ih =>
    obtain ⟨schedule, y, a, hrun⟩ := ih (host.answer before.length verdict c x).1
      (host.answer before.length verdict c x).2
    refine ⟨.call before.length verdict :: schedule, y, a, ?_⟩
    simp [Crowd.run, act, hrun]

theorem exists_ends (host : Host σ ν ο) (verdict : ν) (plans : List (Plan α)) (x : σ) :
    ∃ y results, Ends host ⟨x, plans⟩ y results := by
  have onward (ended : List α) : ∃ schedule y results,
      Crowd.run host ⟨x, ended.map .done ++ plans⟩ schedule = some ⟨y, List.map .done results⟩ := by
    induction plans generalizing x ended with
    | nil => exact ⟨[], x, ended, by rw [List.append_nil]; rfl⟩
    | cons p plans ih =>
      obtain ⟨schedule, y, a, hrun⟩ := exists_run_plan host verdict p (ended.map .done) plans x
      obtain ⟨more, z, results, hmore⟩ := ih y (ended ++ [a])
      rw [List.map_append, List.append_assoc] at hmore
      exact ⟨schedule ++ more, z, results, (run_append hrun).trans hmore⟩
  obtain ⟨schedule, y, results, hrun⟩ := onward []
  exact ⟨y, results, schedule, hrun⟩

end Crowd

structure Machine (τ α : Type) where
  move : τ → Move τ α
  plan : τ → Plan α
  plan_eq : ∀ s, plan s = (move s).plan plan
  /-- Every move without a call lowers it. -/
  effort : τ → Nat
  effort_lt : ∀ {s next : τ}, move s = .go next → effort next < effort s

namespace Machine

variable {σ ν ο τ α : Type} (m : Machine τ α)

def Rests (t : τ) : Prop := ∀ next, m.move t ≠ .go next

variable {m} {t : τ}

theorem ask_of_rests (rests : m.Rests t) {c : Call} {next : c.Answer → Plan α}
    (calls : m.plan t = .call c next) :
    ∃ goes : c.Answer → τ, m.move t = .ask c goes ∧
      ∀ answer, m.plan (goes answer) = next answer := by
  rw [m.plan_eq] at calls
  cases hmove : m.move t with
  | go u => exact absurd hmove (rests u)
  | ask d goes =>
    rw [hmove] at calls
    cases calls
    exact ⟨goes, rfl, fun _ => rfl⟩
  | halt result =>
    rw [hmove] at calls
    cases calls

theorem halt_of_rests (rests : m.Rests t) {result : α} (done : m.plan t = .done result) :
    m.move t = .halt result := by
  rw [m.plan_eq] at done
  cases hmove : m.move t with
  | go u => exact absurd hmove (rests u)
  | ask d goes =>
    rw [hmove] at done
    cases done
  | halt other =>
    rw [hmove] at done
    cases done
    rfl

theorem set_eq_self {β : Type} {l : List β} {i : Nat} {b : β} (at_ : l[i]? = some b) :
    l.set i b = l := by
  obtain ⟨hlt, rfl⟩ := List.getElem?_eq_some_iff.mp at_
  exact List.set_getElem_self hlt

theorem map_set_of_eq {β γ : Type} {l : List β} {i : Nat} {b b' : β} (f : β → γ)
    (at_ : l[i]? = some b) (same : f b' = f b) : (l.set i b').map f = l.map f := by
  rw [List.map_set, same]
  exact set_eq_self (by rw [List.getElem?_map, at_]; rfl)

theorem getElem?_set_cases {β : Type} {l : List β} {i j : Nat} {b u : β}
    (at_ : (l.set i b)[j]? = some u) : j = i ∧ u = b ∨ j ≠ i ∧ l[j]? = some u := by
  rw [List.getElem?_set] at at_
  split at at_
  · rename_i hij
    split at at_
    · exact .inl ⟨hij.symm, (Option.some.inj at_).symm⟩
    · cases at_
  · rename_i hij
    exact .inr ⟨fun h => hij h.symm, at_⟩

structure Keeps (m : Machine τ α) (host : Host σ ν ο) (P : σ → List τ → Prop) : Prop where
  go : ∀ {x : σ} {ts : List τ} {i : Nat} {t next : τ}, P x ts → ts[i]? = some t →
    m.move t = .go next → P x (ts.set i next)
  ask : ∀ {x : σ} {ts : List τ} {i : Nat} {t : τ} {c : Call} {next : c.Answer → τ}, P x ts →
    ts[i]? = some t → m.move t = .ask c next → ∀ verdict,
      P (host.answer i verdict c x).2 (ts.set i (next (host.answer i verdict c x).1))
  happen : ∀ {x : σ} {ts : List τ}, P x ts → ∀ event, P (host.happen event x) ts

namespace Keeps

variable {host : Host σ ν ο} {P : σ → List τ → Prop} {x : σ} {ts : List τ} {i : Nat}

theorem rest_at (h : m.Keeps host P) (holds : P x ts) (at_ : ts[i]? = some t) :
    ∃ u, P x (ts.set i u) ∧ m.plan u = m.plan t ∧ m.Rests u := by
  induction he : m.effort t using Nat.strongRecOn generalizing ts t with
  | ind e ih =>
    by_cases rests : m.Rests t
    · refine ⟨t, ?_, rfl, rests⟩
      rw [set_eq_self at_]
      exact holds
    · obtain ⟨next, hmove⟩ : ∃ next, m.move t = .go next := by
        simpa [Rests] using rests
      have hat : (ts.set i next)[i]? = some next :=
        List.getElem?_set_self (List.getElem?_eq_some_iff.mp at_).1
      have hlt : m.effort next < e := he ▸ m.effort_lt hmove
      obtain ⟨u, hu, hplan, hrests⟩ := ih _ hlt (h.go holds at_ hmove) hat rfl
      rw [List.set_set] at hu
      refine ⟨u, hu, hplan.trans ?_, hrests⟩
      rw [m.plan_eq t, hmove]
      rfl

theorem call (h : m.Keeps host P) (holds : P x ts) {c : Call} {next : c.Answer → Plan α}
    (calls : (ts.map m.plan)[i]? = some (.call c next)) (verdict : ν) :
    ∃ ts', P (host.answer i verdict c x).2 ts' ∧
      ts'.map m.plan = (ts.map m.plan).set i (next (host.answer i verdict c x).1) := by
  rw [List.getElem?_map] at calls
  obtain ⟨t, at_, hplan⟩ := Option.map_eq_some_iff.mp calls
  obtain ⟨u, hu, hsame, hrests⟩ := h.rest_at holds at_
  obtain ⟨goes, hmove, hgoes⟩ := ask_of_rests hrests (hsame.trans hplan)
  have hat : (ts.set i u)[i]? = some u :=
    List.getElem?_set_self (List.getElem?_eq_some_iff.mp at_).1
  refine ⟨_, h.ask hu hat hmove verdict, ?_⟩
  rw [List.set_set, List.map_set, hgoes]

/-- What the moves keep, a run keeps: the plans of its end are those of members for which it
holds. -/
theorem run (h : m.Keeps host P) {schedule : List (Crowd.Turn ν ο)} {s : Crowd σ α}
    (holds : P x ts) (run : Crowd.run host ⟨x, ts.map m.plan⟩ schedule = some s) :
    ∃ ts', P s.shared ts' ∧ s.plans = ts'.map m.plan := by
  induction schedule generalizing x ts with
  | nil =>
    cases run
    exact ⟨ts, holds, rfl⟩
  | cons turn schedule ih =>
    cases turn with
    | call i verdict =>
      simp only [Crowd.run, Crowd.act] at run
      split at run
      · rename_i hact
        split at hact
        · rename_i c next calls
          cases hact
          obtain ⟨ts', hts', hplans⟩ := h.call holds calls verdict
          rw [← hplans] at run
          exact ih hts' run
        · cases hact
      · cases run
    | happen event => exact ih (h.happen holds event) run

theorem rest (h : m.Keeps host P) (holds : P x ts) :
    ∃ ts', P x ts' ∧ ts'.map m.plan = ts.map m.plan ∧ ∀ t ∈ ts', m.Rests t := by
  -- place by place, from the first on
  have upTo (k : Nat) : ∃ ts', P x ts' ∧ ts'.map m.plan = ts.map m.plan ∧
      ∀ i t, i < k → ts'[i]? = some t → m.Rests t := by
    induction k with
    | zero => exact ⟨ts, holds, rfl, fun i t hi => absurd hi (Nat.not_lt_zero i)⟩
    | succ k ih =>
      obtain ⟨ts', hts', hplans, hrests⟩ := ih
      cases hat : ts'[k]? with
      | none =>
        refine ⟨ts', hts', hplans, fun i t hi hit => ?_⟩
        rcases Nat.lt_succ_iff_lt_or_eq.mp hi with hi | rfl
        · exact hrests i t hi hit
        · rw [hat] at hit
          cases hit
      | some t =>
        obtain ⟨u, hu, hsame, hurests⟩ := h.rest_at hts' hat
        refine ⟨ts'.set k u, hu, ?_, fun i v hi hiv => ?_⟩
        · rw [map_set_of_eq m.plan hat hsame, hplans]
        · rcases getElem?_set_cases hiv with ⟨-, rfl⟩ | ⟨hne, hiv⟩
          · exact hurests
          · exact hrests i v (Nat.lt_of_le_of_ne (Nat.lt_succ_iff.mp hi) hne) hiv
  obtain ⟨ts', hts', hplans, hrests⟩ := upTo ts.length
  refine ⟨ts', hts', hplans, fun t ht => ?_⟩
  obtain ⟨i, hi⟩ := List.getElem?_of_mem ht
  have hlt := (List.getElem?_eq_some_iff.mp hi).1
  have hlength : ts'.length = ts.length := by
    simpa using congrArg List.length hplans
  exact hrests i t (hlength ▸ hlt) hi

theorem run_to_end (h : m.Keeps host P) {schedule : List (Crowd.Turn ν ο)} {s : Crowd σ α}
    {results : List α} (holds : P x ts)
    (run : Crowd.run host ⟨x, ts.map m.plan⟩ schedule = some s)
    (ended : s.plans = results.map .done) :
    ∃ ts', P s.shared ts' ∧ ts'.map m.move = results.map .halt := by
  obtain ⟨ts', hts', hplans⟩ := h.run holds run
  obtain ⟨ts', hts', hsame, hrests⟩ := h.rest hts'
  refine ⟨ts', hts', List.ext_getElem? fun i => ?_⟩
  have hi : (ts'.map m.plan)[i]? = (results.map .done)[i]? := by
    rw [hsame, ← hplans, ended]
  rw [List.getElem?_map, List.getElem?_map] at hi ⊢
  cases at_ : ts'[i]? with
  | none =>
    rw [at_] at hi
    rw [Option.map_eq_none_iff.mp hi.symm]
    rfl
  | some t =>
    rw [at_] at hi
    obtain ⟨result, hresult, hdone⟩ := Option.map_eq_some_iff.mp hi.symm
    have hmove := halt_of_rests (hrests t (List.mem_of_getElem? at_)) hdone.symm
    rw [hresult]
    exact congrArg some hmove

theorem single {Q : σ → τ → Prop}
    (go : ∀ {x : σ} {t next : τ}, Q x t → m.move t = .go next → Q x next)
    (ask : ∀ {x : σ} {t : τ} {c : Call} {next : c.Answer → τ}, Q x t → m.move t = .ask c next →
      ∀ verdict, Q (host.answer 0 verdict c x).2 (next (host.answer 0 verdict c x).1))
    (happen : ∀ {x : σ} {t : τ}, Q x t → ∀ event, Q (host.happen event x) t) :
    m.Keeps host fun x ts => ∃ t, ts = [t] ∧ Q x t where
  go := by
    rintro x _ i t next ⟨u, rfl, hu⟩ at_ hmove
    cases i with
    | zero =>
      cases at_
      exact ⟨next, rfl, go hu hmove⟩
    | succ i => cases at_
  ask := by
    rintro x _ i t c next ⟨u, rfl, hu⟩ at_ hmove verdict
    cases i with
    | zero =>
      cases at_
      exact ⟨_, rfl, ask hu hmove verdict⟩
    | succ i => cases at_
  happen := by
    rintro x _ ⟨u, rfl, hu⟩ event
    exact ⟨u, rfl, happen hu event⟩

end Keeps

end Machine

end CatalogIntake
