import CatalogIntake.Proofs.Pool.Step

namespace CatalogIntake

namespace Stage

/-- How many steps are left at most until the chunk is settled and, if it is given back, in the
buffer again. -/
def remaining (chunk : Chunk) : Stage → Nat
  | loading => chunk.records.length + 11
  | loaded _ => chunk.records.length + 10
  | bulk mapped _ => mapped.length + 9
  | single _ _ rest => rest.length + 8
  | logging _ => 7
  | counting _ => 6
  | checking _ => 5
  | confirming _ => 4
  | settled _ => 3

variable {chunk : Chunk} {stage next : Stage}

theorem Goes.remaining_lt (h : Goes chunk stage next) :
    next.remaining chunk < stage.remaining chunk := by
  cases h with
  | mapped =>
    have hlength := mapRecords_length chunk.jobId chunk.records
    simp only [remaining]
    omega
  | turnedAway _ | nothingMapped | allTried | nothingToLog _ =>
    simp only [remaining]
    omega

theorem Asks.remaining_lt {c : Call} {answer : c.Answer} (h : Asks chunk stage c answer next) :
    next.remaining chunk < stage.remaining chunk := by
  cases h <;> simp only [remaining, List.length_cons] <;> omega

end Stage

def Parcel.effort (q : Parcel) : Nat :=
  (Bus.maxAttempts - q.delivery.attempts).toNat * (q.delivery.chunk.records.length + 12)

theorem Parcel.effort_again {q : Parcel} (few : q.delivery.attempts < Bus.maxAttempts) :
    q.again.effort + (q.delivery.chunk.records.length + 12) = q.effort := by
  have hone : (Bus.maxAttempts - q.delivery.attempts).toNat =
      (Bus.maxAttempts - q.again.delivery.attempts).toNat + 1 := by
    rw [Parcel.attempts_again]
    omega
  unfold Parcel.effort
  rw [hone, Parcel.chunk_again, Nat.succ_mul]

namespace Traffic

def effort (t : Traffic) : Nat :=
  (t.waiting.map Parcel.effort).sum + t.line.length + 2 * t.returning.length

variable {t t' : Traffic} {q : Parcel} (labelled : t.Labelled)

include labelled in
theorem effort_handOut (accounts : t.Accounts) (leaves : t.handOut? = some (q, t')) :
    t'.effort + q.effort + (q.delivery.chunk.records.length + 12) = t.effort := by
  obtain ⟨-, first, rfl, change⟩ := labelled_handOut labelled leaves
  have hplaces : t'.line = t.line ∧ t'.returning = t.returning := by
    constructor <;> grind [handOut?]
  have hfirst : first ∈ t.waiting := change.waiting.mem_iff.mpr List.mem_cons_self
  have hfew : first.delivery.attempts < Bus.maxAttempts := by
    have hcount := accounts.waiting first hfirst
    rw [accounts.attempts first (List.mem_append_left _ hfirst), Bus.maxAttempts]
    omega
  have hagain := Parcel.effort_again hfew
  unfold effort
  rw [hplaces.1, hplaces.2, (change.waiting.map _).sum_eq, List.map_cons, List.sum_cons,
    Parcel.chunk_again]
  omega

include labelled in
theorem effort_settle {acknowledges : Bool} (settles : t.settle? q acknowledges = some t') :
    t'.effort ≤ t.effort + q.effort + 2 := by
  obtain ⟨-, change⟩ := labelled_settle labelled settles
  have hplaces : t'.line = t.line ∧ t'.returning.length ≤ t.returning.length + 1 := by
    constructor <;> grind [settle?]
  have hwaiting : (t'.waiting.map Parcel.effort).sum ≤
      (t.waiting.map Parcel.effort).sum + q.effort := by
    cases change.given with
    | acked _ waiting | dropped _ _ waiting =>
      rw [waiting]
      omega
    | returned _ _ waiting =>
      rw [(waiting.map _).sum_eq, List.map_cons, List.sum_cons]
      omega
  unfold effort
  rw [hplaces.1]
  omega

include labelled in
theorem effort_resend (sends : t.resend? q = some t') : t'.effort < t.effort := by
  obtain ⟨-, change⟩ := labelled_resend labelled sends
  have hplaces : t'.line.length + 2 * t'.returning.length <
      t.line.length + 2 * t.returning.length := by
    grind [resend?]
  unfold effort
  rw [(change.waiting.map _).sum_eq]
  omega

include labelled in
theorem effort_letIn {place : Nat} (enters : t.letIn? place = some t') : t'.effort < t.effort := by
  obtain ⟨-, change⟩ := labelled_letIn labelled enters
  have hplaces : t'.line.length < t.line.length ∧ t'.returning = t.returning := by
    constructor <;> grind [letIn?]
  unfold effort
  rw [(change.waiting.map _).sum_eq, hplaces.2]
  omega

theorem Stocked.effort_le {capacity : Nat} {chunks : List Chunk} (h : t.Stocked capacity chunks) :
    t.effort ≤ (chunks.map fun c => 5 * (c.records.length + 12)).sum + chunks.length := by
  let cost (n : Nat) : Nat := (chunks[n]?.map fun c => 5 * (c.records.length + 12)).getD 0
  have hdropped : t.dropped = [] := by
    apply List.eq_nil_iff_forall_not_mem.mpr
    intro n hn
    have hfive := h.accounts.dropped n hn
    rw [h.handedOut] at hfive
    cases hfive
  have hparcels : t.parcels = t.waiting := by
    rw [parcels, h.held, List.append_nil]
  have hnumbers : (t.waiting.map (·.number)).Perm (List.range chunks.length) := by
    have hplaces := h.accounts.places
    rw [hparcels, settled, h.acked, hdropped, h.accepted, List.append_nil, List.append_nil]
      at hplaces
    exact hplaces
  have hcost : ∀ q ∈ t.waiting, q.effort = cost q.number := by
    intro q hq
    rw [← hparcels] at hq
    have hattempts := h.accounts.attempts q hq
    have hchunk := h.accounts.chunks q hq
    rw [h.handedOut, List.count_nil] at hattempts
    rw [h.accepted] at hchunk
    simp [cost, hchunk, Parcel.effort, hattempts, Bus.maxAttempts]
  have hwaiting : (t.waiting.map Parcel.effort).sum =
      (chunks.map fun c => 5 * (c.records.length + 12)).sum := by
    calc
      (t.waiting.map Parcel.effort).sum = ((t.waiting.map (·.number)).map cost).sum := by
        rw [List.map_map, List.map_congr_left hcost]
        rfl
      _ = ((List.range chunks.length).map cost).sum := (hnumbers.map cost).sum_eq
      _ = (chunks.map fun c => 5 * (c.records.length + 12)).sum := by
        congr 1
        apply List.ext_getElem
        · simp
        · intro n hn hn'
          have hlt : n < chunks.length := by simpa using hn'
          simp [cost, List.getElem?_eq_getElem hlt]
  have hline : t.line.length ≤ chunks.length := by
    have hlength := hnumbers.length_eq
    simp only [waiting, List.length_map, List.length_append, List.length_range] at hlength
    omega
  unfold effort
  rw [hwaiting, h.returning, List.length_nil]
  omega

end Traffic

namespace Pool

def Duty.effort : Duty → Nat
  | .idle => 1
  | .busy q stage => q.effort + stage.remaining q.delivery.chunk + 1
  | .gone => 0

def effort (p : Pool) : Nat := p.traffic.effort + (p.workers.map (·.duty.effort)).sum

variable {a : Action} {p p' : Pool} {j : Nat} {w : Worker} {chunks : List Chunk}

theorem effort_opening_le (world : Concurrency.World) (capacity : Nat) (chunks : List Chunk)
    (size : Nat) : (opening world capacity chunks size).effort ≤
      (chunks.map fun c => 5 * (c.records.length + 12)).sum + chunks.length + max size 1 := by
  have hworkers : (opening world capacity chunks size).workers.map (·.duty.effort) =
      List.replicate (max size 1) 1 := List.map_replicate
  have htraffic := (Traffic.stocked_kept capacity chunks).effort_le
  unfold effort
  rw [hworkers, List.sum_replicate_nat, Nat.mul_one]
  exact Nat.add_le_add_right htraffic _

theorem Step.effort (step : Step p a p') (sound : p.Sound chunks) :
    a.isOwn = true ∧ p'.effort < p.effort ∨ a.isOwn = false ∧ p'.effort = p.effort := by
  -- a worker goes from one duty to another, and the bus to `t`
  have lowers {w w' : Worker} {j : Nat} {p' : Pool} (t : Traffic) (at_ : p.workers[j]? = some w)
      (workers : p'.workers = (p.setWorker j w').workers) (traffic : p'.traffic = t)
      (less : t.effort + w'.duty.effort < p.traffic.effort + w.duty.effort) :
      p'.effort < p.effort := by
    have hset := sum_setWorker (·.duty.effort) at_ w'
    unfold Pool.effort
    rw [workers, traffic]
    omega
  cases step with
  | @received j w q t at_ idle leaves =>
    refine .inl ⟨rfl, lowers t at_ rfl rfl ?_⟩
    have htraffic := Traffic.effort_handOut sound.labelled sound.accounts leaves
    rw [idle]
    simp only [Duty.effort, Stage.remaining]
    omega
  | left at_ idle _ =>
    refine .inl ⟨rfl, lowers p.traffic at_ rfl rfl ?_⟩
    rw [idle]
    simp only [Duty.effort]
    omega
  | thought at_ busy goes =>
    refine .inl ⟨rfl, lowers p.traffic at_ rfl rfl ?_⟩
    have hless := goes.remaining_lt
    rw [busy]
    simp only [Duty.effort]
    omega
  | handled at_ busy asks =>
    refine .inl ⟨rfl, lowers p.traffic at_ rfl (traffic_handle _ _) ?_⟩
    have hless := asks.remaining_lt
    rw [busy]
    simp only [Duty.effort]
    omega
  | @finished j w q result t at_ busy settles =>
    refine .inl ⟨rfl, lowers t at_ rfl rfl ?_⟩
    have htraffic := Traffic.effort_settle sound.labelled settles
    rw [busy]
    simp only [Duty.effort, Stage.remaining]
    omega
  | resent sends =>
    exact .inl ⟨rfl, Nat.add_lt_add_right (Traffic.effort_resend sound.labelled sends) _⟩
  | letIn enters =>
    exact .inl ⟨rfl, Nat.add_lt_add_right (Traffic.effort_letIn sound.labelled enters) _⟩
  | cancelled id => exact .inr ⟨rfl, rfl⟩
  | supplied supply available =>
    cases supply <;> exact .inr ⟨rfl, rfl⟩
  | waited now => exact .inr ⟨rfl, rfl⟩

/-- However long a schedule is, the workers and the bus take only so many steps in it. -/
theorem countP_isOwn_le {schedule : List Action} (sound : p.Sound chunks)
    (reached : p.run schedule = some p') :
    schedule.countP (·.isOwn) + p'.effort ≤ p.effort := by
  -- a step of their own lowers the effort, and no other step raises it
  induction schedule generalizing p with
  | nil =>
    obtain rfl := Option.some.inj reached
    simp
  | cons a schedule ih =>
    obtain ⟨next, acts, rest⟩ := Option.bind_eq_some_iff.mp reached
    have step := step_of_act acts
    have hrest := ih (sound.step step) rest
    rw [List.countP_cons]
    rcases step.effort sound with ⟨hown, hless⟩ | ⟨hown, hsame⟩
    · rw [hown, if_pos rfl]
      omega
    · rw [hown, if_neg Bool.false_ne_true]
      omega

end Pool

end CatalogIntake
