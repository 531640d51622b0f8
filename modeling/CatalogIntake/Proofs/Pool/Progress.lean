import CatalogIntake.Proofs.Pool.Step

namespace CatalogIntake

namespace Traffic

variable {t t' : Traffic} {q : Parcel}

theorem exists_handOut (labelled : t.Labelled) (accounts : t.Accounts) (filled : t.buffer ≠ []) :
    ∃ q t', t.handOut? = some (q, t') := by
  obtain ⟨first, rest, hbuffer⟩ := List.exists_cons_of_ne_nil filled
  have hbus := labelled.buffer
  rw [hbuffer, List.map_cons] at hbus
  have houtstanding : t.bus.outstanding ≠ 0 := by
    rw [accounts.outstanding]
    simp [parcels, waiting, hbuffer]
  have hmore : ¬t.bus.isDrained = true := by
    rw [Bus.isDrained_iff]
    exact fun h => houtstanding h.2
  unfold handOut? Bus.handOut
  rw [if_neg hmore, hbus, hbuffer]
  exact ⟨_, _, rfl⟩

theorem exists_settle (held : q ∈ t.held) (acknowledges : Bool) :
    ∃ t', t.settle? q acknowledges = some t' := by
  unfold settle? Bus.giveBack
  rw [if_pos held]
  cases acknowledges with
  | true => exact ⟨_, rfl⟩
  | false =>
    by_cases hlast : q.delivery.attempts ≥ Bus.maxAttempts
    · rw [if_pos hlast]
      exact ⟨_, rfl⟩
    · rw [if_neg hlast]
      exact ⟨_, rfl⟩

theorem exists_resend (returning : q ∈ t.returning) : ∃ t', t.resend? q = some t' := by
  unfold resend?
  rw [if_pos returning]
  cases t.bus.hasRoom with
  | true => exact ⟨_, rfl⟩
  | false => exact ⟨_, rfl⟩

theorem exists_letIn (labelled : t.Labelled) (capacity : 0 < t.bus.capacity)
    (empty : t.buffer = []) (somebody : t.line ≠ []) : ∃ t', t.letIn? 0 = some t' := by
  obtain ⟨first, rest, hline⟩ := List.exists_cons_of_ne_nil somebody
  have hbuffer := labelled.buffer
  have hbus := labelled.line
  rw [empty] at hbuffer
  rw [hline, List.map_cons] at hbus
  have hroom : t.bus.buffer.length + 0 < t.bus.capacity := by
    rw [hbuffer]
    exact capacity
  unfold letIn? Bus.letInAt
  rw [hbus, hline, List.getElem?_cons_zero, List.getElem?_cons_zero]
  dsimp only
  rw [if_pos hroom]
  exact ⟨_, rfl⟩

end Traffic

namespace Pool

variable {a : Action} {p p' : Pool} {j : Nat} {w : Worker} {chunks : List Chunk}

theorem exists_step_of_busy {q : Parcel} {stage : Stage} (sound : p.Sound chunks)
    (at_ : p.workers[j]? = some w) (busy : w.duty = .busy q stage) :
    ∃ p', p.act (.work j) = some p' := by
  simp only [act, at_, moveWorker, busy]
  cases stage.move q.delivery.chunk with
  | go next => exact ⟨_, rfl⟩
  | ask c next => exact ⟨_, rfl⟩
  | halt result =>
    obtain ⟨t, ht⟩ := Traffic.exists_settle (sound.mem_held at_ busy) (acknowledges result)
    exact ⟨_, congrArg (Option.map (p.finish j w q result)) ht⟩

theorem exists_step_of_idle (at_ : p.workers[j]? = some w) (idle : w.duty = .idle)
    (ready : (∃ q t, p.traffic.handOut? = some (q, t)) ∨ p.world.bus.isDrained = true) :
    ∃ p', p.act (.work j) = some p' := by
  simp only [act, at_, moveWorker, idle]
  cases hleaves : p.traffic.handOut? with
  | some result => exact ⟨_, rfl⟩
  | none =>
    rcases ready with ⟨q, t, hsome⟩ | hdrained
    · rw [hleaves] at hsome
      cases hsome
    · rw [hdrained]
      exact ⟨_, rfl⟩

/-- With nothing in the hands of workers, a chunk is in the buffer, or the bus can bring one there,
or nothing is left. -/
theorem exists_step_of_unheld (sound : p.Sound chunks) (unheld : p.held = []) :
    (∃ a p', a.isOwn = true ∧ p.act a = some p') ∨
      (∃ q t, p.traffic.handOut? = some (q, t)) ∨ p.world.bus.isDrained = true := by
  have hheld : p.traffic.held = [] := by
    have hperm := sound.held
    rw [unheld] at hperm
    exact hperm.symm.eq_nil
  by_cases hbuffer : p.traffic.buffer = []
  · by_cases hline : p.traffic.line = []
    · cases hreturning : p.traffic.returning with
      | nil =>
        have houtstanding : p.world.bus.outstanding = 0 := by
          refine sound.accounts.outstanding.trans ?_
          simp [Traffic.parcels, Traffic.waiting, hbuffer, hline, hreturning, hheld]
        exact .inr (.inr (Bus.isDrained_iff.mpr ⟨sound.closed, houtstanding⟩))
      | cons q rest =>
        have hmem : q ∈ p.traffic.returning := by simp [hreturning]
        obtain ⟨t, ht⟩ := Traffic.exists_resend hmem
        exact .inl ⟨.resend q, p.setTraffic t, rfl, congrArg (Option.map p.setTraffic) ht⟩
    · obtain ⟨t, ht⟩ := Traffic.exists_letIn sound.labelled sound.capacity hbuffer hline
      exact .inl ⟨.letIn 0, p.setTraffic t, rfl, congrArg (Option.map p.setTraffic) ht⟩
  · exact .inr (.inl (Traffic.exists_handOut sound.labelled sound.accounts hbuffer))

theorem exists_own_step (sound : p.Sound chunks) (atWork : ∃ w ∈ p.workers, w.duty ≠ .gone) :
    ∃ a p', a.isOwn = true ∧ p.act a = some p' := by
  by_cases hbusy : ∃ (j : Nat) (w : Worker) (q : Parcel) (stage : Stage),
      p.workers[j]? = some w ∧ w.duty = .busy q stage
  · obtain ⟨j, w, q, stage, at_, busy⟩ := hbusy
    obtain ⟨p', acts⟩ := exists_step_of_busy sound at_ busy
    exact ⟨.work j, p', rfl, acts⟩
  · obtain ⟨w, hw, hwork⟩ := atWork
    obtain ⟨j, at_⟩ := List.mem_iff_getElem?.mp hw
    have hidle : w.duty = .idle := by
      cases hduty : w.duty with
      | idle => rfl
      | busy q stage => exact absurd ⟨j, w, q, stage, at_, hduty⟩ hbusy
      | gone => exact absurd hduty hwork
    have hunheld : p.held = [] := by
      apply List.filterMap_eq_nil_iff.mpr
      intro v hv
      obtain ⟨k, hk⟩ := List.mem_iff_getElem?.mp hv
      cases hduty : v.duty with
      | busy q stage => exact absurd ⟨k, v, q, stage, hk, hduty⟩ hbusy
      | idle | gone => rfl
    rcases exists_step_of_unheld sound hunheld with hstep | hready
    · exact hstep
    · obtain ⟨p', acts⟩ := exists_step_of_idle at_ hidle hready
      exact ⟨.work j, p', rfl, acts⟩

def Ended (p : Pool) : Prop := ∀ w ∈ p.workers, w.duty = .gone → p.world.bus.outstanding = 0

theorem outstanding_le (sound : p.Sound chunks) (step : Step p a p') :
    p'.world.bus.outstanding ≤ p.world.bus.outstanding := by
  cases step with
  | received _ _ leaves =>
    obtain ⟨-, first, -, change⟩ := Traffic.labelled_handOut sound.labelled leaves
    exact change.outstanding.le
  | @handled j w q stage c next _ _ _ =>
    have htraffic : (p.handle j w q c next).traffic = p.traffic := traffic_handle c next
    exact (congrArg (fun t => t.bus.outstanding) htraffic).le
  | finished _ _ settles =>
    obtain ⟨-, change⟩ := Traffic.labelled_settle sound.labelled settles
    cases change.given with
    | acked _ _ outstanding | dropped _ _ _ outstanding =>
      exact outstanding.le.trans (Nat.sub_le _ _)
    | returned _ _ _ outstanding => exact outstanding.le
  | resent sends =>
    obtain ⟨-, change⟩ := Traffic.labelled_resend sound.labelled sends
    exact change.outstanding.le
  | letIn enters =>
    obtain ⟨-, change⟩ := Traffic.labelled_letIn sound.labelled enters
    exact change.outstanding.le
  | supplied supply available => cases supply <;> exact Nat.le_refl _
  | left _ _ _ | thought _ _ _ | cancelled _ | waited _ => exact Nat.le_refl _

theorem Ended.step (h : p.Ended) (sound : p.Sound chunks) (step : Step p a p') : p'.Ended := by
  have hless := outstanding_le sound step
  have hold {w : Worker} (hw : w ∈ p.workers) (gone : w.duty = .gone) :
      p'.world.bus.outstanding = 0 := by
    have hzero := h w hw gone
    omega
  -- a worker who has not left now
  have hstays {j : Nat} {w' : Worker} (workers : p'.workers = (p.setWorker j w').workers)
      (stays : w'.duty ≠ .gone) : p'.Ended := by
    intro w hw gone
    rw [workers] at hw
    rcases List.mem_or_eq_of_mem_set hw with hw | rfl
    · exact hold hw gone
    · exact absurd gone stays
  cases step with
  | received _ _ _ => exact hstays rfl (by simp)
  | left _ _ drained => exact fun _ _ _ => (Bus.isDrained_iff.mp drained).2
  | thought _ _ _ => exact hstays rfl (by simp)
  | handled _ _ _ => exact hstays rfl (by simp)
  | finished _ _ _ => exact hstays rfl (by simp)
  | resent _ | letIn _ | cancelled _ | waited _ => exact fun w hw gone => hold hw gone
  | supplied supply available => cases supply <;> exact fun w hw gone => hold hw gone

theorem ended_opening (world : Concurrency.World) (capacity : Nat) (chunks : List Chunk)
    (size : Nat) : (opening world capacity chunks size).Ended := by
  intro w hw gone
  rw [List.eq_of_mem_replicate hw] at gone
  cases gone

end Pool

end CatalogIntake
