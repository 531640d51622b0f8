import CatalogIntake.Pipeline.Worker
import Mathlib.Data.List.Perm.Basic

namespace CatalogIntake.Bus

def settleWith (bus : Bus) (d : Delivery) (result : Outcome ChunkOutcome) : Bus :=
  match Settlement.of result with
  | .ack => bus.ack
  | .nack _ => bus.nack d

def deliveries (bus : Bus) : List Delivery := bus.buffer ++ bus.line.map (·.delivery)

variable {bus next : Bus} {ticket : Nat} {chunk : Chunk} {d : Delivery} {w : Waiting}
  {admission : Admission}

theorem line_eq_nil_of_hasRoom (h : bus.hasRoom = true) : bus.line = [] := by
  unfold hasRoom at h
  rw [Bool.and_eq_true, List.isEmpty_iff] at h
  exact h.1

/-- Whether there is room or not, a delivery that enters is the last to be handed out. -/
@[simp] theorem deliveries_enter :
    (bus.enter w).deliveries = bus.deliveries ++ [w.delivery] := by
  unfold enter deliveries
  split
  · rename_i h
    simp [line_eq_nil_of_hasRoom h]
  · simp

@[simp] theorem outstanding_enter : (bus.enter w).outstanding = bus.outstanding := by
  unfold enter
  split <;> rfl

@[simp] theorem closed_enter : (bus.enter w).closed = bus.closed := by
  unfold enter
  split <;> rfl

/-- A publish is turned away, or the chunk is on the bus and counts as outstanding. -/
theorem publish_cases (h : bus.publish ticket chunk = (admission, next)) :
    (admission = .refused ∧ bus.closed = true ∧ next = bus) ∨
      (admission ≠ .refused ∧ bus.closed = false ∧ next.closed = false ∧
        next.deliveries = bus.deliveries ++ [⟨none, 0, chunk⟩] ∧
        next.outstanding = bus.outstanding + 1) := by
  unfold publish at h
  split at h
  · rename_i hclosed
    cases h
    exact .inl ⟨rfl, hclosed, rfl⟩
  · rename_i hclosed
    have hopen : bus.closed = false := by simpa using hclosed
    obtain ⟨rfl, rfl⟩ := Prod.mk.inj h
    refine .inr ⟨?_, hopen, ?_, ?_, ?_⟩
    · split <;> exact fun h => nomatch h
    · rw [closed_enter]
      exact hopen
    · rw [deliveries_enter]
      rfl
    · rw [outstanding_enter]

/-- Letting in the first of the line changes nothing in the order of the deliveries. -/
theorem deliveries_letIn (bus : Bus) : bus.letIn.2.deliveries = bus.deliveries := by
  unfold letIn deliveries
  cases hline : bus.line with
  | nil => simp [hline]
  | cons first rest =>
    simp only
    split
    · simp
    · simp [hline]

theorem outstanding_letIn (bus : Bus) : bus.letIn.2.outstanding = bus.outstanding := by
  unfold letIn
  split
  · split <;> rfl
  · rfl

theorem closed_letIn (bus : Bus) : bus.letIn.2.closed = bus.closed := by
  unfold letIn
  split
  · split <;> rfl
  · rfl

theorem isDrained_of_receive (h : bus.receive = (.finished, next)) :
    bus.isDrained = true ∧ next = bus := by
  unfold receive at h
  split at h
  · rename_i hdrained
    cases h
    exact ⟨hdrained, rfl⟩
  · split at h
    · cases h
    · cases h

/-- The first delivery is handed out, counted one attempt higher. -/
theorem receive_delivery {admitted : Option Nat}
    (h : bus.receive = (.delivery d admitted, next)) :
    ∃ first, bus.deliveries = first :: next.deliveries ∧
      d = { first with attempts := first.attempts + 1 } ∧
      next.outstanding = bus.outstanding ∧ next.closed = bus.closed := by
  unfold receive at h
  split at h
  · cases h
  · split at h
    · cases h
    · rename_i first rest hbuffer
      have hnext : Bus.letIn { bus with buffer := rest } = (admitted, next) := by
        have hfst := (Received.delivery.inj (congrArg Prod.fst h)).2
        have hsnd := congrArg Prod.snd h
        exact Prod.ext hfst hsnd
      have hd := (Received.delivery.inj (congrArg Prod.fst h)).1
      refine ⟨first, ?_, hd.symm, ?_, ?_⟩
      · have hsame := deliveries_letIn { bus with buffer := rest }
        rw [hnext] at hsame
        rw [hsame]
        unfold deliveries
        rw [hbuffer, List.cons_append]
      · have hsame := outstanding_letIn { bus with buffer := rest }
        rw [hnext] at hsame
        exact hsame
      · have hsame := closed_letIn { bus with buffer := rest }
        rw [hnext] at hsame
        exact hsame

/-- A returned delivery is dropped after its fifth attempt, and else the last on the bus. -/
theorem nack_cases (bus : Bus) (d : Delivery) :
    (maxAttempts ≤ d.attempts ∧ bus.nack d = bus.settle) ∨
      (d.attempts < maxAttempts ∧ bus.nack d = bus.enter ⟨none, d⟩) := by
  unfold nack
  by_cases h : maxAttempts ≤ d.attempts
  · exact .inl ⟨h, if_pos h⟩
  · exact .inr ⟨Int.not_le.mp h, if_neg h⟩

theorem settleWith_cases (bus : Bus) (d : Delivery) (result : Outcome ChunkOutcome) :
    ((bus.settleWith d result).deliveries = bus.deliveries ∧
      (bus.settleWith d result).outstanding = bus.outstanding - 1 ∧
        ((∃ outcome, result = .ok outcome) ∨
          ∃ f, result = .error f ∧ maxAttempts ≤ d.attempts)) ∨
      ((bus.settleWith d result).deliveries = bus.deliveries ++ [d] ∧
        (bus.settleWith d result).outstanding = bus.outstanding ∧
          ∃ f, result = .error f ∧ d.attempts < maxAttempts) := by
  cases result with
  | ok outcome => exact .inl ⟨rfl, rfl, .inl ⟨outcome, rfl⟩⟩
  | error f =>
    simp only [settleWith, Settlement.of]
    rcases bus.nack_cases d with ⟨hmax, hnack⟩ | ⟨hmax, hnack⟩
    · rw [hnack]
      exact .inl ⟨rfl, rfl, .inr ⟨f, rfl, hmax⟩⟩
    · rw [hnack, deliveries_enter, outstanding_enter]
      exact .inr ⟨rfl, rfl, f, rfl, hmax⟩

theorem closed_nack : (bus.nack d).closed = bus.closed := by
  unfold nack
  split
  · rfl
  · rw [closed_enter]

theorem closed_settleWith (result : Outcome ChunkOutcome) :
    (bus.settleWith d result).closed = bus.closed := by
  cases result with
  | ok outcome => rfl
  | error f => exact closed_nack

theorem isDrained_iff : bus.isDrained = true ↔ bus.closed = true ∧ bus.outstanding = 0 := by
  unfold isDrained
  simp

end CatalogIntake.Bus
