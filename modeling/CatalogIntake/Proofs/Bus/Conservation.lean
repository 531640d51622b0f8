import CatalogIntake.Proofs.Bus.Accounts

/-!
The bus neither loses a chunk nor hands out one that is not there, whoever publishes, receives and
settles, and in whatever order. It comes to its end when it is closed and every chunk is settled.
-/

namespace CatalogIntake.Traffic

variable {t t' : Traffic}

theorem labelled_opening (capacity : Nat) : (opening capacity).Labelled := ⟨rfl, rfl, rfl⟩

theorem accounts_opening (capacity : Nat) : (opening capacity).Accounts where
  outstanding := rfl
  places := .refl _
  chunks := fun q hq => by cases hq
  attempts := fun q hq => by cases hq
  waiting := fun q hq => by cases hq
  held := fun q hq => by cases hq
  acked := fun n hn => by cases hn
  dropped := fun n hn => by cases hn
  known := fun n hn => by cases hn

theorem run_kept {moves : List Move} (labelled : t.Labelled) (accounts : t.Accounts)
    (reached : t.run moves = some t') : t'.Labelled ∧ t'.Accounts := by
  induction moves generalizing t with
  | nil =>
    obtain rfl := Option.some.inj reached
    exact ⟨labelled, accounts⟩
  | cons m moves ih =>
    obtain ⟨next, acts, rest⟩ := Option.bind_eq_some_iff.mp reached
    obtain ⟨labelled', change⟩ := change_of_act labelled acts
    exact ih labelled' (accounts.change change) rest

/-- Those who wait, the buffer and the parcels on their way back are all that is not handed out. -/
theorem perm_parcels (t : Traffic) :
    (t.blocked ++ t.buffer ++ t.held ++ t.pending).Perm t.parcels := by
  have hline : (t.blocked ++ (t.line.filter (·.ticket.isNone)).map (·.parcel)).Perm
      (t.line.map (·.parcel)) := by
    have hsplit := List.filter_append_perm (fun q : Queued => q.ticket.isSome) t.line
    simpa [blocked] using hsplit.map Queued.parcel
  rw [List.perm_iff_count]
  intro q
  have hcount := hline.count_eq q
  simp only [parcels, waiting, pending, List.count_append] at hcount ⊢
  omega

theorem settled_of_finished (accounts : t.Accounts) (finished : t.bus.receive.1 = .finished) :
    t.bus.closed = true ∧ t.parcels = [] ∧ t.settled.Perm (List.range t.accepted.length) := by
  obtain ⟨hdrained, -⟩ := Bus.isDrained_of_receive (Prod.ext finished rfl)
  obtain ⟨hclosed, houtstanding⟩ := Bus.isDrained_iff.mp hdrained
  have hnone : t.parcels = [] := by
    apply List.eq_nil_of_length_eq_zero
    rw [← accounts.outstanding, houtstanding]
  have hplaces := accounts.places
  rw [hnone] at hplaces
  exact ⟨hclosed, hnone, hplaces⟩

/-- What is so at every moment. -/
structure Conserved (t : Traffic) : Prop where
  bus : t.bus.buffer = t.buffer.map (·.delivery) ∧ t.bus.line = t.line.map (·.waiting)
  outstanding : t.bus.outstanding =
    t.blocked.length + t.bus.buffer.length + t.held.length + t.pending.length
  /-- A chunk that the bus has taken waits to be let in, or is in the buffer, or has been received,
  or is on its way back, or has been acknowledged or dropped, and only one of these. -/
  places : ((t.blocked ++ t.buffer ++ t.held ++ t.pending).map (·.number) ++
    (t.acked ++ t.dropped)).Perm (List.range t.accepted.length)
  dropped : ∀ n ∈ t.dropped, t.handedOut.count n = 5
  chunks : ∀ q ∈ t.blocked ++ t.buffer ++ t.held ++ t.pending,
    t.accepted[q.number]? = some q.delivery.chunk
  attempts : ∀ q ∈ t.blocked ++ t.buffer ++ t.held ++ t.pending,
    q.delivery.attempts = t.handedOut.count q.number
  held : ∀ q ∈ t.held, 1 ≤ q.delivery.attempts ∧ q.delivery.attempts ≤ 5
  /-- A receiver is told that nothing more will come only when that is so. -/
  finished : t.bus.receive.1 = .finished → t.bus.closed = true ∧
    (t.acked ++ t.dropped).Perm (List.range t.accepted.length)
  order : t.handedOut ++ t.buffer.map (·.number) = t.entered

/-- Whoever publishes, receives and settles, and in whatever order. -/
theorem conservation {capacity : Nat} {moves : List Move}
    (reached : (opening capacity).run moves = some t) : t.Conserved := by
  obtain ⟨labelled, accounts⟩ := run_kept (labelled_opening capacity) (accounts_opening capacity)
    reached
  have hperm := t.perm_parcels
  refine ⟨⟨labelled.buffer, labelled.line⟩, ?_, ?_, accounts.dropped, ?_, ?_, ?_, ?_,
    labelled.order⟩
  · rw [accounts.outstanding, ← hperm.length_eq, labelled.buffer]
    simp only [List.length_append, List.length_map]
  · exact ((hperm.map _).append_right _).trans accounts.places
  · intro q hq
    exact accounts.chunks q (hperm.mem_iff.mp hq)
  · intro q hq
    exact accounts.attempts q (hperm.mem_iff.mp hq)
  · intro q hq
    rw [accounts.attempts q (List.mem_append_right _ hq)]
    have hheld := accounts.held q hq
    omega
  · intro finished
    obtain ⟨hclosed, -, hsettled⟩ := settled_of_finished accounts finished
    exact ⟨hclosed, hsettled⟩

/-- Two chunks for a buffer of one. The second has to wait, and the first fails every time. -/
def unluckyFirst : List Move :=
  let first (attempts : Int) : Parcel := ⟨0, none, attempts, ⟨7⟩, 0, []⟩
  let second (attempts : Int) : Parcel := ⟨1, none, attempts, ⟨7⟩, 1, []⟩
  [.publish 0 (first 0).delivery.chunk, .publish 1 (second 0).delivery.chunk, .receive, .close,
    .nack (first 1), .resend (first 1), .letIn 0, .receive, .letIn 0, .ack (second 1),
    .receive, .nack (first 2), .resend (first 2), .receive, .nack (first 3), .resend (first 3),
    .receive, .nack (first 4), .resend (first 4), .receive, .nack (first 5)]

theorem unluckyFirst_conserved : ∃ t, (opening 1).run unluckyFirst = some t ∧
    t.acked = [1] ∧ t.dropped = [0] ∧ t.handedOut = [0, 1, 0, 0, 0, 0] ∧ t.Conserved := by
  obtain ⟨t, ht, hacked, hdropped, hhandedOut⟩ : ∃ t, (opening 1).run unluckyFirst = some t ∧
      t.acked = [1] ∧ t.dropped = [0] ∧ t.handedOut = [0, 1, 0, 0, 0, 0] :=
    ⟨_, rfl, rfl, rfl, rfl⟩
  exact ⟨t, ht, hacked, hdropped, hhandedOut, conservation ht⟩

end CatalogIntake.Traffic
