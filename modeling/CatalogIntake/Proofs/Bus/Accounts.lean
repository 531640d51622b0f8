import CatalogIntake.Proofs.Bus.Traffic

namespace CatalogIntake

namespace Traffic

/-- The lists tell the chunks on the bus apart and change nothing else about them, and the buffer
is what has entered it and has not been handed out. -/
structure Labelled (t : Traffic) : Prop where
  buffer : t.bus.buffer = t.buffer.map (·.delivery)
  line : t.bus.line = t.line.map (·.waiting)
  order : t.handedOut ++ t.buffer.map (·.number) = t.entered

structure Moved (t t' : Traffic) : Prop where
  waiting : t'.waiting.Perm t.waiting
  held : t'.held = t.held
  outstanding : t'.bus.outstanding = t.bus.outstanding
  accepted : t'.accepted = t.accepted
  handedOut : t'.handedOut = t.handedOut
  acked : t'.acked = t.acked
  dropped : t'.dropped = t.dropped

structure Accepted (t : Traffic) (chunk : Chunk) (t' : Traffic) : Prop where
  waiting : t'.waiting.Perm (t.parcelOf chunk :: t.waiting)
  held : t'.held = t.held
  outstanding : t'.bus.outstanding = t.bus.outstanding + 1
  accepted : t'.accepted = t.accepted ++ [chunk]
  handedOut : t'.handedOut = t.handedOut
  acked : t'.acked = t.acked
  dropped : t'.dropped = t.dropped

structure HandedOut (t : Traffic) (q : Parcel) (t' : Traffic) : Prop where
  waiting : t.waiting.Perm (q :: t'.waiting)
  held : t'.held = t.held ++ [q.again]
  outstanding : t'.bus.outstanding = t.bus.outstanding
  accepted : t'.accepted = t.accepted
  handedOut : t'.handedOut = t.handedOut ++ [q.number]
  acked : t'.acked = t.acked
  dropped : t'.dropped = t.dropped

inductive Given (t : Traffic) (q : Parcel) (t' : Traffic) (acknowledges : Bool) : Prop
  | acked (yes : acknowledges = true) (waiting : t'.waiting = t.waiting)
      (outstanding : t'.bus.outstanding = t.bus.outstanding - 1)
      (acked : t'.acked = t.acked ++ [q.number]) (dropped : t'.dropped = t.dropped)
  | dropped (no : acknowledges = false) (last : Bus.maxAttempts ≤ q.delivery.attempts)
      (waiting : t'.waiting = t.waiting)
      (outstanding : t'.bus.outstanding = t.bus.outstanding - 1) (acked : t'.acked = t.acked)
      (dropped : t'.dropped = t.dropped ++ [q.number])
  | returned (no : acknowledges = false) (again : q.delivery.attempts < Bus.maxAttempts)
      (waiting : t'.waiting.Perm (q :: t.waiting))
      (outstanding : t'.bus.outstanding = t.bus.outstanding) (acked : t'.acked = t.acked)
      (dropped : t'.dropped = t.dropped)

structure Settled (t : Traffic) (q : Parcel) (acknowledges : Bool) (t' : Traffic) : Prop where
  held : t.held.Perm (q :: t'.held)
  accepted : t'.accepted = t.accepted
  handedOut : t'.handedOut = t.handedOut
  given : Given t q t' acknowledges

inductive Change (t t' : Traffic) : Prop
  | moved (change : Moved t t')
  | accepted (chunk : Chunk) (change : Accepted t chunk t')
  | handedOut (q : Parcel) (change : HandedOut t q t')
  | settled (q : Parcel) (acknowledges : Bool) (change : Settled t q acknowledges t')

theorem Moved.refl (t : Traffic) : Moved t t := ⟨.refl _, rfl, rfl, rfl, rfl, rfl, rfl⟩

variable {t t' : Traffic} {q : Parcel}

section Moves

variable (labelled : t.Labelled)

theorem perm_waiting (line : List Queued) (buffer returning : List Parcel) (q : Queued) :
    ((line ++ [q]).map (·.parcel) ++ buffer ++ returning).Perm
        (q.parcel :: (line.map (·.parcel) ++ buffer ++ returning)) ∧
      (line.map (·.parcel) ++ (buffer ++ [q.parcel]) ++ returning).Perm
        (q.parcel :: (line.map (·.parcel) ++ buffer ++ returning)) := by
  constructor
  · rw [List.map_append, List.map_singleton, List.append_assoc, List.append_assoc,
      List.append_assoc]
    exact List.perm_middle
  · rw [← List.append_assoc, List.append_assoc _ [q.parcel]]
    exact List.perm_middle

include labelled in
theorem labelled_publish (ticket : Nat) (chunk : Chunk) :
    (t.publish ticket chunk).Labelled ∧
      (t.bus.closed = true ∧ t.publish ticket chunk = t ∨
        t.bus.closed = false ∧ Accepted t chunk (t.publish ticket chunk)) := by
  unfold publish
  cases hclosed : t.bus.closed with
  | true =>
    have hrefused : t.bus.publish ticket chunk = (.refused, t.bus) := if_pos hclosed
    rw [hrefused]
    exact ⟨labelled, .inl ⟨rfl, rfl⟩⟩
  | false =>
    have hperm := perm_waiting t.line t.buffer t.returning ⟨some ticket, t.parcelOf chunk⟩
    rw [Bus.publish_eq hclosed]
    cases t.bus.hasRoom with
    | true =>
      simp only [if_true]
      refine ⟨⟨?_, labelled.line, ?_⟩, .inr ⟨trivial, hperm.2, rfl, rfl, rfl, rfl, rfl, rfl⟩⟩
      · rw [List.map_append, ← labelled.buffer]
        rfl
      · rw [List.map_append, ← List.append_assoc, labelled.order]
        rfl
    | false =>
      simp only [Bool.false_eq_true, if_false]
      refine ⟨⟨labelled.buffer, ?_, labelled.order⟩,
        .inr ⟨trivial, hperm.1, rfl, rfl, rfl, rfl, rfl, rfl⟩⟩
      rw [List.map_append, ← labelled.line]
      rfl

include labelled in
theorem labelled_handOut (leaves : t.handOut? = some (q, t')) :
    t'.Labelled ∧ ∃ first, q = first.again ∧ HandedOut t first t' := by
  unfold handOut? Bus.handOut at leaves
  cases hbuffer : t.buffer with
  | nil =>
    rw [hbuffer] at leaves
    split at leaves
    · rename_i heq
      cases heq
    · cases leaves
  | cons first rest =>
    have hbus := labelled.buffer
    have horder := labelled.order
    rw [hbuffer] at leaves hbus horder
    rw [hbus, List.map_cons] at leaves
    cases hdrained : t.bus.isDrained with
    | true =>
      rw [hdrained] at leaves
      cases leaves
    | false =>
      rw [hdrained] at leaves
      obtain ⟨rfl, rfl⟩ := Prod.mk.inj (Option.some.inj leaves)
      refine ⟨⟨rfl, labelled.line, ?_⟩, first, rfl, ?_, rfl, rfl, rfl, rfl, rfl, rfl⟩
      · rw [← horder, List.map_cons, List.append_assoc]
        rfl
      · unfold waiting
        rw [hbuffer, List.append_assoc, List.append_assoc]
        exact List.perm_middle

include labelled in
theorem labelled_settle {acknowledges : Bool} (settles : t.settle? q acknowledges = some t') :
    t'.Labelled ∧ Settled t q acknowledges t' := by
  unfold settle? at settles
  by_cases hheld : q ∈ t.held
  · have hperm := List.perm_cons_erase hheld
    rw [if_pos hheld] at settles
    cases acknowledges with
    | true =>
      obtain rfl := Option.some.inj settles
      exact ⟨⟨labelled.buffer, labelled.line, labelled.order⟩,
        hperm, rfl, rfl, .acked rfl rfl rfl rfl rfl⟩
    | false =>
      simp only [Bus.giveBack, Bool.false_eq_true, if_false] at settles
      by_cases hlast : q.delivery.attempts ≥ Bus.maxAttempts
      · rw [if_pos hlast] at settles
        obtain rfl := Option.some.inj settles
        exact ⟨⟨labelled.buffer, labelled.line, labelled.order⟩,
          hperm, rfl, rfl, .dropped rfl hlast rfl rfl rfl rfl⟩
      · rw [if_neg hlast] at settles
        obtain rfl := Option.some.inj settles
        refine ⟨⟨labelled.buffer, labelled.line, labelled.order⟩,
          hperm, rfl, rfl, .returned rfl (Int.not_le.mp hlast) ?_ rfl rfl rfl⟩
        unfold waiting
        rw [← List.append_assoc]
        exact List.perm_append_singleton _ _
  · rw [if_neg hheld] at settles
    cases settles

include labelled in
theorem labelled_resend (sends : t.resend? q = some t') : t'.Labelled ∧ Moved t t' := by
  unfold resend? at sends
  by_cases hreturning : q ∈ t.returning
  · have hperm := perm_waiting t.line t.buffer (t.returning.erase q) ⟨none, q⟩
    have hwaiting : t.waiting.Perm
        (q :: (t.line.map (·.parcel) ++ t.buffer ++ t.returning.erase q)) :=
      ((List.perm_cons_erase hreturning).append_left _).trans List.perm_middle
    rw [if_pos hreturning, Bus.enter_eq] at sends
    cases hroom : t.bus.hasRoom with
    | true =>
      rw [hroom] at sends
      obtain rfl := Option.some.inj sends
      refine ⟨⟨?_, labelled.line, ?_⟩,
        hperm.2.trans hwaiting.symm, rfl, rfl, rfl, rfl, rfl, rfl⟩
      · rw [List.map_append, ← labelled.buffer]
        rfl
      · rw [List.map_append, ← List.append_assoc, labelled.order]
        rfl
    | false =>
      rw [hroom] at sends
      obtain rfl := Option.some.inj sends
      refine ⟨⟨labelled.buffer, ?_, labelled.order⟩,
        hperm.1.trans hwaiting.symm, rfl, rfl, rfl, rfl, rfl, rfl⟩
      rw [List.map_append, ← labelled.line]
      rfl
  · rw [if_neg hreturning] at sends
    cases sends

include labelled in
theorem labelled_letIn {place : Nat} (enters : t.letIn? place = some t') :
    t'.Labelled ∧ Moved t t' := by
  unfold letIn? Bus.letInAt at enters
  rw [labelled.line, List.getElem?_map] at enters
  cases hline : t.line[place]? with
  | none =>
    rw [hline] at enters
    cases enters
  | some q =>
    rw [hline, Option.map_some] at enters
    dsimp only at enters
    by_cases hroom : t.bus.buffer.length + place < t.bus.capacity
    · rw [if_pos hroom] at enters
      obtain rfl := Option.some.inj enters
      refine ⟨⟨?_, ?_, ?_⟩, ?_, rfl, rfl, rfl, rfl, rfl, rfl⟩
      · rw [List.map_append, ← labelled.buffer]
        rfl
      · exact List.eraseIdx_map _ _ _
      · rw [List.map_append, ← List.append_assoc, labelled.order]
        rfl
      · obtain ⟨hlt, rfl⟩ := List.getElem?_eq_some_iff.mp hline
        have hfirst : (t.line[place] :: t.line.eraseIdx place).Perm t.line :=
          List.getElem_cons_eraseIdx_perm hlt
        have hline' := hfirst.map Queued.parcel
        exact (perm_waiting (t.line.eraseIdx place) t.buffer t.returning t.line[place]).2.trans
          ((hline'.append_right t.buffer).append_right t.returning)
    · rw [if_neg hroom] at enters
      cases enters

include labelled in
theorem change_of_act {m : Move} (acts : t.act m = some t') : t'.Labelled ∧ Change t t' := by
  cases m with
  | publish ticket chunk =>
    obtain rfl := Option.some.inj acts
    obtain ⟨labelled', ⟨-, hsame⟩ | ⟨-, accepted⟩⟩ := labelled_publish labelled ticket chunk
    · refine ⟨labelled', ?_⟩
      rw [hsame]
      exact .moved (.refl t)
    · exact ⟨labelled', .accepted chunk accepted⟩
  | receive =>
    obtain rfl := Option.some.inj acts
    cases hleaves : t.handOut? with
    | none => exact ⟨labelled, .moved (.refl t)⟩
    | some result =>
      obtain ⟨labelled', first, -, handedOut⟩ := labelled_handOut labelled hleaves
      exact ⟨labelled', .handedOut first handedOut⟩
  | ack q =>
    obtain ⟨labelled', settled⟩ := labelled_settle labelled acts
    exact ⟨labelled', .settled q true settled⟩
  | nack q =>
    obtain ⟨labelled', settled⟩ := labelled_settle labelled acts
    exact ⟨labelled', .settled q false settled⟩
  | resend q =>
    obtain ⟨labelled', moved⟩ := labelled_resend labelled acts
    exact ⟨labelled', .moved moved⟩
  | letIn place =>
    obtain ⟨labelled', moved⟩ := labelled_letIn labelled acts
    exact ⟨labelled', .moved moved⟩
  | close =>
    obtain rfl := Option.some.inj acts
    exact ⟨⟨labelled.buffer, labelled.line, labelled.order⟩,
      .moved ⟨.refl _, rfl, rfl, rfl, rfl, rfl, rfl⟩⟩

end Moves

/-- Every chunk is in one place until it is settled, and what its delivery says is true. -/
structure Accounts (t : Traffic) : Prop where
  outstanding : t.bus.outstanding = t.parcels.length
  places : (t.parcels.map (·.number) ++ t.settled).Perm (List.range t.accepted.length)
  chunks : ∀ q ∈ t.parcels, t.accepted[q.number]? = some q.delivery.chunk
  attempts : ∀ q ∈ t.parcels, q.delivery.attempts = (t.handedOut.count q.number : Int)
  waiting : ∀ q ∈ t.waiting, t.handedOut.count q.number < 5
  held : ∀ q ∈ t.held, 1 ≤ t.handedOut.count q.number ∧ t.handedOut.count q.number ≤ 5
  acked : ∀ n ∈ t.acked, 1 ≤ t.handedOut.count n ∧ t.handedOut.count n ≤ 5
  dropped : ∀ n ∈ t.dropped, t.handedOut.count n = 5
  known : ∀ n ∈ t.handedOut, n < t.accepted.length

theorem Accounts.nodup (h : t.Accounts) : (t.parcels.map (·.number) ++ t.settled).Nodup :=
  h.places.nodup_iff.mpr List.nodup_range

variable (h : t.Accounts)

include h in
theorem Accounts.moved (change : Moved t t') : t'.Accounts := by
  have hparcels : t'.parcels.Perm t.parcels := by
    unfold parcels
    rw [change.held]
    exact change.waiting.append_right t.held
  have hsettled : t'.settled = t.settled := by
    unfold settled
    rw [change.acked, change.dropped]
  constructor
  · rw [change.outstanding, hparcels.length_eq]
    exact h.outstanding
  · rw [hsettled, change.accepted]
    exact ((hparcels.map _).append_right t.settled).trans h.places
  · intro q hq
    rw [change.accepted]
    exact h.chunks q (hparcels.mem_iff.mp hq)
  · intro q hq
    rw [change.handedOut]
    exact h.attempts q (hparcels.mem_iff.mp hq)
  · intro q hq
    rw [change.handedOut]
    exact h.waiting q (change.waiting.mem_iff.mp hq)
  · rw [change.held, change.handedOut]
    exact h.held
  · rw [change.acked, change.handedOut]
    exact h.acked
  · rw [change.dropped, change.handedOut]
    exact h.dropped
  · rw [change.handedOut, change.accepted]
    exact h.known

include h in
theorem Accounts.accepted {chunk : Chunk} (change : Accepted t chunk t') : t'.Accounts := by
  have hparcels : t'.parcels.Perm (t.parcelOf chunk :: t.parcels) := by
    unfold parcels
    rw [change.held]
    exact change.waiting.append_right t.held
  have hsettled : t'.settled = t.settled := by
    unfold settled
    rw [change.acked, change.dropped]
  have hnumber : (t.parcelOf chunk).number = t.accepted.length := rfl
  have hfresh : t.handedOut.count t.accepted.length = 0 := by
    apply List.count_eq_zero_of_not_mem
    intro hmem
    exact Nat.lt_irrefl _ (h.known _ hmem)
  constructor
  · rw [change.outstanding, hparcels.length_eq, List.length_cons, h.outstanding]
  · rw [hsettled, change.accepted, List.length_append, List.length_singleton, List.range_succ]
    refine ((hparcels.map _).append_right t.settled).trans ?_
    rw [List.map_cons, List.cons_append, hnumber]
    exact (h.places.cons _).trans (List.perm_append_singleton _ _).symm
  · intro q hq
    rw [change.accepted]
    rcases List.mem_cons.mp (hparcels.mem_iff.mp hq) with rfl | hq
    · rw [hnumber, List.getElem?_concat_length]
      rfl
    · exact (List.getElem?_append_left (List.getElem?_eq_some_iff.mp (h.chunks q hq)).1).trans
        (h.chunks q hq)
  · intro q hq
    rw [change.handedOut]
    rcases List.mem_cons.mp (hparcels.mem_iff.mp hq) with rfl | hq
    · rw [hnumber, hfresh]
      rfl
    · exact h.attempts q hq
  · intro q hq
    rw [change.handedOut]
    rcases List.mem_cons.mp (change.waiting.mem_iff.mp hq) with rfl | hq
    · rw [hnumber, hfresh]
      decide
    · exact h.waiting q hq
  · rw [change.held, change.handedOut]
    exact h.held
  · rw [change.acked, change.handedOut]
    exact h.acked
  · rw [change.dropped, change.handedOut]
    exact h.dropped
  · intro n hn
    rw [change.handedOut] at hn
    have hlt := h.known n hn
    rw [change.accepted, List.length_append]
    omega

include h in
/-- Nothing else on the bus has the number of the parcel that is handed out. -/
theorem Accounts.handedOut (change : HandedOut t q t') : t'.Accounts := by
  have hbefore : t.parcels.Perm (q :: (t'.waiting ++ t.held)) := change.waiting.append_right t.held
  have hafter : t'.parcels.Perm (q.again :: (t'.waiting ++ t.held)) := by
    unfold parcels
    rw [change.held, ← List.append_assoc]
    exact List.perm_append_singleton _ _
  have hnumbers : (t'.parcels.map (·.number)).Perm (t.parcels.map (·.number)) := by
    have hnumbers' := hbefore.map Parcel.number
    exact (hafter.map Parcel.number).trans hnumbers'.symm
  have hsettled : t'.settled = t.settled := by
    unfold settled
    rw [change.acked, change.dropped]
  have hmore : t'.handedOut.count q.number = t.handedOut.count q.number + 1 := by
    rw [change.handedOut, List.count_append, List.count_singleton_self]
  have hsame : ∀ n, n ≠ q.number → t'.handedOut.count n = t.handedOut.count n := by
    intro n hn
    rw [change.handedOut, List.count_append, List.count_singleton,
      if_neg (by simpa using Ne.symm hn), Nat.add_zero]
  have hapart : q.number ∉ (t'.waiting ++ t.held).map (·.number) ++ t.settled := by
    have hnodup := (((hbefore.map (·.number)).append_right t.settled).nodup_iff).mp h.nodup
    exact (List.nodup_cons.mp hnodup).1
  have hrest : ∀ r ∈ t'.waiting ++ t.held, r.number ≠ q.number := by
    intro r hr heq
    exact hapart (List.mem_append_left _ (heq ▸ List.mem_map_of_mem hr))
  have hdone : ∀ n ∈ t.settled, n ≠ q.number := by
    intro n hn heq
    exact hapart (List.mem_append_right _ (heq ▸ hn))
  have hq : q ∈ t.parcels := hbefore.mem_iff.mpr List.mem_cons_self
  have hrest' : ∀ r ∈ t'.waiting ++ t.held, r ∈ t.parcels := fun r hr =>
    hbefore.mem_iff.mpr (List.mem_cons_of_mem q hr)
  constructor
  · rw [change.outstanding, h.outstanding, hbefore.length_eq, hafter.length_eq]
    rfl
  · rw [hsettled, change.accepted]
    exact (hnumbers.append_right t.settled).trans h.places
  · intro r hr
    rw [change.accepted]
    rcases List.mem_cons.mp (hafter.mem_iff.mp hr) with rfl | hr
    · exact h.chunks q hq
    · exact h.chunks r (hrest' r hr)
  · intro r hr
    rcases List.mem_cons.mp (hafter.mem_iff.mp hr) with rfl | hr
    · rw [Parcel.number_again, hmore, Int.natCast_succ, ← h.attempts q hq, Parcel.attempts_again]
    · rw [hsame _ (hrest r hr)]
      exact h.attempts r (hrest' r hr)
  · intro r hr
    rw [hsame _ (hrest r (List.mem_append_left _ hr))]
    exact h.waiting r (change.waiting.mem_iff.mpr (List.mem_cons_of_mem q hr))
  · intro r hr
    rw [change.held] at hr
    rcases List.mem_append.mp hr with hr | hr
    · rw [hsame _ (hrest r (List.mem_append_right _ hr))]
      exact h.held r hr
    · rw [List.mem_singleton.mp hr, Parcel.number_again, hmore]
      have hfew := h.waiting q (change.waiting.mem_iff.mpr List.mem_cons_self)
      omega
  · intro n hn
    rw [change.acked] at hn
    rw [hsame n (hdone n (List.mem_append_left _ hn))]
    exact h.acked n hn
  · intro n hn
    rw [change.dropped] at hn
    rw [hsame n (hdone n (List.mem_append_right _ hn))]
    exact h.dropped n hn
  · intro n hn
    rw [change.handedOut] at hn
    rw [change.accepted]
    rcases List.mem_append.mp hn with hn | hn
    · exact h.known n hn
    · rw [List.mem_singleton.mp hn]
      exact (List.getElem?_eq_some_iff.mp (h.chunks q hq)).1

section Settled

variable {acknowledges : Bool} (change : Settled t q acknowledges t')

include change in
theorem Settled.mem_held : q ∈ t.held := change.held.mem_iff.mpr List.mem_cons_self

include change in
theorem Settled.held_of_held {r : Parcel} (hr : r ∈ t'.held) : r ∈ t.held :=
  change.held.mem_iff.mpr (List.mem_cons_of_mem q hr)

include h change in
/-- A chunk that is acknowledged or dropped is no longer on the bus. -/
theorem Accounts.gone (waiting : t'.waiting = t.waiting)
    (outstanding : t'.bus.outstanding = t.bus.outstanding - 1)
    (settled : t'.settled.Perm (q.number :: t.settled))
    (acked : ∀ n ∈ t'.acked, n = q.number ∨ n ∈ t.acked)
    (dropped : ∀ n ∈ t'.dropped,
      n = q.number ∧ Bus.maxAttempts ≤ q.delivery.attempts ∨ n ∈ t.dropped) : t'.Accounts := by
  have hparcels : t.parcels.Perm (q :: t'.parcels) := by
    unfold parcels
    rw [waiting]
    exact (change.held.append_left t.waiting).trans List.perm_middle
  have hq := h.held q change.mem_held
  constructor
  · rw [outstanding, h.outstanding, hparcels.length_eq]
    rfl
  · have hnumbers := (hparcels.map Parcel.number).append_right t.settled
    rw [change.accepted]
    exact (settled.append_left _).trans
      (List.perm_middle.trans (hnumbers.symm.trans h.places))
  · intro r hr
    rw [change.accepted]
    exact h.chunks r (hparcels.mem_iff.mpr (List.mem_cons_of_mem q hr))
  · intro r hr
    rw [change.handedOut]
    exact h.attempts r (hparcels.mem_iff.mpr (List.mem_cons_of_mem q hr))
  · rw [waiting, change.handedOut]
    exact h.waiting
  · intro r hr
    rw [change.handedOut]
    exact h.held r (change.held_of_held hr)
  · intro n hn
    rw [change.handedOut]
    rcases acked n hn with rfl | hn
    · exact hq
    · exact h.acked n hn
  · intro n hn
    rw [change.handedOut]
    rcases dropped n hn with ⟨rfl, hlast⟩ | hn
    · -- held for the fifth time at least, and for the fifth time at most
      rw [h.attempts q (List.mem_append_right _ change.mem_held), Bus.maxAttempts] at hlast
      omega
    · exact h.dropped n hn
  · rw [change.handedOut, change.accepted]
    exact h.known

include h change in
theorem Accounts.returned (again : q.delivery.attempts < Bus.maxAttempts)
    (waiting : t'.waiting.Perm (q :: t.waiting))
    (outstanding : t'.bus.outstanding = t.bus.outstanding) (acked : t'.acked = t.acked)
    (dropped : t'.dropped = t.dropped) : t'.Accounts := by
  have hparcels : t'.parcels.Perm t.parcels :=
    (waiting.append_right t'.held).trans
      (List.perm_middle.symm.trans (change.held.symm.append_left t.waiting))
  have hsettled : t'.settled = t.settled := by
    unfold settled
    rw [acked, dropped]
  constructor
  · rw [outstanding, hparcels.length_eq]
    exact h.outstanding
  · rw [hsettled, change.accepted]
    exact ((hparcels.map _).append_right t.settled).trans h.places
  · intro r hr
    rw [change.accepted]
    exact h.chunks r (hparcels.mem_iff.mp hr)
  · intro r hr
    rw [change.handedOut]
    exact h.attempts r (hparcels.mem_iff.mp hr)
  · intro r hr
    rw [change.handedOut]
    rcases List.mem_cons.mp (waiting.mem_iff.mp hr) with rfl | hr
    · rw [h.attempts r (List.mem_append_right _ change.mem_held), Bus.maxAttempts] at again
      omega
    · exact h.waiting r hr
  · intro r hr
    rw [change.handedOut]
    exact h.held r (change.held_of_held hr)
  · rw [acked, change.handedOut]
    exact h.acked
  · rw [dropped, change.handedOut]
    exact h.dropped
  · rw [change.handedOut, change.accepted]
    exact h.known

include h change in
theorem Accounts.settled : t'.Accounts := by
  cases change.given with
  | acked _ waiting outstanding acked dropped =>
    apply h.gone change waiting outstanding
    · unfold Traffic.settled
      rw [acked, dropped, List.append_assoc]
      exact List.perm_middle
    · intro n hn
      rw [acked] at hn
      simpa [or_comm] using hn
    · intro n hn
      rw [dropped] at hn
      exact .inr hn
  | dropped _ last waiting outstanding acked dropped =>
    apply h.gone change waiting outstanding
    · unfold Traffic.settled
      rw [acked, dropped, ← List.append_assoc]
      exact List.perm_append_singleton _ _
    · intro n hn
      rw [acked] at hn
      exact .inr hn
    · intro n hn
      rw [dropped] at hn
      rcases List.mem_append.mp hn with hn | hn
      · exact .inr hn
      · exact .inl ⟨List.mem_singleton.mp hn, last⟩
  | returned _ again waiting outstanding acked dropped =>
    exact h.returned change again waiting outstanding acked dropped

end Settled

include h in
theorem Accounts.change (change : Change t t') : t'.Accounts := by
  cases change with
  | moved change => exact h.moved change
  | accepted chunk change => exact h.accepted change
  | handedOut q change => exact h.handedOut change
  | settled q acknowledges change => exact h.settled change

end Traffic

end CatalogIntake
