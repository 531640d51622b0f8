import CatalogIntake.Proofs.Sql.Claiming

/-!
What a claim leaves of the queue. The messages that are gone in the end held no chunk and came
before the one that is handed out; all others are as they were, but for the claim itself. As long as
the database driver can read the messages, a claim fails only when the server fails.
-/

namespace CatalogIntake.Sql

section Rounds

variable {c : Circumstances} {settings : QueueSettings} {s : QueueServer}

/-- Only such messages are gone as hold no chunk and have been visible up to the last turn; and if
a message was to be handed out, they were older when both were visible. -/
def Sweeps (c : Circumstances) (settings : QueueSettings) (table : QueueTable) (last : Nat)
    (handedOut : Option Entry) (gone : Entry → Bool) : Prop :=
  ∀ other ∈ table.entries, gone other = true → c.isHopeless other = true ∧
    ∃ turn ≤ last, c.sees settings turn other = true ∧
      ∀ e ∈ handedOut, c.sees settings turn e = true → other.id < e.id

/-- All messages visible in the last turn and older than the one handed out are gone. -/
def Swept (c : Circumstances) (settings : QueueSettings) (table : QueueTable) (last : Nat)
    (handedOut : Option Entry) (gone : Entry → Bool) : Prop :=
  ∀ other ∈ table.entries, c.sees settings last other = true →
    (∀ e ∈ handedOut, other.id < e.id) → gone other = true

inductive Sifts (c : Circumstances) (settings : QueueSettings) (s : QueueServer) :
    Outcome (Option Delivery) → QueueServer → Prop
  | found {e : Entry} {chunk : Chunk} {gone : Entry → Bool} {last : Nat} {replies : List Answer}
      (stands : e ∈ s.table.entries) (seen : c.sees settings last e = true)
      (decodes : c.content e = .ok (some chunk))
      (sweeps : Sweeps c settings s.table last (some e) gone)
      (swept : Swept c settings s.table last (some e) gone)
      (served : ∀ error, .error error ∉ replies) (turns : s.turn + replies.length = last + 1) :
      Sifts c settings s (.ok (some ⟨some e.id, e.attempts + 1, chunk⟩))
        ⟨(s.table.discard gone).change e.id (Entry.claimed (c.now last)), s.replies ++ replies⟩
  | nothing {gone : Entry → Bool} {last : Nat} {replies : List Answer}
      (sweeps : Sweeps c settings s.table last none gone)
      (swept : Swept c settings s.table last none gone)
      (served : ∀ error, .error error ∉ replies) (turns : s.turn + replies.length = last + 1) :
      Sifts c settings s (.ok none) ⟨s.table.discard gone, s.replies ++ replies⟩
  /-- A message has been claimed that the driver cannot read. -/
  | unread {e : Entry} {gone : Entry → Bool} {last : Nat} {replies : List Answer}
      {error : DatabaseError}
      (stands : e ∈ s.table.entries) (seen : c.sees settings last e = true)
      (unreadable : c.content e = .error error)
      (sweeps : Sweeps c settings s.table last (some e) gone)
      (swept : Swept c settings s.table last (some e) gone)
      (served : ∀ error, .error error ∉ replies) (turns : s.turn + replies.length = last + 1) :
      Sifts c settings s (.error ⟨[.claimMessage], .database error⟩)
        ⟨(s.table.discard gone).change e.id (Entry.claimed (c.now last)), s.replies ++ replies⟩
  /-- Besides those that are gone a message may be claimed that nobody will settle. -/
  | broken {f : Failure} {gone : Entry → Bool} {last : Nat} {replies : List Answer}
      {error : DatabaseError} {next : QueueTable}
      (sweeps : Sweeps c settings s.table last none gone)
      (left : next = s.table.discard gone ∨ ∃ e ∈ s.table.entries, ∃ turn ≤ last,
        c.sees settings turn e = true ∧
          next = (s.table.discard gone).change e.id (Entry.claimed (c.now turn)))
      (served : ∀ error, .error error ∉ replies) (turns : s.turn + replies.length = last) :
      Sifts c settings s (.error f) ⟨next, s.replies ++ replies ++ [.error error]⟩

theorem sweeps_nothing (table : QueueTable) (last : Nat) (handedOut : Option Entry) :
    Sweeps c settings table last handedOut fun _ => false := by
  intro other _ gone
  cases gone

theorem QueueTable.Oldest.swept {table : QueueTable} {turn : Nat} {e : Entry}
    {before after : List Entry} (h : table.Oldest (c.sees settings turn) e before after) :
    Swept c settings table turn (some e) fun _ => false := by
  intro other here seen older
  have younger := h.least here seen (Nat.ne_of_lt (older e rfl))
  exact absurd (older e rfl) (Nat.lt_asymm younger)

theorem Round.sifts {outcome : Outcome (Option Delivery)} {s' : QueueServer}
    (h : Round c settings s (some outcome) s') : Sifts c settings s outcome s' := by
  cases h with
  | nothing unseen =>
    rw [← s.table.discard_none]
    apply Sifts.nothing (sweeps_nothing _ _ _) _ (by simp) rfl
    intro other here seen
    rw [unseen other here] at seen
    cases seen
  | @found e _ _ _ _ oldest decodes =>
    rw [← s.table.discard_none]
    apply Sifts.found oldest.stands oldest.seen decodes (sweeps_nothing _ _ _) _ (by simp) rfl
    exact oldest.swept
  | @unread e _ _ _ _ oldest unreadable =>
    rw [← s.table.discard_none]
    apply Sifts.unread oldest.stands oldest.seen unreadable (sweeps_nothing _ _ _) _ (by simp) rfl
    exact oldest.swept
  | unclaimed left =>
    rw [← List.append_nil s.replies]
    apply Sifts.broken (sweeps_nothing _ s.turn _) _ (by simp) rfl
    rw [s.table.discard_none]
    rcases left with rfl | ⟨e, before, after, oldest, rfl⟩
    · exact .inl rfl
    · exact .inr ⟨e, oldest.stands, s.turn, Nat.le_refl _, oldest.seen, rfl⟩
  | @undeleted _ e before after _ _ _ oldest hopeless left =>
    rcases left with rfl | rfl
    · apply Sifts.broken (sweeps_nothing _ (s.turn + 1) _) _ (by simp) rfl
      rw [s.table.discard_none]
      exact .inr ⟨e, oldest.stands, s.turn, Nat.le_succ _, oldest.seen, rfl⟩
    · rw [QueueTable.delete_eq_discard]
      apply Sifts.broken _ (.inl rfl) (by simp) rfl
      intro other here same
      rw [oldest.unique here (of_decide_eq_true same)]
      exact ⟨hopeless, s.turn, Nat.le_succ _, oldest.seen, by simp⟩

section Again

variable {e : Entry} {before after : List Entry} {last : Nat} {handedOut : Option Entry}
  {gone : Entry → Bool}

/-- A message that was discarded first is one of those that are gone. -/
theorem Sweeps.again (oldest : s.table.Oldest (c.sees settings s.turn) e before after)
    (hopeless : c.isHopeless e = true) (early : s.turn ≤ last)
    (later : ∀ m ∈ handedOut, m ∈ (s.table.delete e.id).entries)
    (h : Sweeps c settings (s.table.delete e.id) last handedOut gone) :
    Sweeps c settings s.table last handedOut fun other => other.id = e.id || gone other := by
  intro other here going
  by_cases same : other.id = e.id
  · rw [oldest.unique here same]
    refine ⟨hopeless, s.turn, early, oldest.seen, ?_⟩
    intro m hm seen
    obtain ⟨stands, differs⟩ := (QueueTable.mem_delete_iff e.id).mp (later m hm)
    exact oldest.least stands seen differs
  · have still : other ∈ (s.table.delete e.id).entries :=
      (QueueTable.mem_delete_iff e.id).mpr ⟨here, same⟩
    exact h other still (by simpa [same] using going)

theorem Swept.again (h : Swept c settings (s.table.delete e.id) last handedOut gone) :
    Swept c settings s.table last handedOut fun other => other.id = e.id || gone other := by
  intro other here seen older
  by_cases same : other.id = e.id
  · simp [same]
  · have still : other ∈ (s.table.delete e.id).entries :=
      (QueueTable.mem_delete_iff e.id).mpr ⟨here, same⟩
    simp [h other still seen older]

theorem Sifts.again {outcome : Outcome (Option Delivery)} {s' : QueueServer} {reply reply' : Reply}
    (oldest : s.table.Oldest (c.sees settings s.turn) e before after)
    (hopeless : c.isHopeless e = true)
    (h : Sifts c settings
      ⟨s.table.delete e.id, s.replies ++ [.ok reply] ++ [.ok reply']⟩ outcome s') :
    Sifts c settings s outcome s' := by
  have both : ∀ gone, (s.table.delete e.id).discard gone =
      s.table.discard fun other => other.id = e.id || gone other := by
    intro gone
    rw [QueueTable.delete_eq_discard, QueueTable.discard_discard]
  have turns : QueueServer.turn ⟨s.table.delete e.id, s.replies ++ [.ok reply] ++ [.ok reply']⟩ =
      s.turn + 2 := by
    simp [QueueServer.turn]
  have front : ∀ replies, s.replies ++ [.ok reply] ++ [.ok reply'] ++ replies =
      s.replies ++ (.ok reply :: .ok reply' :: replies) := by
    intro replies
    simp
  have earlier : ∀ m ∈ (s.table.delete e.id).entries, m ∈ s.table.entries := by
    intro m stands
    exact ((QueueTable.mem_delete_iff e.id).mp stands).1
  -- whatever the later rounds end in, the message deleted here goes with those that they delete
  cases h with
  | found stands seen decodes sweeps swept served count =>
    rw [turns] at count
    rw [both, front]
    apply Sifts.found (earlier _ stands) seen decodes
      (sweeps.again oldest hopeless (by omega) (by simpa using stands)) swept.again
      (by simpa using served)
    simp only [List.length_cons]
    omega
  | unread stands seen unreadable sweeps swept served count =>
    rw [turns] at count
    rw [both, front]
    apply Sifts.unread (earlier _ stands) seen unreadable
      (sweeps.again oldest hopeless (by omega) (by simpa using stands)) swept.again
      (by simpa using served)
    simp only [List.length_cons]
    omega
  | nothing sweeps swept served count =>
    rw [turns] at count
    rw [both, front]
    apply Sifts.nothing (sweeps.again oldest hopeless (by omega) (by simp)) swept.again
      (by simpa using served)
    simp only [List.length_cons]
    omega
  | broken sweeps left served count =>
    rw [turns] at count
    rw [both] at left
    rw [front]
    apply Sifts.broken (sweeps.again oldest hopeless (by omega) (by simp)) _
      (by simpa using served)
    · simp only [List.length_cons]
      omega
    · rcases left with rfl | ⟨m, stands, turn, bounded, seen, rfl⟩
      · exact .inl rfl
      · exact .inr ⟨m, earlier m stands, turn, bounded, seen, rfl⟩

end Again

/-- The rounds come to an end, and the loop with them when it is allowed that many. -/
theorem claim_ends (c : Circumstances) (settings : QueueSettings) (s : QueueServer)
    (sound : s.table.IsSound) :
    ∃ outcome s', Queue.Claiming (QueueServer.answer c) settings s outcome s' ∧
      (∀ fuel, s.table.entries.countP c.isHopeless < fuel →
        (Queue.claim settings fuel).run (QueueServer.answer c) s = (outcome, s')) ∧
      Sifts c settings s outcome s' := by
  -- a round that goes on has deleted a message without a chunk, so there are as many rounds at most
  generalize many : s.table.entries.countP c.isHopeless = count
  induction count using Nat.strongRecOn generalizing s with
  | ind count ih =>
    rcases first : (Queue.round settings).run (QueueServer.answer c) s with ⟨result, mid⟩
    cases result with
    | some outcome =>
      refine ⟨outcome, mid, .ends first, ?_, (round_cases sound first).sifts⟩
      intro fuel enough
      obtain ⟨rounds, rfl⟩ := Nat.exists_eq_add_one_of_ne_zero (Nat.ne_zero_of_lt enough)
      rw [Queue.run_claim_succ, first]
      rfl
    | none =>
      cases round_cases sound first with
      | @discarded e before after reply reply' oldest hopeless =>
        have fewer := oldest.countP_delete hopeless
        obtain ⟨outcome, s', rest, run, sifts⟩ :=
          ih ((s.table.delete e.id).entries.countP c.isHopeless) (by omega)
            ⟨s.table.delete e.id, s.replies ++ [.ok reply] ++ [.ok reply']⟩ (sound.delete e.id) rfl
        refine ⟨outcome, s', .again first rest, ?_, sifts.again oldest hopeless⟩
        intro fuel enough
        obtain ⟨rounds, rfl⟩ := Nat.exists_eq_add_one_of_ne_zero (Nat.ne_zero_of_lt enough)
        rw [Queue.run_claim_succ, first]
        exact run rounds (by omega)

def Circumstances.IsSteady (c : Circumstances) (settings : QueueSettings) (table : QueueTable) :
    Prop :=
  ∀ turn, ∀ e ∈ table.entries, c.sees settings turn e = c.sees settings 0 e

inductive Picks (c : Circumstances) (settings : QueueSettings) (table : QueueTable) :
    Outcome (Option Delivery) → QueueServer → Prop
  | found {e : Entry} {chunk : Chunk} {last : Nat} {replies : List Answer}
      (stands : e ∈ table.entries) (seen : c.sees settings 0 e = true)
      (decodes : c.content e = .ok (some chunk))
      (least : ∀ other ∈ table.entries, c.sees settings 0 other = true → other.id < e.id →
        c.isHopeless other = true)
      (served : ∀ error, .error error ∉ replies) (turns : replies.length = last + 1) :
      Picks c settings table (.ok (some ⟨some e.id, e.attempts + 1, chunk⟩))
        ⟨(table.discard fun other =>
            c.sees settings 0 other && c.isHopeless other && decide (other.id < e.id)).change e.id
          (Entry.claimed (c.now last)), replies⟩
  | unread {e : Entry} {last : Nat} {replies : List Answer} {error : DatabaseError}
      (stands : e ∈ table.entries) (seen : c.sees settings 0 e = true)
      (unreadable : c.content e = .error error)
      (least : ∀ other ∈ table.entries, c.sees settings 0 other = true → other.id < e.id →
        c.isHopeless other = true)
      (served : ∀ error, .error error ∉ replies) (turns : replies.length = last + 1) :
      Picks c settings table (.error ⟨[.claimMessage], .database error⟩)
        ⟨(table.discard fun other =>
            c.sees settings 0 other && c.isHopeless other && decide (other.id < e.id)).change e.id
          (Entry.claimed (c.now last)), replies⟩
  | nothing {replies : List Answer}
      (least : ∀ other ∈ table.entries, c.sees settings 0 other = true → c.isHopeless other = true)
      (served : ∀ error, .error error ∉ replies) :
      Picks c settings table (.ok none)
        ⟨table.discard fun other => c.sees settings 0 other && c.isHopeless other, replies⟩
  | broken {f : Failure} {gone : Entry → Bool} {next : QueueTable} {replies : List Answer}
      {error : DatabaseError}
      (hopeless : ∀ other ∈ table.entries, gone other = true →
        c.sees settings 0 other = true ∧ c.isHopeless other = true)
      (left : next = table.discard gone ∨ ∃ e ∈ table.entries, c.sees settings 0 e = true ∧
        ∃ turn, next = (table.discard gone).change e.id (Entry.claimed (c.now turn)))
      (served : ∀ error, .error error ∉ replies) :
      Picks c settings table (.error f) ⟨next, replies ++ [.error error]⟩

section Steady

variable {table : QueueTable} {last : Nat} {handedOut : Option Entry} {gone : Entry → Bool}

theorem Sweeps.exactly (steady : c.IsSteady settings table)
    (stands : ∀ e ∈ handedOut, e ∈ table.entries ∧ c.sees settings last e = true)
    (sweeps : Sweeps c settings table last handedOut gone)
    (swept : Swept c settings table last handedOut gone) :
    ∀ other ∈ table.entries, gone other = true ↔ c.sees settings 0 other = true ∧
      c.isHopeless other = true ∧ ∀ e ∈ handedOut, other.id < e.id := by
  intro other here
  constructor
  · intro going
    obtain ⟨hopeless, turn, -, seen, older⟩ := sweeps other here going
    refine ⟨(steady turn other here).symm.trans seen, hopeless, ?_⟩
    intro e he
    obtain ⟨there, hseen⟩ := stands e he
    rw [steady last e there, ← steady turn e there] at hseen
    exact older e he hseen
  · rintro ⟨seen, -, older⟩
    exact swept other here ((steady last other here).trans seen) older

/-- Up to a message that is claimed, exactly the visible ones are gone, and none held a chunk. -/
theorem Sweeps.upto {e : Entry} (steady : c.IsSteady settings table) (stands : e ∈ table.entries)
    (seen : c.sees settings last e = true) (sweeps : Sweeps c settings table last (some e) gone)
    (swept : Swept c settings table last (some e) gone) :
    table.discard gone = table.discard (fun other =>
        c.sees settings 0 other && c.isHopeless other && decide (other.id < e.id)) ∧
      ∀ other ∈ table.entries, c.sees settings 0 other = true → other.id < e.id →
        c.isHopeless other = true := by
  have exactly := Sweeps.exactly steady (by simpa using ⟨stands, seen⟩) sweeps swept
  refine ⟨QueueTable.discard_congr fun other here => ?_, fun other here hseen older => ?_⟩
  · rw [Bool.eq_iff_iff, exactly other here]
    simp [and_assoc]
  · have going := swept other here ((steady last other here).trans hseen) (by simpa using older)
    exact (sweeps other here going).1

theorem Sifts.picks {outcome : Outcome (Option Delivery)} {s' : QueueServer}
    (h : Sifts c settings ⟨table, []⟩ outcome s') (steady : c.IsSteady settings table) :
    Picks c settings table outcome s' := by
  cases h with
  | @found e chunk gone last replies stands seen decodes sweeps swept served turns =>
    obtain ⟨hdiscard, least⟩ := Sweeps.upto steady stands seen sweeps swept
    rw [hdiscard]
    exact .found stands ((steady last e stands).symm.trans seen) decodes least served
      (by simpa [QueueServer.turn] using turns)
  | @unread e gone last replies error stands seen unreadable sweeps swept served turns =>
    obtain ⟨hdiscard, least⟩ := Sweeps.upto steady stands seen sweeps swept
    rw [hdiscard]
    exact .unread stands ((steady last e stands).symm.trans seen) unreadable least served
      (by simpa [QueueServer.turn] using turns)
  | @nothing gone last replies sweeps swept served turns =>
    have exactly := Sweeps.exactly steady (by simp) sweeps swept
    have same : ∀ other ∈ table.entries, gone other =
        (c.sees settings 0 other && c.isHopeless other) := by
      intro other here
      rw [Bool.eq_iff_iff, exactly other here]
      simp
    rw [QueueTable.discard_congr same]
    apply Picks.nothing _ served
    intro other here hseen
    have going := swept other here ((steady last other here).trans hseen) (by simp)
    exact (sweeps other here going).1
  | @broken f gone last replies error next sweeps left served turns =>
    have hopeless : ∀ other ∈ table.entries, gone other = true →
        c.sees settings 0 other = true ∧ c.isHopeless other = true := by
      intro other here going
      obtain ⟨hopeless, turn, -, hseen, -⟩ := sweeps other here going
      exact ⟨(steady turn other here).symm.trans hseen, hopeless⟩
    apply Picks.broken hopeless _ served
    rcases left with rfl | ⟨e, stands, turn, -, seen, rfl⟩
    · exact .inl rfl
    · exact .inr ⟨e, stands, (steady turn e stands).symm.trans seen, turn, rfl⟩

end Steady

end Rounds

/-- When every message can be read, only a failure of the server fails a claim. -/
theorem Sifts.server_fails {c : Circumstances} {settings : QueueSettings} {s s' : QueueServer}
    {f : Failure} (h : Sifts c settings s (.error f) s') (reads : c.Reads s.table) :
    ∃ replies error, s'.replies = replies ++ [.error error] := by
  cases h with
  | @unread e _ _ _ error stands _ unreadable _ _ _ _ =>
    obtain ⟨value, read⟩ := reads e stands
    rw [Circumstances.content, read] at unreadable
    cases unreadable
  | broken _ _ _ _ => exact ⟨_, _, rfl⟩

def calm : Circumstances where
  now _ := ⟨1000, 0⟩
  breakdown _ := none
  read := .ok

/-- A message for somebody else, one in hand, and one with a chunk between two without. -/
def mixedTable : QueueTable where
  entries := [
    { id := 1, routingKey := "reports", payload := .null },
    { id := 2, routingKey := "product.import", payload := .null },
    { id := 3, routingKey := "product.import", payload := .null, attempts := 1,
      claimedAt := some ⟨900, 0⟩ },
    { id := 5, routingKey := "product.import", payload := (Chunk.mk ⟨0⟩ 7 []).toJson,
      attempts := 1, claimedAt := some ⟨600, 0⟩ },
    { id := 6, routingKey := "product.import", payload := .null }]
  lastId := 6

/-- Nobody else's message is touched, nor the one in hand, nor the last. -/
example :
    let (outcome, s) := (Queue.claim {} 5).run (QueueServer.answer calm) ⟨mixedTable, []⟩
    outcome.toOption.join.map (fun d => (d.messageId, d.attempts)) = some (some 5, 2) ∧
      s.table.entries.map (·.id) = [1, 3, 5, 6] := by
  decide +kernel

end CatalogIntake.Sql
