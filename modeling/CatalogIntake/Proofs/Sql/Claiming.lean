import CatalogIntake.Proofs.Sql.QueueTable

/-!
Claiming from the queue, round after round: a message that holds no chunk is deleted, and the next
one is claimed, until one holds a chunk or none is visible. Every round but the last takes such a
message from the table, so that the rounds come to an end; and they end with the first statement
that fails, or with a message that the database driver cannot read. How it reads a payload is left
open.
-/

namespace CatalogIntake.Sql

open Number

namespace Queue

/-- One round: what the claim came to, or nothing when the message was discarded. -/
def round (settings : QueueSettings) : Script (Option (Outcome (Option Delivery))) := do
  match ← claimMessage settings with
  | .error f => return some (.error f)
  | .ok none => return some (.ok none)
  | .ok (some message) =>
    match Chunk.decode message.payload with
    | .ok chunk => return some (.ok (some ⟨some message.id, message.attempts, chunk⟩))
    | .error _ =>
      match ← delete message.id with
      | .error f => return some (.error f)
      | .ok () => return none

variable {σ : Type} (answer : Statement → σ → Answer × σ) (settings : QueueSettings)

inductive Claiming : σ → Outcome (Option Delivery) → σ → Prop
  | ends {s s' : σ} {outcome : Outcome (Option Delivery)}
      (last : (round settings).run answer s = (some outcome, s')) : Claiming s outcome s'
  | again {s s' s'' : σ} {outcome : Outcome (Option Delivery)}
      (discarded : (round settings).run answer s = (none, s'))
      (rest : Claiming s' outcome s'') : Claiming s outcome s''

def resume (settings : QueueSettings) (fuel : Nat) :
    Option (Outcome (Option Delivery)) → Script (Outcome (Option Delivery))
  | some outcome => .done outcome
  | none => claim settings fuel

/-- With so many rounds allowed the loop makes one and goes on with the rest. -/
theorem run_claim_succ (fuel : Nat) (s : σ) :
    (claim settings (fuel + 1)).run answer s =
      (resume settings fuel ((round settings).run answer s).1).run answer
        ((round settings).run answer s).2 := by
  rw [claim, round]
  change Script.run _ (Script.bind _ _) _ =
    Script.run _ (resume _ _ (Script.run _ (Script.bind _ _) _).1)
      (Script.run _ (Script.bind _ _) _).2
  rw [Script.run_bind, Script.run_bind]
  rcases (claimMessage settings).run answer s with ⟨reply, s₁⟩
  match reply with
  | .error f => rfl
  | .ok none => rfl
  | .ok (some message) =>
    simp only
    cases Chunk.decode message.payload with
    | ok chunk => rfl
    | error e =>
      change Script.run _ (Script.bind _ _) _ =
        Script.run _ (resume _ _ (Script.run _ (Script.bind _ _) _).1)
          (Script.run _ (Script.bind _ _) _).2
      rw [Script.run_bind, Script.run_bind]
      rcases (delete message.id).run answer s₁ with ⟨settled, s₂⟩
      cases settled <;> rfl

end Queue

/-- A script of one statement: the reply is read, or the statement has failed. -/
theorem Script.run_request {σ α : Type} (answer : Statement → σ → Answer × σ) (attempt : Attempt)
    (statement : Statement) (read : Reply → Outcome α) (s : σ) :
    (Script.request attempt statement read).run answer s =
      ((match (answer statement s).1 with
        | .ok reply => read reply
        | .error e => .error ⟨[attempt], .database e⟩), (answer statement s).2) := by
  rw [Script.request, Script.run]
  rcases answer statement s with ⟨reply, s'⟩
  cases reply <;> rfl

/-- A statement that fails, and whether it has been carried out all the same. -/
structure Breakdown where
  error : DatabaseError
  carriedOut : Bool

/-- When the statements are carried out, which of them break down, and how the driver reads a
payload that a claim returns. -/
structure Circumstances where
  now : Nat → Instant
  breakdown : Nat → Option Breakdown
  read : Json → Except DatabaseError Json

namespace Circumstances

/-- The chunk in a message, if it holds one and the driver can read it at all. -/
def content (c : Circumstances) (e : Entry) : Except DatabaseError (Option Chunk) :=
  (c.read e.payload).map fun value => (Chunk.decode value).toOption

def isHopeless (c : Circumstances) (e : Entry) : Bool :=
  match c.content e with
  | .ok none => true
  | _ => false

/-- The driver can read every message, whether it holds a chunk or not. -/
def Reads (c : Circumstances) (table : QueueTable) : Prop :=
  ∀ e ∈ table.entries, ∃ value, c.read e.payload = .ok value

/-- What the driver makes of a reply. -/
def receive (c : Circumstances) : Reply → Answer
  | .rows [[id, attempts, payload]] =>
    (c.read payload).map fun value => .rows [[id, attempts, value]]
  | reply => .ok reply

end Circumstances

structure QueueServer where
  table : QueueTable
  replies : List Answer

namespace QueueTable

def outOfRange : DatabaseError := .server "22003" "integer out of range"

def isCountable (now : Instant) (table : QueueTable) : Statement → Bool
  | .claimMessage routingKey seconds =>
    (table.entries.find? (Entry.isVisible now routingKey seconds)).all fun e =>
      Width.i32.contains (e.attempts + 1)
  | _ => true

def carryOut (now : Instant) (table : QueueTable) (statement : Statement) : Answer × QueueTable :=
  if table.isCountable now statement then
    (.ok (table.execute now statement).1, (table.execute now statement).2)
  else (.error outOfRange, table)

/-- A table as the database keeps it: in the order of the numbers, which their column can hold. -/
structure IsSound (table : QueueTable) : Prop where
  ordered : table.entries.Pairwise (·.id < ·.id)
  bounded : ∀ e ∈ table.entries, Width.i64.contains e.id = true

def discard (table : QueueTable) (gone : Entry → Bool) : QueueTable :=
  { table with entries := table.entries.filter fun e => !gone e }

/-- The oldest visible message stands between invisible ones and younger ones. -/
structure Oldest (table : QueueTable) (visible : Entry → Bool) (e : Entry)
    (before after : List Entry) : Prop where
  entries : table.entries = before ++ e :: after
  seen : visible e = true
  before : ∀ other ∈ before, visible other = false ∧ other.id < e.id
  after : ∀ other ∈ after, e.id < other.id

variable {table : QueueTable} {visible : Entry → Bool} {e other : Entry} {before after : List Entry}

theorem IsSound.oldest (h : table.IsSound) (first : table.entries.find? visible = some e) :
    ∃ before after, table.Oldest visible e before after := by
  obtain ⟨hvisible, before, after, hentries, hbefore⟩ := List.find?_eq_some_iff_append.mp first
  have ordered := h.ordered
  rw [hentries, List.pairwise_append, List.pairwise_cons] at ordered
  obtain ⟨-, ⟨hafter, -⟩, hsplit⟩ := ordered
  refine ⟨before, after, hentries, hvisible, ?_, hafter⟩
  intro other hother
  exact ⟨by simpa using hbefore other hother, hsplit other hother e List.mem_cons_self⟩

theorem IsSound.delete (h : table.IsSound) (id : Int) : (table.delete id).IsSound where
  ordered := h.ordered.sublist List.filter_sublist
  bounded := fun e he => h.bounded e (List.mem_filter.mp he).1

theorem mem_delete_iff (id : Nat) :
    e ∈ (table.delete id).entries ↔ e ∈ table.entries ∧ e.id ≠ id := by
  rw [QueueTable.delete, List.mem_filter, decide_eq_true_iff, ne_eq, ne_eq, Int.natCast_inj]

namespace Oldest

theorem stands (h : table.Oldest visible e before after) : e ∈ table.entries := by
  simp [h.entries]

theorem unique (h : table.Oldest visible e before after) (here : other ∈ table.entries)
    (same : other.id = e.id) : other = e := by
  rw [h.entries, List.mem_append, List.mem_cons] at here
  rcases here with here | rfl | here
  · have := (h.before other here).2
    omega
  · rfl
  · have := h.after other here
    omega

theorem least (h : table.Oldest visible e before after) (here : other ∈ table.entries)
    (seen : visible other = true) (differs : other.id ≠ e.id) : e.id < other.id := by
  rw [h.entries, List.mem_append, List.mem_cons] at here
  rcases here with here | rfl | here
  · simp [(h.before other here).1] at seen
  · contradiction
  · exact h.after other here

theorem delete (h : table.Oldest visible e before after) :
    (table.delete e.id).entries = before ++ after := by
  have kept : (before ++ after).filter (fun other => decide ((other.id : Int) ≠ e.id)) =
      before ++ after := by
    rw [List.filter_eq_self]
    intro other hother
    have differs : other.id ≠ e.id := by
      rcases List.mem_append.mp hother with hother | hother
      · exact Nat.ne_of_lt (h.before other hother).2
      · exact Nat.ne_of_gt (h.after other hother)
    rw [decide_eq_true_iff, ne_eq, Int.natCast_inj]
    exact differs
  rw [QueueTable.delete, h.entries, List.filter_append, List.filter_cons_of_neg (by simp),
    ← List.filter_append, kept]

/-- Every message that is discarded leaves one less to discard. -/
theorem countP_delete {c : Circumstances} (h : table.Oldest visible e before after)
    (hopeless : c.isHopeless e = true) :
    (table.delete e.id).entries.countP c.isHopeless + 1 = table.entries.countP c.isHopeless := by
  rw [h.delete, h.entries, List.countP_append, List.countP_append,
    List.countP_cons_of_pos hopeless, Nat.add_assoc]

end Oldest

/-- A message that is deleted may as well have been claimed before. -/
theorem delete_change (table : QueueTable) (e : Entry) (now : Instant) :
    (table.change e.id (Entry.claimed now)).delete e.id = table.delete e.id := by
  have numbers : (fun other : Entry => decide ((other.id : Int) ≠ e.id)) ∘
      (fun other => if (other.id : Int) = e.id then Entry.claimed now other else other) =
        fun other => decide ((other.id : Int) ≠ e.id) := by
    funext other
    simp only [Function.comp]
    split <;> rfl
  have others : ∀ other ∈ table.entries.filter fun other => decide ((other.id : Int) ≠ e.id),
      (if (other.id : Int) = e.id then Entry.claimed now other else other) = other := by
    intro other hother
    exact if_neg (of_decide_eq_true (List.mem_filter.mp hother).2)
  rw [change, QueueTable.delete, QueueTable.delete, List.filter_map, numbers]
  have kept := (List.map_congr_left others).trans (List.map_id' _)
  exact congrArg (QueueTable.mk · table.lastId) kept

theorem delete_eq_discard (table : QueueTable) (id : Nat) :
    table.delete id = table.discard fun e => e.id = id := by
  simp only [QueueTable.delete, discard, ne_eq, decide_not, Int.natCast_inj]

theorem discard_discard (table : QueueTable) (gone gone' : Entry → Bool) :
    (table.discard gone).discard gone' = table.discard fun e => gone e || gone' e := by
  simp [discard, List.filter_filter, Bool.and_comm]

theorem discard_none (table : QueueTable) : (table.discard fun _ => false) = table := by
  cases table
  simp [discard]

theorem discard_congr {gone gone' : Entry → Bool}
    (h : ∀ e ∈ table.entries, gone e = gone' e) : table.discard gone = table.discard gone' := by
  simp only [discard, QueueTable.mk.injEq, and_true]
  apply List.filter_congr
  intro e he
  rw [h e he]

end QueueTable

namespace QueueServer

def turn (s : QueueServer) : Nat := s.replies.length

def answer (c : Circumstances) (statement : Statement) (s : QueueServer) : Answer × QueueServer :=
  let (reply, table) := s.table.carryOut (c.now s.turn) statement
  match c.breakdown s.turn with
  | none => (reply.bind c.receive, ⟨table, s.replies ++ [reply]⟩)
  | some b =>
    (.error b.error, ⟨if b.carriedOut then table else s.table, s.replies ++ [.error b.error]⟩)

inductive Answers (c : Circumstances) (statement : Statement) (s : QueueServer) :
    Answer × QueueServer → Prop
  | served (countable : s.table.isCountable (c.now s.turn) statement = true) :
      Answers c statement s (c.receive (s.table.execute (c.now s.turn) statement).1,
        ⟨(s.table.execute (c.now s.turn) statement).2,
          s.replies ++ [.ok (s.table.execute (c.now s.turn) statement).1]⟩)
  | refused {error : DatabaseError} :
      Answers c statement s (.error error, ⟨s.table, s.replies ++ [.error error]⟩)
  | lost {error : DatabaseError} :
      Answers c statement s (.error error,
        ⟨(s.table.execute (c.now s.turn) statement).2, s.replies ++ [.error error]⟩)

theorem answer_cases (c : Circumstances) (statement : Statement) (s : QueueServer) :
    Answers c statement s (answer c statement s) := by
  rw [answer, QueueTable.carryOut]
  cases countable : s.table.isCountable (c.now s.turn) statement with
  | true =>
    cases c.breakdown s.turn with
    | none => exact .served countable
    | some b =>
      cases hcarried : b.carriedOut with
      | true => simpa [hcarried] using Answers.lost
      | false => simpa [hcarried] using Answers.refused
  | false =>
    cases c.breakdown s.turn with
    | none => exact .refused
    | some b => simpa using Answers.refused

end QueueServer

def Circumstances.sees (c : Circumstances) (settings : QueueSettings) (turn : Nat) (e : Entry) :
    Bool :=
  e.isVisible (c.now turn) settings.routingKey settings.visibilityTimeoutSeconds

theorem messageOfRow_countable {e : Entry} (hid : Width.i64.contains e.id = true)
    (hattempts : Width.i32.contains (e.attempts + 1) = true) (payload : Json) :
    Queue.messageOfRow [.integer e.id, .integer (e.attempts + 1), payload] =
      .ok ⟨e.id, e.attempts + 1, payload⟩ := by
  have row : Queue.messageOfRow [.integer e.id, .integer (e.attempts + 1), payload] = do
      return ⟨← Jobs.value Json.int64 (.integer e.id),
        ← Jobs.value Json.int32 (.integer (e.attempts + 1)), payload⟩ := rfl
  have id : Jobs.value Json.int64 (.integer e.id) = .ok (e.id : Int) := by
    simp [Jobs.value, Json.int64, Json.integerIn, hid]
  have attempts : Jobs.value Json.int32 (.integer (e.attempts + 1)) = .ok (e.attempts + 1) := by
    simp [Jobs.value, Json.int32, Json.integerIn, hattempts]
  rw [row, id, attempts]
  rfl

section Rounds

variable {c : Circumstances} {settings : QueueSettings} {s : QueueServer}

section Statements

variable {table : QueueTable} {e : Entry} {turn : Nat}

theorem execute_claim_none
    (first : table.entries.find? (c.sees settings turn) = none) :
    table.execute (c.now turn)
        (.claimMessage settings.routingKey settings.visibilityTimeoutSeconds) =
      (.rows [], table) := by
  unfold Circumstances.sees at first
  rw [QueueTable.execute, first]

/-- The message that is found first is the one that a claim takes. -/
theorem execute_claim_some (first : table.entries.find? (c.sees settings turn) = some e) :
    table.execute (c.now turn)
        (.claimMessage settings.routingKey settings.visibilityTimeoutSeconds) =
      (.rows [[.integer e.id, .integer (e.attempts + 1), e.payload]],
        table.change e.id (Entry.claimed (c.now turn))) := by
  unfold Circumstances.sees at first
  rw [QueueTable.execute, first]

theorem attempts_of_countable (first : table.entries.find? (c.sees settings turn) = some e)
    (countable : table.isCountable (c.now turn)
      (.claimMessage settings.routingKey settings.visibilityTimeoutSeconds) = true) :
    Width.i32.contains (e.attempts + 1) = true := by
  unfold Circumstances.sees at first
  simpa [QueueTable.isCountable, first] using countable

end Statements

/-- What the statement of a claim can come to; when it fails, it has stamped the message or not. -/
inductive Claimed (c : Circumstances) (settings : QueueSettings) (s : QueueServer) :
    Outcome (Option Queue.Message) → QueueServer → Prop
  | nothing {reply : Reply} (unseen : ∀ e ∈ s.table.entries, c.sees settings s.turn e = false) :
      Claimed c settings s (.ok none) ⟨s.table, s.replies ++ [.ok reply]⟩
  | message {e : Entry} {before after : List Entry} {reply : Reply} {value : Json}
      (oldest : s.table.Oldest (c.sees settings s.turn) e before after)
      (read : c.read e.payload = .ok value) :
      Claimed c settings s (.ok (some ⟨e.id, e.attempts + 1, value⟩))
        ⟨s.table.change e.id (Entry.claimed (c.now s.turn)), s.replies ++ [.ok reply]⟩
  | unread {e : Entry} {before after : List Entry} {reply : Reply} {error : DatabaseError}
      (oldest : s.table.Oldest (c.sees settings s.turn) e before after)
      (read : c.read e.payload = .error error) :
      Claimed c settings s (.error ⟨[.claimMessage], .database error⟩)
        ⟨s.table.change e.id (Entry.claimed (c.now s.turn)), s.replies ++ [.ok reply]⟩
  | failed {f : Failure} {error : DatabaseError} {next : QueueTable}
      (left : next = s.table ∨ ∃ e before after,
        s.table.Oldest (c.sees settings s.turn) e before after ∧
          next = s.table.change e.id (Entry.claimed (c.now s.turn))) :
      Claimed c settings s (.error f) ⟨next, s.replies ++ [.error error]⟩

theorem claimed_of_run (sound : s.table.IsSound) {outcome : Outcome (Option Queue.Message)}
    {s' : QueueServer}
    (h : (Queue.claimMessage settings).run (QueueServer.answer c) s = (outcome, s')) :
    Claimed c settings s outcome s' := by
  rw [Queue.claimMessage, Script.run_request] at h
  have answered := QueueServer.answer_cases c
    (.claimMessage settings.routingKey settings.visibilityTimeoutSeconds) s
  generalize QueueServer.answer c _ s = served at answered h
  cases first : s.table.entries.find? (c.sees settings s.turn) with
  | none =>
    have unseen : ∀ e ∈ s.table.entries, c.sees settings s.turn e = false := by
      simpa using first
    cases answered with
    | served countable =>
      rw [execute_claim_none first] at h
      cases h
      exact .nothing unseen
    | refused =>
      cases h
      exact .failed (.inl rfl)
    | lost =>
      rw [execute_claim_none first] at h
      cases h
      exact .failed (.inl rfl)
  | some e =>
    obtain ⟨before, after, oldest⟩ := sound.oldest first
    cases answered with
    | served countable =>
      have counted := attempts_of_countable first countable
      rw [execute_claim_some first] at h
      cases read : c.read e.payload with
      | ok value =>
        have row := messageOfRow_countable (sound.bounded e oldest.stands) counted value
        simp only [Circumstances.receive, read, Except.map, Reply.first?, Reply.toRows,
          List.head?_cons, row] at h
        cases h
        exact .message oldest read
      | error error =>
        simp only [Circumstances.receive, read, Except.map] at h
        cases h
        exact .unread oldest read
    | refused =>
      cases h
      exact .failed (.inl rfl)
    | lost =>
      rw [execute_claim_some first] at h
      cases h
      exact .failed (.inr ⟨e, before, after, oldest, rfl⟩)

theorem deleteMessage_run {id : Nat} {reply : Outcome Unit} {s' : QueueServer}
    (h : (Queue.delete id).run (QueueServer.answer c) s = (reply, s')) :
    (∃ answer, reply = .ok () ∧ s' = ⟨s.table.delete id, s.replies ++ [.ok answer]⟩) ∨
    (∃ f error next, reply = .error f ∧ s' = ⟨next, s.replies ++ [.error error]⟩ ∧
      (next = s.table ∨ next = s.table.delete id)) := by
  rw [Queue.delete, Script.run_request] at h
  have answered := QueueServer.answer_cases c (.deleteMessage id) s
  generalize QueueServer.answer c _ s = served at answered h
  cases answered with
  | served countable =>
    cases h
    exact .inl ⟨_, rfl, rfl⟩
  | refused =>
    cases h
    exact .inr ⟨_, _, _, rfl, rfl, .inl rfl⟩
  | lost =>
    cases h
    exact .inr ⟨_, _, _, rfl, rfl, .inr rfl⟩

inductive Round (c : Circumstances) (settings : QueueSettings) (s : QueueServer) :
    Option (Outcome (Option Delivery)) → QueueServer → Prop
  | nothing {reply : Reply} (unseen : ∀ e ∈ s.table.entries, c.sees settings s.turn e = false) :
      Round c settings s (some (.ok none)) ⟨s.table, s.replies ++ [.ok reply]⟩
  | found {e : Entry} {before after : List Entry} {chunk : Chunk} {reply : Reply}
      (oldest : s.table.Oldest (c.sees settings s.turn) e before after)
      (decodes : c.content e = .ok (some chunk)) :
      Round c settings s (some (.ok (some ⟨some e.id, e.attempts + 1, chunk⟩)))
        ⟨s.table.change e.id (Entry.claimed (c.now s.turn)), s.replies ++ [.ok reply]⟩
  | discarded {e : Entry} {before after : List Entry} {reply reply' : Reply}
      (oldest : s.table.Oldest (c.sees settings s.turn) e before after)
      (hopeless : c.isHopeless e = true) :
      Round c settings s none ⟨s.table.delete e.id, s.replies ++ [.ok reply] ++ [.ok reply']⟩
  /-- The message has been stamped, and cannot be read. -/
  | unread {e : Entry} {before after : List Entry} {reply : Reply} {error : DatabaseError}
      (oldest : s.table.Oldest (c.sees settings s.turn) e before after)
      (unreadable : c.content e = .error error) :
      Round c settings s (some (.error ⟨[.claimMessage], .database error⟩))
        ⟨s.table.change e.id (Entry.claimed (c.now s.turn)), s.replies ++ [.ok reply]⟩
  /-- The claim fails, and has stamped the message or not. -/
  | unclaimed {f : Failure} {error : DatabaseError} {next : QueueTable}
      (left : next = s.table ∨ ∃ e before after,
        s.table.Oldest (c.sees settings s.turn) e before after ∧
          next = s.table.change e.id (Entry.claimed (c.now s.turn))) :
      Round c settings s (some (.error f)) ⟨next, s.replies ++ [.error error]⟩
  /-- The deletion fails, and the message is gone or not. -/
  | undeleted {f : Failure} {e : Entry} {before after : List Entry} {reply : Reply}
      {error : DatabaseError} {next : QueueTable}
      (oldest : s.table.Oldest (c.sees settings s.turn) e before after)
      (hopeless : c.isHopeless e = true)
      (left : next = s.table.change e.id (Entry.claimed (c.now s.turn)) ∨
        next = s.table.delete e.id) :
      Round c settings s (some (.error f)) ⟨next, s.replies ++ [.ok reply] ++ [.error error]⟩

theorem round_cases (sound : s.table.IsSound) {result : Option (Outcome (Option Delivery))}
    {s' : QueueServer}
    (h : (Queue.round settings).run (QueueServer.answer c) s = (result, s')) :
    Round c settings s result s' := by
  rw [Queue.round] at h
  change Script.run _ (Script.bind _ _) _ = _ at h
  rw [Script.run_bind] at h
  rcases claimed : (Queue.claimMessage settings).run (QueueServer.answer c) s with ⟨reply, mid⟩
  rw [claimed] at h
  cases claimed_of_run sound claimed with
  | nothing unseen =>
    cases h
    exact .nothing unseen
  | @message e before after answer value oldest read =>
    simp only at h
    have content : c.content e = .ok (Chunk.decode value).toOption := by
      rw [Circumstances.content, read]
      rfl
    cases decodes : Chunk.decode value with
    | ok chunk =>
      rw [decodes] at h content
      cases h
      exact .found oldest content
    | error problem =>
      have hopeless : c.isHopeless e = true := by
        rw [Circumstances.isHopeless, content, decodes]
        rfl
      rw [decodes] at h
      change Script.run _ (Script.bind _ _) _ = _ at h
      rw [Script.run_bind] at h
      rcases deleted : (Queue.delete e.id).run (QueueServer.answer c)
        ⟨s.table.change e.id (Entry.claimed (c.now s.turn)), s.replies ++ [.ok answer]⟩
        with ⟨settled, last⟩
      rw [deleted] at h
      rcases deleteMessage_run deleted with ⟨answer', rfl, rfl⟩ | ⟨f, error, next, rfl, rfl, left⟩
      · cases h
        rw [QueueTable.delete_change]
        exact .discarded oldest hopeless
      · cases h
        rw [QueueTable.delete_change] at left
        exact .undeleted oldest hopeless left
  | unread oldest read =>
    cases h
    refine .unread oldest ?_
    rw [Circumstances.content, read]
    rfl
  | failed left =>
    cases h
    exact .unclaimed left

end Rounds

end CatalogIntake.Sql
