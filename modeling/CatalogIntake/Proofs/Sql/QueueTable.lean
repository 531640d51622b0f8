import CatalogIntake.Pipeline.Worker
import CatalogIntake.Sql.Peer
import CatalogIntake.Sql.Queue

namespace CatalogIntake

def Instant.hasPassed (since now : Instant) (seconds : Nat) : Bool :=
  since.second + seconds < now.second ||
    (since.second + seconds == now.second && since.nanosecond < now.nanosecond)

namespace Sql

theorem Jobs.value_integerIn (w : Number.Width) (name : String) (n : Int) :
    Jobs.value (Json.integerIn w name) (.integer n) = .ok n ∨
      ∃ f, Jobs.value (Json.integerIn w name) (.integer n) = .error f := by
  unfold Jobs.value Json.integerIn
  by_cases h : w.contains n = true
  · simp [h]
  · simp [h, Outcome.fail]

structure Entry where
  id : Nat
  routingKey : String
  payload : Json
  attempts : Int := 0
  claimedAt : Option Instant := none

namespace Entry

/-- A message is visible when nobody has claimed it, or whoever did has had his time. -/
def isVisible (now : Instant) (routingKey : String) (seconds : Nat) (e : Entry) : Bool :=
  e.routingKey == routingKey &&
    match e.claimedAt with
    | none => true
    | some since => since.hasPassed now seconds

def claimed (now : Instant) (e : Entry) : Entry :=
  { e with claimedAt := some now, attempts := e.attempts + 1 }

def released (e : Entry) : Entry := { e with claimedAt := none }

end Entry

structure QueueTable where
  entries : List Entry
  lastId : Nat

/-- A worker settles a delivery: the message is deleted, or returned with the reason. -/
def Queue.settle (d : Delivery) (result : Outcome ChunkOutcome) : Script (Outcome Unit) :=
  match Settlement.of result with
  | .ack => ack d
  | .nack reason => nack d reason

abbrev Trouble := Statement → Option DatabaseError

namespace QueueTable

def empty : QueueTable := ⟨[], 0⟩

def insert (table : QueueTable) (routingKey : String) (chunk : Chunk) : QueueTable where
  entries := table.entries ++ [{ id := table.lastId + 1, routingKey, payload := chunk.toJson }]
  lastId := table.lastId + 1

def change (table : QueueTable) (id : Int) (f : Entry → Entry) : QueueTable :=
  { table with entries := table.entries.map fun e => if e.id = id then f e else e }

def delete (table : QueueTable) (id : Int) : QueueTable :=
  { table with entries := table.entries.filter fun e => e.id ≠ id }

def tally (table : QueueTable) (id : Int) : Nat := table.entries.countP fun e => e.id = id

def execute (now : Instant) (table : QueueTable) : Statement → Reply × QueueTable
  | .insertMessage routingKey chunk => (.affected 1, table.insert routingKey chunk)
  | .claimMessage routingKey seconds =>
    match table.entries.find? (Entry.isVisible now routingKey seconds) with
    | none => (.rows [], table)
    | some e =>
      (.rows [[.integer e.id, .integer (e.attempts + 1), e.payload]],
        table.change e.id (Entry.claimed now))
  | .countMessages routingKey =>
    (.rows [[.integer (table.entries.countP (·.routingKey == routingKey))]], table)
  | .deleteMessage id => (.affected (table.tally id), table.delete id)
  | .releaseMessage id _ => (.affected (table.tally id), table.change id Entry.released)
  | statement => (Peer.defaultReply statement, table)

def serve (now : Instant) (trouble : Trouble) (statement : Statement) (table : QueueTable) :
    Answer × QueueTable :=
  match trouble statement with
  | some e => (.error e, table)
  | none => (.ok (table.execute now statement).1, (table.execute now statement).2)

/-- The messages of `next` are messages of `table`, whoever has claimed them meanwhile. -/
structure Shrinks (table next : QueueTable) : Prop where
  lastId : next.lastId = table.lastId
  ids : (next.entries.map (·.id)).Sublist (table.entries.map (·.id))
  entries : ∀ e' ∈ next.entries, ∃ e ∈ table.entries, e'.id = e.id ∧ e'.payload = e.payload

structure Withholds (table next : QueueTable) : Prop extends Shrinks table next where
  unclaimed : ∀ e ∈ next.entries, e.claimedAt = none → e ∈ table.entries

namespace Shrinks

variable {first second third : QueueTable}

theorem refl (table : QueueTable) : table.Shrinks table :=
  ⟨rfl, .refl _, fun e he => ⟨e, he, rfl, rfl⟩⟩

theorem trans (h : first.Shrinks second) (h' : second.Shrinks third) : first.Shrinks third where
  lastId := h'.lastId.trans h.lastId
  ids := h'.ids.trans h.ids
  entries := by
    intro e₃ he₃
    obtain ⟨e₂, he₂, hid₂, hpayload₂⟩ := h'.entries e₃ he₃
    obtain ⟨e₁, he₁, hid₁, hpayload₁⟩ := h.entries e₂ he₂
    exact ⟨e₁, he₁, hid₂.trans hid₁, hpayload₂.trans hpayload₁⟩

theorem change (table : QueueTable) (id : Int) {f : Entry → Entry} (hid : ∀ e, (f e).id = e.id)
    (hpayload : ∀ e, (f e).payload = e.payload) : table.Shrinks (table.change id f) where
  lastId := rfl
  ids := by
    have same : (table.change id f).entries.map (·.id) = table.entries.map (·.id) := by
      unfold QueueTable.change
      rw [List.map_map]
      refine List.map_congr_left fun e _ => ?_
      simp only [Function.comp]
      split
      · exact hid e
      · rfl
    simp only [same, List.Sublist.refl]
  entries := by
    intro e' he'
    obtain ⟨e, he, rfl⟩ := List.mem_map.mp he'
    refine ⟨e, he, ?_⟩
    split
    · exact ⟨hid e, hpayload e⟩
    · exact ⟨rfl, rfl⟩

theorem delete (table : QueueTable) (id : Int) : table.Shrinks (table.delete id) where
  lastId := rfl
  ids := List.filter_sublist.map _
  entries := fun e' he' => ⟨e', (List.mem_filter.mp he').1, rfl, rfl⟩

end Shrinks

/-- A message that is not claimed now was not the one to be claimed. -/
theorem unclaimed_of_claimed {table : QueueTable} {id : Int} {now : Instant} {e : Entry}
    (here : e ∈ (table.change id (Entry.claimed now)).entries) (unclaimed : e.claimedAt = none) :
    e ∈ table.entries ∧ (e.id : Int) ≠ id := by
  obtain ⟨old, hold, rfl⟩ := List.mem_map.mp here
  split at unclaimed
  · cases unclaimed
  · rename_i hid
    rw [if_neg hid]
    exact ⟨hold, hid⟩

theorem cases_of_released {table : QueueTable} {id : Int} {e : Entry}
    (here : e ∈ (table.change id Entry.released).entries) :
    e ∈ table.entries ∨ (e.id : Int) = id ∧ ∃ old ∈ table.entries, old.id = e.id := by
  obtain ⟨old, hold, rfl⟩ := List.mem_map.mp here
  split
  · rename_i hid
    exact .inr ⟨hid, old, hold, rfl⟩
  · exact .inl hold

theorem mem_delete {table : QueueTable} {id : Int} {e : Entry}
    (here : e ∈ (table.delete id).entries) : e ∈ table.entries ∧ (e.id : Int) ≠ id := by
  obtain ⟨hmem, hid⟩ := List.mem_filter.mp here
  exact ⟨hmem, of_decide_eq_true hid⟩

namespace Withholds

variable {first second third : QueueTable}

theorem refl (table : QueueTable) : table.Withholds table := ⟨.refl table, fun _ he _ => he⟩

theorem trans (h : first.Withholds second) (h' : second.Withholds third) :
    first.Withholds third where
  toShrinks := h.toShrinks.trans h'.toShrinks
  unclaimed := fun e he hnone => h.unclaimed e (h'.unclaimed e he hnone) hnone

theorem claimed (table : QueueTable) (id : Int) (now : Instant) :
    table.Withholds (table.change id (Entry.claimed now)) where
  toShrinks := .change table id (fun _ => rfl) fun _ => rfl
  unclaimed := fun _ he hnone => (unclaimed_of_claimed he hnone).1

theorem delete (table : QueueTable) (id : Int) : table.Withholds (table.delete id) where
  toShrinks := .delete table id
  unclaimed := fun _ he _ => (List.mem_filter.mp he).1

end Withholds

def oldest? (table : QueueTable) (now : Instant) (settings : QueueSettings) : Option Entry :=
  table.entries.find? (Entry.isVisible now settings.routingKey settings.visibilityTimeoutSeconds)

section Scripts

variable {now : Instant} {trouble : Trouble} {table next : QueueTable} {settings : QueueSettings}

/-- A script of one statement: it fails without effect, or the reply is read. -/
theorem run_request {α : Type} (attempt : Attempt) (statement : Statement)
    (read : Reply → Outcome α) :
    (Script.request attempt statement read).run (serve now trouble) table =
      match trouble statement with
      | some e => (.error ⟨[attempt], .database e⟩, table)
      | none => (read (table.execute now statement).1, (table.execute now statement).2) := by
  unfold Script.request Script.run serve
  cases trouble statement <;> rfl

/-- A chunk is in the table under the next number, or the table is as before. -/
theorem publish_cases {chunk : Chunk} {answer : Outcome Unit}
    (h : (Queue.publish settings chunk).run (serve now trouble) table = (answer, next)) :
    (answer = .ok () ∧ next = table.insert settings.routingKey chunk) ∨
      (∃ f, answer = .error f) ∧ next = table := by
  unfold Queue.publish at h
  rw [run_request] at h
  split at h
  · cases h
    exact .inr ⟨⟨_, rfl⟩, rfl⟩
  · cases h
    exact .inl ⟨rfl, rfl⟩

inductive Claims (now : Instant) (settings : QueueSettings) (table : QueueTable) :
    Outcome (Option Delivery) → QueueTable → Prop
  | failed {f : Failure} : Claims now settings table (.error f) table
  | nothing : Claims now settings table (.ok none) table
  | handedOut {e : Entry} {chunk : Chunk} (oldest : table.oldest? now settings = some e)
      (decodes : Chunk.decode e.payload = .ok chunk) :
      Claims now settings table (.ok (some ⟨some e.id, e.attempts + 1, chunk⟩))
        (table.change e.id (Entry.claimed now))
  /-- The reply cannot be read, or what cannot be decoded is not deleted either. -/
  | stuck {e : Entry} {f : Failure} :
      Claims now settings table (.error f) (table.change e.id (Entry.claimed now))
  | discarded {e : Entry} :
      Claims now settings table (.ok none) ((table.change e.id (Entry.claimed now)).delete e.id)

theorem Claims.handed {now : Instant} {settings : QueueSettings} {table next : QueueTable}
    {d : Delivery} (h : Claims now settings table (.ok (some d)) next) :
    ∃ e, table.oldest? now settings = some e ∧ d.messageId = some ↑e.id ∧
      next = table.change e.id (Entry.claimed now) := by
  cases h with
  | @handedOut e _ oldest _ => exact ⟨e, oldest, rfl, rfl⟩

/-- What the row of a message is read as, if its numbers are within the bounds of their columns. -/
theorem messageOfRow_cases (id attempts : Int) (payload : Json) :
    Outcome.during .claimMessage
        ((Queue.messageOfRow [.integer id, .integer attempts, payload]).map some) =
      .ok (some ⟨id, attempts, payload⟩) ∨
    ∃ f, Outcome.during .claimMessage
      ((Queue.messageOfRow [.integer id, .integer attempts, payload]).map some) = .error f := by
  have hrow : Queue.messageOfRow [.integer id, .integer attempts, payload] = do
      return ⟨← Jobs.value Json.int64 (.integer id), ← Jobs.value Json.int32 (.integer attempts),
        payload⟩ := rfl
  have hid : Jobs.value Json.int64 (.integer id) = .ok id ∨
      ∃ f, Jobs.value Json.int64 (.integer id) = .error f := Jobs.value_integerIn ..
  have hattempts : Jobs.value Json.int32 (.integer attempts) = .ok attempts ∨
      ∃ f, Jobs.value Json.int32 (.integer attempts) = .error f := Jobs.value_integerIn ..
  rw [hrow]
  rcases hid with hid | ⟨f, hid⟩
  · rcases hattempts with hattempts | ⟨f, hattempts⟩
    · rw [hid, hattempts]
      exact .inl rfl
    · rw [hid, hattempts]
      exact .inr ⟨_, rfl⟩
  · rw [hid]
    exact .inr ⟨_, rfl⟩

theorem claimMessage_cases {answer : Outcome (Option Queue.Message)}
    (h : (Queue.claimMessage settings).run (serve now trouble) table = (answer, next)) :
    (next = table ∧ (answer = .ok none ∨ ∃ f, answer = .error f)) ∨
      ∃ e, table.oldest? now settings = some e ∧ next = table.change e.id (Entry.claimed now) ∧
        (answer = .ok (some ⟨e.id, e.attempts + 1, e.payload⟩) ∨ ∃ f, answer = .error f) := by
  unfold Queue.claimMessage at h
  rw [run_request] at h
  split at h
  · cases h
    exact .inl ⟨rfl, .inr ⟨_, rfl⟩⟩
  · unfold execute at h
    simp only at h
    cases hfind : table.entries.find? (Entry.isVisible now settings.routingKey
        settings.visibilityTimeoutSeconds) with
    | none =>
      rw [hfind] at h
      cases h
      exact .inl ⟨rfl, .inl rfl⟩
    | some e =>
      rw [hfind] at h
      obtain ⟨hanswer, hnext⟩ := Prod.mk.inj h
      refine .inr ⟨e, hfind, hnext.symm, ?_⟩
      rw [← hanswer]
      exact messageOfRow_cases _ _ _

theorem claims_of_run {answer : Outcome (Option Delivery)}
    (h : (Queue.claim settings 1).run (serve now trouble) table = (answer, next)) :
    Claims now settings table answer next := by
  unfold Queue.claim at h
  change Script.run _ (Script.bind _ _) _ = _ at h
  rw [Script.run_bind] at h
  rcases hclaim : (Queue.claimMessage settings).run (serve now trouble) table with ⟨reply, mid⟩
  rw [hclaim] at h
  rcases claimMessage_cases hclaim with ⟨rfl, rfl | ⟨f, rfl⟩⟩ | ⟨e, oldest, rfl, rfl | ⟨f, rfl⟩⟩
  · cases h
    exact .nothing
  · cases h
    exact .failed
  · simp only at h
    split at h
    · rename_i decodes
      cases h
      exact .handedOut oldest decodes
    · change Script.run _ (Script.bind _ _) _ = _ at h
      unfold Queue.delete at h
      rw [Script.run_bind, run_request] at h
      cases htrouble : trouble (.deleteMessage e.id) with
      | some error =>
        simp only [htrouble] at h
        cases h
        exact .stuck
      | none =>
        simp only [htrouble] at h
        cases h
        exact .discarded
  · cases h
    exact .stuck

theorem Claims.withholds {answer : Outcome (Option Delivery)}
    (h : Claims now settings table answer next) : table.Withholds next := by
  cases h with
  | failed => exact .refl table
  | nothing => exact .refl table
  | handedOut _ _ => exact .claimed ..
  | stuck => exact .claimed ..
  | discarded => exact (Withholds.claimed ..).trans (.delete ..)

/-- A message that is settled is deleted or visible again, unless the statement fails. -/
theorem settle_cases {d : Delivery} {result : Outcome ChunkOutcome} {answer : Outcome Unit}
    (h : (Queue.settle d result).run (serve now trouble) table = (answer, next)) :
    next = table ∧ ((∃ f, answer = .error f) ∨ d.messageId = none) ∨
      ∃ id, d.messageId = some id ∧
        ((∃ outcome, result = .ok outcome) ∧ next = table.delete id ∨
          (∃ f, result = .error f) ∧ next = table.change id Entry.released) := by
  unfold Queue.settle at h
  cases result with
  | ok outcome =>
    simp only [Settlement.of, Queue.ack, Queue.delete] at h
    split at h
    · rename_i id hid
      rw [run_request] at h
      split at h
      · cases h
        exact .inl ⟨rfl, .inl ⟨_, rfl⟩⟩
      · cases h
        exact .inr ⟨id, hid, .inl ⟨⟨outcome, rfl⟩, rfl⟩⟩
    · cases h
      exact .inl ⟨rfl, .inr ‹_›⟩
  | error f =>
    simp only [Settlement.of, Queue.nack] at h
    split at h
    · rename_i id hid
      rw [run_request] at h
      split at h
      · cases h
        exact .inl ⟨rfl, .inl ⟨_, rfl⟩⟩
      · cases h
        exact .inr ⟨id, hid, .inr ⟨⟨f, rfl⟩, rfl⟩⟩
    · cases h
      exact .inl ⟨rfl, .inr ‹_›⟩

theorem shrinks_of_settle {d : Delivery} {result : Outcome ChunkOutcome} {answer : Outcome Unit}
    (h : (Queue.settle d result).run (serve now trouble) table = (answer, next)) :
    table.Shrinks next := by
  rcases settle_cases h with ⟨rfl, -⟩ | ⟨id, -, ⟨-, rfl⟩ | ⟨-, rfl⟩⟩
  · exact .refl next
  · exact .delete table id
  · exact .change table id (fun _ => rfl) fun _ => rfl

end Scripts

end QueueTable

end Sql

end CatalogIntake
