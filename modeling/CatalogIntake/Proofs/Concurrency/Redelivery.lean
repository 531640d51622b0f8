import CatalogIntake.Proofs.Chunk
import CatalogIntake.Proofs.Concurrency.Holding
import Mathlib.Data.List.Nodup

/-!
When a message is counted twice. The queue may hand out a message that has been counted already,
when it was not acknowledged, or that another worker still has in hand, when its time ran out. A run
in which that does not happen counts every message at most once.
-/

namespace CatalogIntake.Concurrency

open Sql

/-- The delivery carries the chunk that was published under the number of its message. -/
def Sent (taken : List Chunk) (d : Delivery) : Prop :=
  ∃ (k : Nat) (c : Chunk), d.messageId = some ↑(k + 1) ∧ taken[k]? = some c ∧
    Chunk.decode c.toJson = .ok d.chunk

theorem Sent.append {taken : List Chunk} {d : Delivery} (h : Sent taken d) (more : List Chunk) :
    Sent (taken ++ more) d := by
  obtain ⟨k, c, hid, hget, hdecode⟩ := h
  refine ⟨k, c, hid, ?_, hdecode⟩
  rw [List.getElem?_append_left (List.getElem?_eq_some_iff.mp hget).1]
  exact hget

def Errand.isClaim : Errand → Bool
  | claim _ _ => true
  | _ => false

namespace Depot

/-- Messages are numbered in the order of publishing, and every message, wherever it is, still
holds the chunk that was published under its number. -/
structure Posted (s : Depot) : Prop where
  lastId : s.table.lastId = s.system.taken.length
  entries : ∀ e ∈ s.table.entries, ∃ (k : Nat) (c : Chunk), e.id = k + 1 ∧
    s.system.taken[k]? = some c ∧ e.payload = c.toJson
  held : ∀ {j : Nat} {d : Delivery} {stage : Stage}, s.system.holding j = some (d, stage) →
    Sent s.system.taken d
  counted : ∀ d ∈ s.system.countings, Sent s.system.taken d

variable {s s' : Depot} {e : Errand}

theorem posted_opening (world : World) (workers : Nat) (settings : QueueSettings) :
    (opening world workers settings).Posted where
  lastId := rfl
  entries := fun e he => by cases he
  held := fun {j} _ _ h => nomatch (System.holding_opening world workers j).symm.trans h
  counted := fun d hd => by cases hd

theorem Posted.entries_of_shrinks (h : s.Posted) {table : QueueTable}
    (shrinks : s.table.Shrinks table) : ∀ e ∈ table.entries, ∃ (k : Nat) (c : Chunk),
      e.id = k + 1 ∧ s.system.taken[k]? = some c ∧ e.payload = c.toJson := by
  intro e he
  obtain ⟨e₀, he₀, hid, hpayload⟩ := shrinks.entries e he
  obtain ⟨k, c, hk, hget, hc⟩ := h.entries e₀ he₀
  exact ⟨k, c, hid.trans hk, hget, hpayload.trans hc⟩

theorem Posted.sent_of_claims (h : s.Posted) {d : Delivery} {table : QueueTable}
    (claims : QueueTable.Claims s.now s.settings s.table (.ok (some d)) table) :
    Sent s.system.taken d := by
  cases claims with
  | @handedOut e chunk oldest decodes =>
    obtain ⟨k, c, hid, hget, hpayload⟩ := h.entries e (List.mem_of_find?_eq_some oldest)
    refine ⟨k, c, ?_, hget, hpayload ▸ decodes⟩
    rw [hid]

/-- Nothing was published, and what is in hand or counted now was so before. -/
theorem Posted.keep (h : s.Posted) (table : s.table.Shrinks s'.table)
    (taken : s'.system.taken = s.system.taken)
    (held : ∀ {j : Nat} {d : Delivery} {stage : Stage}, s'.system.holding j = some (d, stage) →
      Sent s.system.taken d)
    (counted : ∀ d ∈ s'.system.countings, Sent s.system.taken d) : s'.Posted where
  lastId := by
    rw [table.lastId, taken]
    exact h.lastId
  entries := by
    rw [taken]
    exact h.entries_of_shrinks table
  held := by
    intro j d stage hj
    rw [taken]
    exact held hj
  counted := by
    rw [taken]
    exact counted

theorem Posted.shift (h : s.Posted) (shift : Shift s e s') : s'.Posted := by
  -- only publishing adds an entry, and the bus takes its chunk in the same step
  cases shift with
  | rested table taken countings holding =>
    refine h.keep table.toShrinks taken (fun hj => h.held ((holding _).symm.trans hj)) ?_
    rw [countings]
    exact h.counted
  | @published chunk table taken countings holding =>
    constructor
    · rw [table, taken, List.length_append]
      exact congrArg (· + 1) h.lastId
    · intro e he
      rw [table] at he
      rcases List.mem_append.mp he with he | he
      · obtain ⟨k, c, hid, hget, hpayload⟩ := h.entries e he
        refine ⟨k, c, hid, ?_, hpayload⟩
        rw [taken, List.getElem?_append_left (List.getElem?_eq_some_iff.mp hget).1]
        exact hget
      · obtain rfl := List.mem_singleton.mp he
        refine ⟨s.system.taken.length, chunk, congrArg (· + 1) h.lastId, ?_, rfl⟩
        rw [taken]
        exact List.getElem?_concat_length
    · intro j d stage hj
      rw [taken]
      exact (h.held ((holding j).symm.trans hj)).append _
    · intro d hd
      rw [countings] at hd
      rw [taken]
      exact (h.counted d hd).append _
  | @claimed j d _ _ claims idle taken countings holding =>
    refine h.keep claims.withholds.toShrinks taken ?_ ?_
    · intro k e stage hk
      rw [holding] at hk
      split at hk
      · cases hk
        exact h.sent_of_claims claims
      · exact h.held hk
    · rw [countings]
      exact h.counted
  | @worked j d stage next counts table had _ _ _ taken countings holding =>
    refine h.keep (table ▸ .refl _) taken ?_ ?_
    · intro k e stage' hk
      rw [holding] at hk
      split at hk
      · cases hk
        exact h.held had
      · exact h.held hk
    · intro e he
      rw [countings] at he
      rcases List.mem_append.mp he with he | he
      · exact h.counted e he
      · split at he
        · obtain rfl := List.mem_singleton.mp he
          exact h.held had
        · cases he
  | @settled j d result _ _ _ settles had taken countings holding =>
    refine h.keep (QueueTable.shrinks_of_settle settles) taken ?_ ?_
    · intro k e stage hk
      rw [holding] at hk
      split at hk
      · cases hk
      · exact h.held hk
    · rw [countings]
      exact h.counted

end Depot

namespace System

def Free (s : System) (id : Option Int) : Prop :=
  id ∉ s.countedIds ∧ ∀ (j : Nat) (d : Delivery) (stage : Stage),
    s.holding j = some (d, stage) → d.messageId = id → stage.isSettled = true

/-- Whatever the step puts into the hands of a worker is free. -/
def HandsFree (s s' : System) : Prop :=
  ∀ (j : Nat) (d : Delivery) (stage : Stage), s.holding j = none →
    s'.holding j = some (d, stage) → s.Free d.messageId

/-- No message is counted twice, and none can be as long as only free ones are handed out. -/
structure Single (s : System) : Prop where
  once : s.countedIds.Nodup
  alone : ∀ {j k : Nat} {d e : Delivery} {stage next : Stage}, s.holding j = some (d, stage) →
    s.holding k = some (e, next) → stage.isSettled = false → next.isSettled = false →
    d.messageId = e.messageId → j = k
  uncounted : ∀ {j : Nat} {d : Delivery} {stage : Stage}, s.holding j = some (d, stage) →
    stage.isSettled = false → stage.isCounted = false → d.messageId ∉ s.countedIds

def Recorded (s : System) : Prop :=
  ∀ {j : Nat} {d : Delivery} {stage : Stage}, s.holding j = some (d, stage) →
    stage.isCounted = true → d.messageId ∈ s.countedIds

end System

namespace Depot

variable {s s' : Depot} {e : Errand}

/-- A step puts nothing into the hands of a worker, or it is a claim that puts one delivery into the
hands of one that had none. -/
theorem hands_cases (shift : Shift s e s') :
    (∀ j d stage, s.system.holding j = none → s'.system.holding j ≠ some (d, stage)) ∨
      ∃ j d, e.isClaim = true ∧ s.system.holding j = none ∧
        s'.system.countings = s.system.countings ∧
        ∀ k, s'.system.holding k = if k = j then some (d, .loading) else s.system.holding k := by
  cases shift with
  | rested _ _ _ holding | published _ _ _ holding =>
    refine .inl fun j d stage hnone => ?_
    rw [holding, hnone]
    exact fun h => nomatch h
  | claimed errand _ idle _ countings holding =>
    exact .inr ⟨_, _, by rw [errand]; rfl, idle, countings, holding⟩
  | worked _ _ had _ _ _ _ _ holding =>
    refine .inl fun j d stage hnone => ?_
    rw [holding]
    split
    · rename_i hj
      rw [hj, had] at hnone
      cases hnone
    · rw [hnone]
      exact fun h => nomatch h
  | settled _ _ _ _ _ holding =>
    refine .inl fun j d stage hnone => ?_
    rw [holding]
    split
    · exact fun h => nomatch h
    · rw [hnone]
      exact fun h => nomatch h

theorem handsFree_of_shift (shift : Shift s e s') (claimFree : e.isClaim = false) :
    s.system.HandsFree s'.system := by
  intro j d stage hnone hsome
  rcases hands_cases shift with hnothing | ⟨_, _, hclaim, -⟩
  · exact absurd hsome (hnothing j d stage hnone)
  · rw [claimFree] at hclaim
    cases hclaim

theorem single_opening (world : World) (workers : Nat) :
    (System.opening world workers).Single ∧ (System.opening world workers).Recorded := by
  have nothing {j : Nat} {d : Delivery} {stage : Stage} :
      (System.opening world workers).holding j ≠ some (d, stage) :=
    fun h => nomatch (System.holding_opening world workers j).symm.trans h
  refine ⟨⟨List.nodup_nil, fun h => absurd h nothing, fun h => absurd h nothing⟩, ?_⟩
  exact fun h => absurd h nothing

theorem Single.keep (h : s.system.Single) (countings : s'.system.countings = s.system.countings)
    (holding : ∀ {k : Nat} {d : Delivery} {stage : Stage}, s'.system.holding k = some (d, stage) →
      s.system.holding k = some (d, stage)) : s'.system.Single := by
  have ids := System.countedIds_of_countings countings
  constructor
  · rw [ids]
    exact h.once
  · intro j k d e stage next hj hk
    exact h.alone (holding hj) (holding hk)
  · intro j d stage hj
    rw [ids]
    exact h.uncounted (holding hj)

theorem Single.claim {j : Nat} {d : Delivery} (h : s.system.Single)
    (free : s.system.Free d.messageId) (countings : s'.system.countings = s.system.countings)
    (holding : ∀ k, s'.system.holding k =
      if k = j then some (d, .loading) else s.system.holding k) : s'.system.Single := by
  have ids := System.countedIds_of_countings countings
  have others {k : Nat} {e : Delivery} {stage : Stage} (hk : s.system.holding k = some (e, stage))
      (atWork : stage.isSettled = false) : e.messageId ≠ d.messageId := by
    intro hid
    rw [free.2 k e stage hk hid] at atWork
    cases atWork
  constructor
  · rw [ids]
    exact h.once
  · intro k l e e' stage next hk hl hstage hnext hid
    rw [holding] at hk hl
    split at hk
    · rename_i hkj
      cases hk
      split at hl
      · rename_i hlj
        exact hkj.trans hlj.symm
      · exact absurd hid.symm (others hl hnext)
    · split at hl
      · cases hl
        exact absurd hid (others hk hstage)
      · exact h.alone hk hl hstage hnext hid
  · intro k e stage hk hstage huncounted
    rw [ids]
    rw [holding] at hk
    split at hk
    · cases hk
      exact free.1
    · exact h.uncounted hk hstage huncounted

theorem Single.work {j : Nat} {d : Delivery} {stage next : Stage} {counts : Bool}
    (h : s.system.Single) (had : s.system.holding j = some (d, stage))
    (atWork : stage.isSettled = false) (uncounted : counts = true → stage.isCounted = false)
    (isCounted : next.isCounted = (stage.isCounted || counts))
    (countings : s'.system.countings = s.system.countings ++ if counts then [d] else [])
    (holding : ∀ k, s'.system.holding k = if k = j then some (d, next) else s.system.holding k) :
    s'.system.Single := by
  have ids := System.countedIds_append countings
  -- a worker at work now was at work on the same message before
  have before {k : Nat} {e : Delivery} {stage' : Stage}
      (hk : s'.system.holding k = some (e, stage')) (hstage : stage'.isSettled = false) :
      ∃ old, s.system.holding k = some (e, old) ∧ old.isSettled = false := by
    rw [holding] at hk
    split at hk
    · rename_i hkj
      cases hk
      exact ⟨stage, hkj ▸ had, atWork⟩
    · exact ⟨stage', hk, hstage⟩
  constructor
  · rw [ids]
    split
    · rename_i hcounts
      rw [List.nodup_append]
      refine ⟨h.once, List.nodup_singleton _, ?_⟩
      rintro id hid _ hmem rfl
      rw [List.mem_singleton.mp hmem] at hid
      exact h.uncounted had atWork (uncounted hcounts) hid
    · rw [List.append_nil]
      exact h.once
  · intro k l e e' stage₁ stage₂ hk hl hstage₁ hstage₂ hid
    obtain ⟨old₁, hk, hold₁⟩ := before hk hstage₁
    obtain ⟨old₂, hl, hold₂⟩ := before hl hstage₂
    exact h.alone hk hl hold₁ hold₂ hid
  · intro k e stage' hk hstage huncounted hmem
    rw [ids] at hmem
    rw [holding] at hk
    split at hk
    · cases hk
      rw [isCounted, Bool.or_eq_false_iff] at huncounted
      rw [huncounted.2, if_neg (by exact Bool.false_ne_true), List.append_nil] at hmem
      exact h.uncounted had atWork huncounted.1 hmem
    · rename_i hkj
      rcases List.mem_append.mp hmem with hmem | hmem
      · exact h.uncounted hk hstage huncounted hmem
      · split at hmem
        · exact hkj (h.alone hk had hstage atWork (List.mem_singleton.mp hmem))
        · cases hmem

theorem Single.shift (h : s.system.Single) (shift : Shift s e s')
    (free : s.system.HandsFree s'.system) : s'.system.Single := by
  cases shift with
  | rested _ _ countings holding =>
    exact Single.keep h countings fun hk => (holding _).symm.trans hk
  | published _ _ countings holding =>
    exact Single.keep h countings fun hk => (holding _).symm.trans hk
  | @claimed j d _ _ _ idle _ countings holding =>
    exact Single.claim h (free j d .loading idle ((holding j).trans (if_pos rfl))) countings holding
  | worked counts _ had atWork uncounted isCounted _ countings holding =>
    exact Single.work h had atWork uncounted isCounted countings holding
  | settled _ _ _ _ countings holding =>
    refine Single.keep h countings fun hk => ?_
    rw [holding] at hk
    split at hk
    · cases hk
    · exact hk

theorem recorded_shift (h : s.system.Recorded) (shift : Shift s e s') : s'.system.Recorded := by
  intro k e stage hk hcounted
  cases shift with
  | rested _ _ countings holding | published _ _ countings holding =>
    rw [System.countedIds_of_countings countings]
    exact h ((holding k).symm.trans hk) hcounted
  | claimed _ _ _ _ countings holding =>
    rw [System.countedIds_of_countings countings]
    rw [holding] at hk
    split at hk
    · cases hk
      cases hcounted
    · exact h hk hcounted
  | @worked j d stage' next counts _ had _ _ isCounted _ countings holding =>
    rw [System.countedIds_append countings, List.mem_append]
    rw [holding] at hk
    split at hk
    · cases hk
      rw [isCounted, Bool.or_eq_true] at hcounted
      rcases hcounted with hcounted | hcounts
      · exact .inl (h had hcounted)
      · exact .inr (by simp [hcounts])
    · exact .inl (h hk hcounted)
  | settled _ _ _ _ countings holding =>
    rw [System.countedIds_of_countings countings]
    rw [holding] at hk
    split at hk
    · cases hk
    · exact h hk hcounted

/-- Every step of the run hands out free messages only. -/
def Orderly (s : Depot) : List Errand → Prop
  | [] => True
  | e :: rest => ∀ s', s.act e = some s' → s.system.HandsFree s'.system ∧ s'.Orderly rest

end Depot

end CatalogIntake.Concurrency
