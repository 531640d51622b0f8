import CatalogIntake.Proofs.Concurrency.Redelivery

/-!
When nothing goes wrong with the queue. If every acknowledgement reaches it, and no claim takes a
message from a worker whose time has run out, every message is in one pair of hands only until it is
done with, so that a run is orderly.
-/

namespace CatalogIntake.Concurrency.Depot

open Sql

/-- A claim takes a message that nobody has claimed, and an acknowledgement reaches the queue. -/
def isPunctual (s : Depot) : Errand → Bool
  | .claim _ _ => (s.table.oldest? s.now s.settings).all (·.claimedAt.isNone)
  | .settle j trouble =>
    match s.system.holding j with
    | some (d, .settled (.ok outcome)) =>
      ((Queue.settle d (.ok outcome)).run (QueueTable.serve s.now trouble) s.table).1.isOk
    | _ => true
  | _ => true

def staysPunctual (s : Depot) : List Errand → Bool
  | [] => true
  | e :: rest => s.isPunctual e && (s.act e).all fun s => s.staysPunctual rest

/-- A message is in one pair of hands at most. One that is not claimed is in none and has not been
counted, and one that has been counted is in hand as long as it is in the table. -/
structure Exclusive (s : Depot) : Prop where
  ids : (s.table.entries.map (·.id)).Nodup
  alone : ∀ {j k : Nat} {d e : Delivery} {stage next : Stage},
    s.system.holding j = some (d, stage) → s.system.holding k = some (e, next) →
      d.messageId = e.messageId → j = k
  uncounted : ∀ {e : Entry}, e ∈ s.table.entries → e.claimedAt = none →
    some ↑e.id ∉ s.system.countedIds
  unheld : ∀ {e : Entry}, e ∈ s.table.entries → e.claimedAt = none →
    ∀ {j : Nat} {d : Delivery} {stage : Stage}, s.system.holding j = some (d, stage) →
      d.messageId ≠ some ↑e.id
  counted : ∀ {e : Entry}, e ∈ s.table.entries → some ↑e.id ∈ s.system.countedIds →
    ∃ j d stage, s.system.holding j = some (d, stage) ∧ d.messageId = some ↑e.id ∧
      stage.isCounted = true

variable {s s' : Depot} {e : Errand}

theorem exclusive_opening (world : World) (workers : Nat) (settings : QueueSettings) :
    (opening world workers settings).Exclusive where
  ids := List.nodup_nil
  alone := fun {j} _ _ _ _ _ h => nomatch (System.holding_opening world workers j).symm.trans h
  uncounted := fun h => by cases h
  unheld := fun h => by cases h
  counted := fun h => by cases h

theorem Exclusive.rest (h : s.Exclusive) (table : s.table.Withholds s'.table)
    (countings : s'.system.countings = s.system.countings)
    (holding : ∀ k, s'.system.holding k = s.system.holding k) : s'.Exclusive where
  ids := h.ids.sublist table.ids
  alone := fun hj hk => h.alone ((holding _).symm.trans hj) ((holding _).symm.trans hk)
  uncounted := by
    intro e he hnone
    rw [System.countedIds_of_countings countings]
    exact h.uncounted (table.unclaimed e he hnone) hnone
  unheld := by
    intro e he hnone j d stage hj
    exact h.unheld (table.unclaimed e he hnone) hnone ((holding j).symm.trans hj)
  counted := by
    intro e he hmem
    obtain ⟨old, hold, hid, -⟩ := table.entries e he
    rw [System.countedIds_of_countings countings, hid] at hmem
    obtain ⟨j, d, stage, hj, hd, hstage⟩ := h.counted hold hmem
    exact ⟨j, d, stage, (holding j).trans hj, hid ▸ hd, hstage⟩

/-- A number that has not been given yet is in nobody's hands and has not been counted. -/
theorem Posted.next_id (h : s.Posted) :
    some ↑(s.table.lastId + 1) ∉ s.system.countedIds ∧
      ∀ {j : Nat} {d : Delivery} {stage : Stage}, s.system.holding j = some (d, stage) →
        d.messageId ≠ some ↑(s.table.lastId + 1) := by
  have other {d : Delivery} (sent : Sent s.system.taken d) :
      d.messageId ≠ some ↑(s.table.lastId + 1) := by
    obtain ⟨k, c, hid, hget, -⟩ := sent
    have hlt : k < s.system.taken.length := (List.getElem?_eq_some_iff.mp hget).1
    rw [hid, h.lastId]
    intro heq
    have hsame := Option.some.inj heq
    omega
  constructor
  · intro hmem
    obtain ⟨d, hd, hid⟩ := List.mem_map.mp hmem
    exact other (h.counted d hd) hid
  · exact fun hj => other (h.held hj)

theorem Exclusive.publish {chunk : Chunk} (h : s.Exclusive) (posted : s.Posted)
    (table : s'.table = s.table.insert s.settings.routingKey chunk)
    (countings : s'.system.countings = s.system.countings)
    (holding : ∀ k, s'.system.holding k = s.system.holding k) : s'.Exclusive := by
  obtain ⟨hcounted, hheld⟩ := posted.next_id
  have entries : s'.table.entries = s.table.entries ++
      [⟨s.table.lastId + 1, s.settings.routingKey, chunk.toJson, 0, none⟩] :=
    congrArg QueueTable.entries table
  have ids := System.countedIds_of_countings countings
  constructor
  · rw [entries, List.map_append, List.nodup_append]
    refine ⟨h.ids, List.nodup_singleton _, ?_⟩
    rintro id hid _ hnew rfl
    obtain ⟨e, he, rfl⟩ := List.mem_map.mp hid
    obtain ⟨k, c, hk, hget, -⟩ := posted.entries e he
    have hlt : k < s.system.taken.length := (List.getElem?_eq_some_iff.mp hget).1
    have hlast : e.id = s.table.lastId + 1 := List.mem_singleton.mp hnew
    rw [posted.lastId] at hlast
    omega
  · exact fun hj hk => h.alone ((holding _).symm.trans hj) ((holding _).symm.trans hk)
  · intro e he hnone
    rw [entries] at he
    rw [ids]
    rcases List.mem_append.mp he with he | he
    · exact h.uncounted he hnone
    · rw [List.mem_singleton.mp he]
      exact hcounted
  · intro e he hnone j d stage hj
    rw [entries] at he
    rw [holding] at hj
    rcases List.mem_append.mp he with he | he
    · exact h.unheld he hnone hj
    · rw [List.mem_singleton.mp he]
      exact hheld hj
  · intro e he hmem
    rw [entries] at he
    rw [ids] at hmem
    rcases List.mem_append.mp he with he | he
    · obtain ⟨j, d, stage, hj, hd, hstage⟩ := h.counted he hmem
      exact ⟨j, d, stage, (holding j).trans hj, hd, hstage⟩
    · rw [List.mem_singleton.mp he] at hmem
      exact absurd hmem hcounted

theorem Exclusive.claim {j : Nat} {d : Delivery} {old : Entry} (h : s.Exclusive)
    (here : old ∈ s.table.entries) (unclaimed : old.claimedAt = none)
    (hid : d.messageId = some ↑old.id) (idle : s.system.holding j = none)
    (table : s'.table = s.table.change old.id (Entry.claimed s.now))
    (countings : s'.system.countings = s.system.countings)
    (holding : ∀ k, s'.system.holding k =
      if k = j then some (d, .loading) else s.system.holding k) : s'.Exclusive := by
  have ids := System.countedIds_of_countings countings
  have withholds : s.table.Withholds s'.table := table ▸ .claimed s.table old.id s.now
  constructor
  · exact h.ids.sublist withholds.ids
  · intro k l e f stage next hk hl heq
    rw [holding] at hk hl
    split at hk
    · rename_i hkj
      cases hk
      split at hl
      · rename_i hlj
        exact hkj.trans hlj.symm
      · exact absurd (heq.symm.trans hid) (h.unheld here unclaimed hl)
    · split at hl
      · cases hl
        exact absurd (heq.trans hid) (h.unheld here unclaimed hk)
      · exact h.alone hk hl heq
  · intro e he hnone
    rw [ids]
    exact h.uncounted (withholds.unclaimed e he hnone) hnone
  · intro e he hnone k f stage hk
    rw [table] at he
    obtain ⟨hmem, hne⟩ := QueueTable.unclaimed_of_claimed he hnone
    rw [holding] at hk
    split at hk
    · cases hk
      rw [hid]
      exact fun heq => hne (Option.some.inj heq).symm
    · exact h.unheld hmem hnone hk
  · intro e he hmem
    obtain ⟨before, hbefore, hsame, -⟩ := withholds.entries e he
    rw [ids, hsame] at hmem
    obtain ⟨k, f, stage, hk, hf, hstage⟩ := h.counted hbefore hmem
    refine ⟨k, f, stage, ?_, hsame ▸ hf, hstage⟩
    rw [holding, if_neg, hk]
    intro hkj
    rw [hkj, idle] at hk
    cases hk

theorem Exclusive.work {j : Nat} {d : Delivery} {stage next : Stage} {counts : Bool}
    (h : s.Exclusive) (table : s'.table = s.table) (had : s.system.holding j = some (d, stage))
    (isCounted : next.isCounted = (stage.isCounted || counts))
    (countings : s'.system.countings = s.system.countings ++ if counts then [d] else [])
    (holding : ∀ k, s'.system.holding k = if k = j then some (d, next) else s.system.holding k) :
    s'.Exclusive := by
  have ids := System.countedIds_append countings
  -- the same deliveries are in the same hands
  have before {k : Nat} {f : Delivery} {stage' : Stage}
      (hk : s'.system.holding k = some (f, stage')) :
      ∃ old, s.system.holding k = some (f, old) := by
    rw [holding] at hk
    split at hk
    · rename_i hkj
      cases hk
      exact ⟨stage, hkj ▸ had⟩
    · exact ⟨stage', hk⟩
  constructor
  · rw [table]
    exact h.ids
  · intro k l e f stage₁ stage₂ hk hl heq
    obtain ⟨_, hk⟩ := before hk
    obtain ⟨_, hl⟩ := before hl
    exact h.alone hk hl heq
  · intro e he hnone hmem
    rw [table] at he
    rw [ids] at hmem
    rcases List.mem_append.mp hmem with hmem | hmem
    · exact h.uncounted he hnone hmem
    · split at hmem
      · exact h.unheld he hnone had (List.mem_singleton.mp hmem).symm
      · cases hmem
  · intro e he hnone k f stage' hk
    rw [table] at he
    obtain ⟨_, hk⟩ := before hk
    exact h.unheld he hnone hk
  · intro e he hmem
    rw [table] at he
    rw [ids] at hmem
    rcases List.mem_append.mp hmem with hmem | hmem
    · obtain ⟨k, f, stage', hk, hf, hstage⟩ := h.counted he hmem
      by_cases hkj : k = j
      · subst hkj
        obtain ⟨rfl, rfl⟩ := Prod.mk.inj (Option.some.inj (had.symm.trans hk))
        refine ⟨k, d, next, (holding k).trans (if_pos rfl), hf, ?_⟩
        rw [isCounted, hstage]
        rfl
      · exact ⟨k, f, stage', (holding k).trans ((if_neg hkj).trans hk), hf, hstage⟩
    · split at hmem
      · rename_i hcounts
        refine ⟨j, d, next, (holding j).trans (if_pos rfl), (List.mem_singleton.mp hmem).symm, ?_⟩
        rw [isCounted, hcounts, Bool.or_true]
      · cases hmem

/-- A worker gives up its delivery. What is in the table and unclaimed afterwards is neither counted
nor in other hands, and what is in the table and counted is in other hands. -/
theorem Exclusive.leave {j : Nat} (h : s.Exclusive) (table : s.table.Shrinks s'.table)
    (countings : s'.system.countings = s.system.countings)
    (holding : ∀ k, s'.system.holding k = if k = j then none else s.system.holding k)
    (unclaimed : ∀ e ∈ s'.table.entries, e.claimedAt = none →
      some ↑e.id ∉ s.system.countedIds ∧ ∀ k f stage, k ≠ j →
        s.system.holding k = some (f, stage) → f.messageId ≠ some ↑e.id)
    (counted : ∀ e ∈ s'.table.entries, ∀ k f stage, s.system.holding k = some (f, stage) →
      f.messageId = some ↑e.id → stage.isCounted = true → k ≠ j) : s'.Exclusive := by
  have ids := System.countedIds_of_countings countings
  have other {k : Nat} {f : Delivery} {stage : Stage} (hk : s'.system.holding k = some (f, stage)) :
      k ≠ j ∧ s.system.holding k = some (f, stage) := by
    rw [holding] at hk
    split at hk
    · cases hk
    · rename_i hkj
      exact ⟨hkj, hk⟩
  constructor
  · exact h.ids.sublist table.ids
  · exact fun hk hl => h.alone (other hk).2 (other hl).2
  · intro e he hnone
    rw [ids]
    exact (unclaimed e he hnone).1
  · intro e he hnone k f stage hk
    exact (unclaimed e he hnone).2 k f stage (other hk).1 (other hk).2
  · intro e he hmem
    obtain ⟨before, hbefore, hsame, -⟩ := table.entries e he
    rw [ids, hsame] at hmem
    obtain ⟨k, f, stage, hk, hf, hstage⟩ := h.counted hbefore hmem
    have hkj := counted e he k f stage hk (hsame ▸ hf) hstage
    exact ⟨k, f, stage, (holding k).trans ((if_neg hkj).trans hk), hsame ▸ hf, hstage⟩

theorem Exclusive.settle {j : Nat} {d : Delivery} {result : Outcome ChunkOutcome}
    {answer : Outcome Unit} {trouble : Trouble} (h : s.Exclusive) (posted : s.Posted)
    (had : s.system.holding j = some (d, .settled result))
    (punctual : s.isPunctual (.settle j trouble) = true)
    (settles : (Queue.settle d result).run (QueueTable.serve s.now trouble) s.table =
      (answer, s'.table))
    (countings : s'.system.countings = s.system.countings)
    (holding : ∀ k, s'.system.holding k = if k = j then none else s.system.holding k) :
    s'.Exclusive := by
  have shrinks := QueueTable.shrinks_of_settle settles
  obtain ⟨n, c, hid, -⟩ := posted.held had
  have notCounted {f : Failure} (hresult : result = .error f) {k : Nat} {e : Delivery}
      {stage : Stage} (hk : s.system.holding k = some (e, stage))
      (hstage : stage.isCounted = true) : k ≠ j := by
    rintro rfl
    rw [had, hresult] at hk
    cases hk
    cases hstage
  rcases QueueTable.settle_cases settles with
    ⟨table, ⟨f, hanswer⟩ | hnone⟩ | ⟨id, hid', ⟨-, table⟩ | ⟨⟨f, hresult⟩, table⟩⟩
  · -- only what has failed may go unheard
    obtain ⟨g, hresult⟩ : ∃ g, result = .error g := by
      cases result with
      | error g => exact ⟨g, rfl⟩
      | ok outcome =>
        simp only [isPunctual, had, settles, hanswer] at punctual
        cases punctual
    refine h.leave shrinks countings holding (fun e he hnone => ?_)
      fun e _ k f stage hk _ hstage => notCounted hresult hk hstage
    rw [table] at he
    exact ⟨h.uncounted he hnone, fun k f stage _ hk => h.unheld he hnone hk⟩
  · rw [hid] at hnone
    cases hnone
  · refine h.leave shrinks countings holding (fun e he hnone => ?_)
      fun e he k f stage hk hf _ hkj => ?_
    · rw [table] at he
      have hmem := (QueueTable.mem_delete he).1
      exact ⟨h.uncounted hmem hnone, fun k f stage _ hk => h.unheld hmem hnone hk⟩
    · rw [table] at he
      subst hkj
      rw [had] at hk
      cases hk
      rw [hid'] at hf
      exact (QueueTable.mem_delete he).2 (Option.some.inj hf).symm
  · refine h.leave shrinks countings holding (fun e he hnone => ?_)
      fun e _ k f stage hk _ hstage => notCounted hresult hk hstage
    rw [table] at he
    rcases QueueTable.cases_of_released he with hmem | ⟨hsame, old, hold, holdId⟩
    · exact ⟨h.uncounted hmem hnone, fun k f stage _ hk => h.unheld hmem hnone hk⟩
    · have hown : d.messageId = some ↑e.id := by rw [hid', hsame]
      refine ⟨fun hmem => ?_, fun k f stage hkj hk hf => hkj (h.alone hk had (hf.trans hown.symm))⟩
      rw [← holdId] at hmem
      obtain ⟨k, f, stage, hk, hf, hstage⟩ := h.counted hold hmem
      rw [holdId] at hf
      exact notCounted hresult hk hstage (h.alone hk had (hf.trans hown.symm))

theorem Exclusive.free {old : Entry} (h : s.Exclusive) (here : old ∈ s.table.entries)
    (unclaimed : old.claimedAt = none) : s.system.Free (some ↑old.id) :=
  ⟨h.uncounted here unclaimed, fun _ _ _ hj hid => absurd hid (h.unheld here unclaimed hj)⟩

theorem Exclusive.shift (h : s.Exclusive) (posted : s.Posted) (shift : Shift s e s')
    (punctual : s.isPunctual e = true) : s'.Exclusive ∧ s.system.HandsFree s'.system := by
  cases shift with
  | rested table taken countings holding =>
    refine ⟨h.rest table countings holding, fun j d stage hnone hsome => ?_⟩
    rw [holding, hnone] at hsome
    cases hsome
  | published table taken countings holding =>
    refine ⟨h.publish posted table countings holding, fun j d stage hnone hsome => ?_⟩
    rw [holding, hnone] at hsome
    cases hsome
  | @claimed j d _ errand claims idle _ countings holding =>
    obtain ⟨old, oldest, hid, table⟩ := claims.handed
    have here : old ∈ s.table.entries := List.mem_of_find?_eq_some oldest
    have unclaimed : old.claimedAt = none := by
      rw [errand] at punctual
      simpa [isPunctual, oldest] using punctual
    refine ⟨h.claim here unclaimed hid idle table countings holding, ?_⟩
    intro k f stage hnone hsome
    rw [holding] at hsome
    split at hsome
    · cases hsome
      rw [hid]
      exact h.free here unclaimed
    · rw [hnone] at hsome
      cases hsome
  | worked _ table had _ _ isCounted _ countings holding =>
    refine ⟨h.work table had isCounted countings holding, fun k f stage hnone hsome => ?_⟩
    rw [holding] at hsome
    split at hsome
    · rename_i hk
      rw [hk, had] at hnone
      cases hnone
    · rw [hnone] at hsome
      cases hsome
  | settled errand settles had _ countings holding =>
    rw [errand] at punctual
    refine ⟨h.settle posted had punctual settles countings holding, fun k f stage hnone hsome => ?_⟩
    rw [holding] at hsome
    split at hsome
    · cases hsome
    · rw [hnone] at hsome
      cases hsome

/-- When every message is acknowledged in time, only free messages are handed out. -/
theorem orderly_of_punctual {errands : List Errand} (exclusive : s.Exclusive) (posted : s.Posted)
    (punctual : s.staysPunctual errands = true) : s.Orderly errands := by
  induction errands generalizing s with
  | nil => trivial
  | cons e rest ih =>
    intro s' hact
    have shift := (step_of_act hact).shift
    rw [staysPunctual, hact, Bool.and_eq_true] at punctual
    obtain ⟨exclusive', free⟩ := exclusive.shift posted shift punctual.1
    exact ⟨free, ih exclusive' (posted.shift shift) punctual.2⟩

end CatalogIntake.Concurrency.Depot
