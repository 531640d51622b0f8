import CatalogIntake.Proofs.Sql.Insertion
import CatalogIntake.Settings.Basic
import CatalogIntake.Sql.Errors
import CatalogIntake.Sql.Products
import Mathlib.Data.List.Forall2

/-!
Insertions of many items. They are sent in one transaction, slice by slice and up to the first
statement that fails, and are committed if none does.
-/

namespace CatalogIntake.Sql

namespace Script

/-- A server that replies as dictated, whatever it is sent, and writes down what that is. -/
def dictated (replies : Nat → Answer) (statement : Statement) (sent : List Statement) :
    Answer × List Statement :=
  (replies sent.length, sent ++ [statement])

def sent {α : Type} (p : Script α) (replies : Nat → Answer) : List Statement :=
  (p.run (dictated replies) []).2

def result {α : Type} (p : Script α) (replies : Nat → Answer) : α :=
  (p.run (dictated replies) []).1

/-- The statements up to the first that fails, when the replies are counted from `start`. -/
def upToFailure (replies : Nat → Answer) (start : Nat) : List Statement → List Statement
  | [] => []
  | statement :: rest =>
    statement :: if (replies start).isOk then upToFailure replies (start + 1) rest else []

variable {replies : Nat → Answer} {start : Nat} {statements rest : List Statement}

theorem upToFailure_begins (replies : Nat → Answer) (start : Nat) (statements : List Statement) :
    upToFailure replies start statements <+: statements := by
  induction statements generalizing start with
  | nil => exact List.prefix_rfl
  | cons statement rest ih =>
    unfold upToFailure
    split
    · exact List.cons_prefix_cons.mpr ⟨rfl, ih (start + 1)⟩
    · exact List.cons_prefix_cons.mpr ⟨rfl, List.nil_prefix⟩

def Succeed (replies : Nat → Answer) (start count : Nat) : Prop :=
  ∀ i < count, (replies (start + i)).isOk = true

theorem succeed_succ {count : Nat} :
    Succeed replies start (count + 1) ↔
      (replies start).isOk = true ∧ Succeed replies (start + 1) count := by
  constructor
  · intro h
    refine ⟨h 0 (Nat.succ_pos count), ?_⟩
    intro i hi
    have hlater := h (i + 1) (Nat.succ_lt_succ hi)
    rwa [← Nat.add_assoc, Nat.add_right_comm] at hlater
  · rintro ⟨first, later⟩ i hi
    cases i with
    | zero => exact first
    | succ i =>
      have hlater := later i (Nat.lt_of_succ_lt_succ hi)
      rwa [← Nat.add_assoc, Nat.add_right_comm]

theorem lt_length_upToFailure {k : Nat} :
    k < (upToFailure replies start statements).length ↔
      k < statements.length ∧ Succeed replies start k := by
  induction statements generalizing start k with
  | nil => simp [upToFailure]
  | cons statement rest ih =>
    unfold upToFailure
    cases k with
    | zero => simp [Succeed]
    | succ k =>
      rw [succeed_succ]
      cases hreply : (replies start).isOk with
      | false => simp
      | true => simp [ih]

theorem upToFailure_append (replies : Nat → Answer) (start : Nat) (front back : List Statement) :
    (Succeed replies start front.length →
      upToFailure replies start (front ++ back) =
        front ++ upToFailure replies (start + front.length) back) ∧
    (¬Succeed replies start front.length →
      upToFailure replies start (front ++ back) = upToFailure replies start front) := by
  induction front generalizing start with
  | nil => simp [Succeed]
  | cons statement rest ih =>
    simp only [List.length_cons, succeed_succ, List.cons_append, upToFailure]
    cases hreply : (replies start).isOk with
    | false => simp
    | true =>
      have hstart : start + (rest.length + 1) = start + 1 + rest.length := by omega
      simpa [hstart] using ih (start + 1)

variable (replies) in
theorem run_requestAll (attempt : Attempt) (statements before : List Statement) :
    ∃ result, (requestAll attempt statements).run (dictated replies) before =
        (result, before ++ upToFailure replies before.length statements) ∧
      (result = .ok () ↔ Succeed replies before.length statements.length) := by
  induction statements generalizing before with
  | nil => exact ⟨.ok (), by simp [requestAll, run, upToFailure], by simp [Succeed]⟩
  | cons statement rest ih =>
    unfold requestAll
    simp only [run, dictated, List.length_cons, succeed_succ, upToFailure]
    cases hreply : replies before.length with
    | error e => exact ⟨_, rfl, by simp [Except.isOk, Except.toBool]⟩
    | ok reply =>
      obtain ⟨result, hrun, hresult⟩ := ih (before ++ [statement])
      rw [List.length_append, List.length_singleton] at hrun hresult
      refine ⟨result, ?_, ?_⟩
      · rw [hrun]
        simp [Except.isOk, Except.toBool]
      · rw [hresult]
        simp [Except.isOk, Except.toBool]

theorem succeed_add {first second : Nat} :
    Succeed replies start (first + second) ↔
      Succeed replies start first ∧ Succeed replies (start + first) second := by
  induction first generalizing start with
  | zero => simp [Succeed]
  | succ first ih =>
    have hstart : start + (first + 1) = start + 1 + first := by omega
    rw [Nat.succ_add, succeed_succ, succeed_succ, ih, hstart, and_assoc]

def agenda (statements : List Statement) : List Statement := .begin :: statements ++ [.commit]

theorem succeed_agenda (replies : Nat → Answer) (statements : List Statement) :
    Succeed replies 0 (agenda statements).length ↔
      (replies 0).isOk = true ∧ Succeed replies 1 statements.length ∧
        (replies (1 + statements.length)).isOk = true := by
  have single : ∀ start, Succeed replies start 1 ↔ (replies start).isOk = true := by
    intro start
    rw [succeed_succ]
    simp [Succeed]
  have hlength : (agenda statements).length = (statements.length + 1) + 1 := by simp [agenda]
  rw [hlength, succeed_succ, succeed_add, single, Nat.zero_add]

/-- A transaction goes through its agenda up to the first failure. -/
theorem run_transaction (replies : Nat → Answer) (attempt commitAttempt : Attempt)
    (statements : List Statement) :
    ∃ result, (transaction attempt commitAttempt statements).run (dictated replies) [] =
        (result, upToFailure replies 0 (agenda statements)) ∧
      (result = .ok () ↔ Succeed replies 0 (agenda statements).length) := by
  rw [succeed_agenda]
  unfold transaction agenda
  simp only [run, dictated, List.cons_append, List.length_nil, upToFailure]
  cases hbegin : replies 0 with
  | error e => exact ⟨_, rfl, by simp [Except.isOk, Except.toBool]⟩
  | ok reply =>
    obtain ⟨result, hrun, hresult⟩ := run_requestAll replies attempt statements [.begin]
    simp only [List.length_singleton] at hrun hresult
    obtain ⟨whole, part⟩ := upToFailure_append replies 1 statements [.commit]
    have hone : (Except.ok reply : Answer).isOk = true := rfl
    simp only [hone, if_true, true_and, List.nil_append]
    rw [run_bind, hrun]
    cases result with
    | error f =>
      have broken : ¬Succeed replies 1 statements.length := fun h => nomatch hresult.mpr h
      refine ⟨.error f, ?_, ?_⟩
      · simp [run, part broken]
      · simp [broken]
    | ok done =>
      have kept := hresult.mp rfl
      have all_ := (upToFailure_append replies 1 statements []).1 kept
      simp only [List.append_nil, upToFailure] at all_
      have hsent : ([Statement.begin] ++ upToFailure replies 1 statements).length =
          1 + statements.length := by simp [all_, Nat.add_comm]
      simp only [run, dictated, hsent, whole kept, upToFailure]
      cases hcommit : replies (1 + statements.length) with
      | error e =>
        refine ⟨.error ⟨[commitAttempt], .database e⟩, ?_, ?_⟩
        · simp [run, all_, Except.isOk, Except.toBool]
        · simp [Except.isOk, Except.toBool]
      | ok reply =>
        refine ⟨.ok (), ?_, ?_⟩
        · simp [run, all_]
        · simp [kept, Except.isOk, Except.toBool]

end Script

section Slices

variable {α : Type} {size : Nat} {items : List α}

theorem flatten_slices (size : Nat) (items : List α) : (slices size items).flatten = items := by
  fun_induction slices size items with
  | case1 => rfl
  | case2 item rest most ih => rw [List.flatten_cons, ih, List.take_append_drop]

theorem length_of_mem_slices {slice : List α} (h : slice ∈ slices size items) :
    slice ≠ [] ∧ slice.length ≤ max size 1 := by
  fun_induction slices size items with
  | case1 => cases h
  | case2 item rest most ih =>
    rcases List.mem_cons.mp h with rfl | h
    · constructor
      · have some_ : most ≠ 0 := by omega
        simp [List.take_eq_nil_iff, some_]
      · exact List.length_take_le most (item :: rest)
    · exact ih h

theorem length_of_mem_dropLast_slices {slice : List α}
    (h : slice ∈ (slices size items).dropLast) : slice.length = max size 1 := by
  fun_induction slices size items with
  | case1 => cases h
  | case2 item rest most ih =>
    cases hdrop : (item :: rest).drop most with
    | nil =>
      rw [hdrop] at h
      simp [slices] at h
    | cons next others =>
      have some_ : slices size ((item :: rest).drop most) ≠ [] := by
        rw [hdrop, slices]
        exact List.cons_ne_nil _ _
      rw [List.dropLast_cons_of_ne_nil some_] at h
      rcases List.mem_cons.mp h with rfl | h
      · have long : (item :: rest).length - most = others.length + 1 := by
          rw [← List.length_drop, hdrop, List.length_cons]
        rw [List.length_take]
        omega
      · exact ih h

theorem head_slices (size : Nat) (nonempty : items ≠ []) :
    ∃ rest, slices size items = items.take (max size 1) :: rest := by
  cases items with
  | nil => exact absurd rfl nonempty
  | cons item rest => exact ⟨_, by rw [slices]⟩

end Slices

/-- Statements that insert the items slice by slice: the slices are consecutive, none is empty or
longer than the limit, and only the last may be shorter. -/
structure Covers {α : Type} (limit : Nat) (opening : String)
    (columns : α → List (String × Param)) (items : List α) (inserts : List Statement) : Prop where
  sliced : ∃ slices : List (List α), slices.flatten = items ∧
    (∀ slice ∈ slices, slice ≠ [] ∧ slice.length ≤ limit) ∧
    (∀ slice ∈ slices.dropLast, slice.length = limit) ∧
    List.Forall₂ (Inserts opening columns) slices inserts
  params : inserts.flatMap Statement.params =
    items.flatMap fun item => (columns item).map (·.2)

/-- These statements are sent within a transaction, each if all before it have succeeded. -/
structure Transacts (replies : Nat → Answer) (inserts sent : List Statement)
    (result : Outcome Unit) : Prop where
  begun : sent <+: .begin :: inserts ++ [.commit]
  stops : ∀ k < inserts.length + 2, (k < sent.length ↔ ∀ i < k, (replies i).isOk = true)
  commits : .commit ∈ sent ↔ ∀ i ≤ inserts.length, (replies i).isOk = true
  succeeds : result = .ok () ↔ .commit ∈ sent ∧ (replies (inserts.length + 1)).isOk = true

structure InsertsAll {α : Type} (limit : Nat) (opening : String)
    (columns : α → List (String × Param)) (items : List α) (script : Script (Outcome Unit))
    (replies : Nat → Answer) : Prop where
  silent : items = [] → script.sent replies = [] ∧ script.result replies = .ok ()
  spoken : items ≠ [] → ∃ inserts, Covers limit opening columns items inserts ∧
    Transacts replies inserts (script.sent replies) (script.result replies)

section Insertions

open Script

variable {α : Type} {replies : Nat → Answer} {inserts : List Statement}

theorem mem_prefix_iff {β : Type} {part front : List β} {last : β} (h : part <+: front ++ [last])
    (fresh : last ∉ front) : last ∈ part ↔ front.length < part.length := by
  constructor
  · intro hmem
    by_contra short
    have inside : part <+: front :=
      List.prefix_of_prefix_length_le h (List.prefix_append front [last]) (by omega)
    exact fresh (inside.subset hmem)
  · intro long
    have whole : part = front ++ [last] := h.eq_of_length_le (by simp; omega)
    simp [whole]

theorem transacts_transaction (attempt commitAttempt : Attempt)
    (uncommitted : .commit ∉ inserts) :
    Transacts replies inserts ((transaction attempt commitAttempt inserts).sent replies)
      ((transaction attempt commitAttempt inserts).result replies) := by
  obtain ⟨result, hrun, hresult⟩ := run_transaction replies attempt commitAttempt inserts
  have hsent : (transaction attempt commitAttempt inserts).sent replies =
      upToFailure replies 0 (agenda inserts) := congrArg Prod.snd hrun
  have houtcome : (transaction attempt commitAttempt inserts).result replies = result :=
    congrArg Prod.fst hrun
  have hlength : (agenda inserts).length = inserts.length + 2 := by simp [agenda]
  have begun := upToFailure_begins replies 0 (agenda inserts)
  have stops : ∀ k < inserts.length + 2,
      (k < (upToFailure replies 0 (agenda inserts)).length ↔
        ∀ i < k, (replies i).isOk = true) := by
    intro k hk
    rw [lt_length_upToFailure, hlength]
    simp [Succeed, hk]
  have commits : .commit ∈ upToFailure replies 0 (agenda inserts) ↔
      ∀ i ≤ inserts.length, (replies i).isOk = true := by
    have alone : Statement.commit ∉ Statement.begin :: inserts := by simp [uncommitted]
    rw [mem_prefix_iff begun alone, List.length_cons, stops _ (Nat.lt_succ_self _)]
    simp only [Nat.lt_succ_iff]
  rw [hsent, houtcome]
  refine ⟨begun, stops, commits, ?_⟩
  rw [hresult, commits, hlength]
  simp only [Succeed, Nat.zero_add, ← Nat.lt_succ_iff]
  exact Nat.forall_lt_succ_right

theorem covers_slices (size : Nat) {opening : String} {columns : α → List (String × Param)}
    {statement : List α → Statement}
    (h : ∀ slice, slice ≠ [] → Inserts opening columns slice (statement slice))
    (items : List α) :
    Covers (max size 1) opening columns items ((slices size items).map statement) := by
  have each : List.Forall₂ (Inserts opening columns) (slices size items)
      ((slices size items).map statement) := by
    rw [List.forall₂_map_right_iff, List.forall₂_same]
    intro slice hslice
    exact h slice (length_of_mem_slices hslice).1
  refine ⟨⟨_, flatten_slices size items, fun slice => length_of_mem_slices,
    fun slice => length_of_mem_dropLast_slices, each⟩, ?_⟩
  have values : ∀ slice ∈ slices size items, (statement slice).params =
      slice.flatMap fun item => (columns item).map (·.2) := by
    intro slice hslice
    exact (h slice (length_of_mem_slices hslice).1).params
  calc
    _ = (slices size items).flatMap fun slice => (statement slice).params := List.flatMap_map ..
    _ = (slices size items).flatMap fun slice =>
        slice.flatMap fun item => (columns item).map (·.2) := List.flatMap_congr values
    _ = (slices size items).flatten.flatMap fun item => (columns item).map (·.2) := by
      rw [← List.flatMap_id, List.flatMap_assoc]
      rfl
    _ = _ := by rw [flatten_slices]

theorem insertsAll_transaction (size : Nat) {opening : String}
    {columns : α → List (String × Param)} {statement : List α → Statement}
    (h : ∀ slice, slice ≠ [] → Inserts opening columns slice (statement slice))
    (uncommitted : ∀ slice, statement slice ≠ .commit) (attempt commitAttempt : Attempt)
    (items : List α) (replies : Nat → Answer) :
    InsertsAll (max size 1) opening columns items
      (if items.isEmpty then .done (.ok ())
        else transaction attempt commitAttempt ((slices size items).map statement)) replies where
  silent := by
    rintro rfl
    exact ⟨rfl, rfl⟩
  spoken := by
    intro nonempty
    have hne : items.isEmpty = false := by simpa using nonempty
    simp only [hne, Bool.false_eq_true, if_false]
    refine ⟨_, covers_slices size h items, transacts_transaction attempt commitAttempt ?_⟩
    simpa using fun slice _ => uncommitted slice

end Insertions

/-- Products and entries of the error log are inserted completely, in their order and with their
fields in the columns that bear their names, in statements of so many items; and all of them are
committed or none. -/
theorem bulk_insertions_complete (replies : Nat → Answer) :
    (∀ (size : Nat) (products : List Product),
      InsertsAll (max size 1) "INSERT INTO products " productRow products
        (Products.insertBatch size products) replies) ∧
    ∀ candidates : List ErrorCandidate,
      InsertsAll 1000 "INSERT INTO import_errors " errorRow candidates (Errors.save candidates)
        replies := by
  constructor
  · intro size products
    exact insertsAll_transaction size (fun _ => inserts_products) (fun _ => nofun)
      .insertProducts .commitProducts products replies
  · intro candidates
    exact insertsAll_transaction Errors.sliceSize (fun _ => inserts_errors) (fun _ => nofun)
      .insertErrors .commitErrors candidates replies

end CatalogIntake.Sql
