import CatalogIntake.Proofs.Concurrency.Billing
import Mathlib.Algebra.BigOperators.Fin
import Mathlib.Algebra.Order.BigOperators.Group.Finset

/-!
What double counting does to the counters. If every message is counted at most once, the rows
counted for a job are at most the rows published for it, and they are as many only when every chunk
has been counted.
-/

namespace CatalogIntake

def Chunk.rowsFor (id : JobId) (c : Chunk) : Nat := if c.jobId = id then c.records.length else 0

namespace Concurrency

theorem rowCount_filter (id : JobId) (chunks : List Chunk) :
    Chunk.rowCount (chunks.filter (·.jobId = id)) = (chunks.map (Chunk.rowsFor id)).sum := by
  unfold Chunk.rowCount
  induction chunks with
  | nil => rfl
  | cons c rest ih =>
    rw [List.filter_cons, List.map_cons, List.sum_cons, ← ih]
    unfold Chunk.rowsFor
    split
    · rename_i h
      rw [if_pos (of_decide_eq_true h), List.map_cons, List.sum_cons]
    · rename_i h
      rw [if_neg fun hid => h (decide_eq_true hid), Nat.zero_add]

namespace Depot

/-- How often the rows of the chunk published at this place have been added to the counters. -/
def timesCounted (s : Depot) (k : Nat) : Nat := s.system.countedIds.count (some ↑(k + 1))

def rowsAt (s : Depot) (id : JobId) (k : Nat) : Nat :=
  (s.system.taken[k]?.map (Chunk.rowsFor id)).getD 0

variable {s : Depot} {id : JobId}

theorem rowCount_published (s : Depot) (id : JobId) :
    Chunk.rowCount (s.system.published id) =
      ∑ k ∈ Finset.range s.system.taken.length, s.rowsAt id k := by
  unfold System.published
  rw [rowCount_filter, Finset.sum_range, ← Fin.sum_univ_fun_getElem]
  refine Finset.sum_congr rfl fun k _ => ?_
  simp [rowsAt]

theorem rowsAt_of_sent {d : Delivery} {k : Nat} {c : Chunk}
    (published : s.system.taken[k]? = some c) (decodes : Chunk.decode c.toJson = .ok d.chunk) :
    s.rowsAt id k = Chunk.rowsFor id d.chunk := by
  obtain ⟨hjob, hlength⟩ := Chunk.of_decode decodes
  unfold rowsAt Chunk.rowsFor
  rw [published, hjob, hlength]
  rfl

/-- Every message that is counted adds the rows of the chunk at its place. -/
theorem sum_rowsFor {ds : List Delivery} (sent : ∀ d ∈ ds, Sent s.system.taken d) :
    (ds.map fun d => Chunk.rowsFor id d.chunk).sum =
      ∑ k ∈ Finset.range s.system.taken.length,
        (ds.map (·.messageId)).count (some ↑(k + 1)) * s.rowsAt id k := by
  -- one more counting adds the rows at the place of its message on either side
  induction ds with
  | nil => simp
  | cons d rest ih =>
    obtain ⟨k, c, hid, hget, hdecode⟩ := sent d List.mem_cons_self
    have hlt : k < s.system.taken.length := (List.getElem?_eq_some_iff.mp hget).1
    rw [List.map_cons, List.sum_cons, ih fun e he => sent e (List.mem_cons_of_mem _ he),
      ← rowsAt_of_sent hget hdecode, List.map_cons, hid]
    have hone : s.rowsAt id k = ∑ l ∈ Finset.range s.system.taken.length,
        if k = l then s.rowsAt id l else 0 := by
      rw [Finset.sum_ite_eq, if_pos (Finset.mem_range.mpr hlt)]
    rw [hone, ← Finset.sum_add_distrib]
    refine Finset.sum_congr rfl fun l _ => ?_
    rw [List.count_cons]
    by_cases hkl : k = l
    · subst hkl
      rw [if_pos rfl, if_pos (beq_self_eq_true _), Nat.add_mul, Nat.one_mul, Nat.add_comm]
    · have hne : ¬(some (↑(k + 1) : Int) == some ↑(l + 1)) = true := by
        rw [beq_iff_eq]
        intro h
        have hsucc := Option.some.inj h
        omega
      rw [if_neg hkl, Nat.zero_add, if_neg hne, Nat.add_zero (List.count _ _)]

theorem rowCount_counted (posted : s.Posted) (id : JobId) :
    Chunk.rowCount (s.system.countedFor id) =
      ∑ k ∈ Finset.range s.system.taken.length, s.timesCounted k * s.rowsAt id k := by
  unfold System.countedFor timesCounted System.countedIds
  rw [rowCount_filter, System.counted_eq, List.map_map]
  exact sum_rowsFor posted.counted

theorem nodup_countedIds_iff (posted : s.Posted) :
    s.system.countedIds.Nodup ↔ ∀ k, s.timesCounted k ≤ 1 := by
  rw [List.nodup_iff_count_le_one]
  refine ⟨fun h k => h _, fun h id => ?_⟩
  by_cases hmem : id ∈ s.system.countedIds
  · obtain ⟨d, hd, rfl⟩ := List.mem_map.mp hmem
    obtain ⟨k, _, hk, -⟩ := posted.counted d hd
    rw [hk]
    exact h k
  · rw [List.count_eq_zero_of_not_mem hmem]
    exact Nat.zero_le 1

theorem rows_counted_le (once : ∀ k, s.timesCounted k ≤ 1) (k : Nat) :
    s.timesCounted k * s.rowsAt id k ≤ s.rowsAt id k := by
  calc s.timesCounted k * s.rowsAt id k ≤ 1 * s.rowsAt id k := Nat.mul_le_mul_right _ (once k)
    _ = s.rowsAt id k := Nat.one_mul _

theorem rowCount_counted_le (posted : s.Posted) (once : ∀ k, s.timesCounted k ≤ 1) (id : JobId) :
    Chunk.rowCount (s.system.countedFor id) ≤ Chunk.rowCount (s.system.published id) := by
  rw [rowCount_counted posted, rowCount_published]
  exact Finset.sum_le_sum fun k _ => rows_counted_le once k

/-- When as many rows are counted as are published, no chunk with rows is left out. -/
theorem timesCounted_eq_one (posted : s.Posted) (once : ∀ k, s.timesCounted k ≤ 1)
    (all : Chunk.rowCount (s.system.published id) ≤ Chunk.rowCount (s.system.countedFor id))
    {k : Nat} {c : Chunk} (published : s.system.taken[k]? = some c) (own : c.jobId = id)
    (rows : c.records ≠ []) : s.timesCounted k = 1 := by
  by_contra hnot
  have hzero : s.timesCounted k = 0 := by
    have honce := once k
    omega
  have hrows : s.rowsAt id k = c.records.length := by
    unfold rowsAt Chunk.rowsFor
    rw [published, ← own]
    simp
  have hpos : 0 < c.records.length := List.length_pos_iff.mpr rows
  rw [rowCount_counted posted, rowCount_published] at all
  refine Nat.not_lt.mpr all (Finset.sum_lt_sum (fun l _ => rows_counted_le once l) ⟨k, ?_, ?_⟩)
  · exact Finset.mem_range.mpr (List.getElem?_eq_some_iff.mp published).1
  · rw [hzero, Nat.zero_mul, hrows]
    exact hpos

end Depot

end Concurrency

end CatalogIntake
