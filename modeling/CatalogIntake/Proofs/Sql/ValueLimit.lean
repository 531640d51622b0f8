import CatalogIntake.Proofs.Sql.BulkInsertion

/-!
How many values an insertion binds. The error log is inserted in slices that are far below what one
statement can carry; products only if the configured size of a slice is, which nothing checks.
-/

namespace CatalogIntake.Sql

open Script

section Slices

variable {α : Type} {size : Nat} {items : List α} {statement : List α → Statement}
  {replies : Nat → Answer} {attempt commitAttempt : Attempt}

theorem sent_transaction (attempt commitAttempt : Attempt) (statements : List Statement) :
    (transaction attempt commitAttempt statements).sent replies =
      upToFailure replies 0 (agenda statements) := by
  obtain ⟨result, hrun, -⟩ := run_transaction replies attempt commitAttempt statements
  exact congrArg Prod.snd hrun

theorem cases_of_sent {s : Statement}
    (h : s ∈ (transaction attempt commitAttempt ((slices size items).map statement)).sent replies) :
    s = .begin ∨ s = .commit ∨ ∃ slice ∈ slices size items, s = statement slice := by
  rw [sent_transaction] at h
  have hmem := (upToFailure_begins replies 0 _).subset h
  simp only [agenda, List.mem_append, List.mem_cons, List.mem_map, List.not_mem_nil,
    or_false] at hmem
  rcases hmem with (rfl | ⟨slice, hslice, rfl⟩) | rfl
  · exact .inl rfl
  · exact .inr (.inr ⟨slice, hslice, rfl⟩)
  · exact .inr (.inl rfl)

theorem first_slice_sent (begun : (replies 0).isOk = true) (nonempty : items ≠ []) :
    statement (items.take (max size 1)) ∈
      (transaction attempt commitAttempt ((slices size items).map statement)).sent replies := by
  obtain ⟨rest, hslices⟩ := head_slices size nonempty
  rw [sent_transaction, hslices]
  simp [agenda, upToFailure, begun]

theorem only_begin_sent (broken : (replies 0).isOk = false) :
    (transaction attempt commitAttempt ((slices size items).map statement)).sent replies =
      [.begin] := by
  rw [sent_transaction]
  simp [agenda, upToFailure, broken]

theorem length_slice_le {slice : List α} (h : slice ∈ slices size items) :
    slice.length ≤ min (max size 1) items.length := by
  have whole := (List.sublist_flatten_of_mem h).length_le
  rw [flatten_slices] at whole
  exact Nat.le_min.mpr ⟨(length_of_mem_slices h).2, whole⟩

end Slices

theorem length_flatMap_values {α : Type} (values : α → List Param) {width : Nat}
    (full : ∀ item, (values item).length = width) (items : List α) :
    (items.flatMap values).length = width * items.length := by
  induction items with
  | nil => rfl
  | cons item rest ih =>
    rw [List.flatMap_cons, List.length_append, full, ih, List.length_cons, Nat.mul_succ,
      Nat.add_comm]

theorem length_params_insertProducts (products : List Product) :
    (Statement.insertProducts products).params.length = 12 * products.length :=
  length_flatMap_values Statement.productParams (fun _ => rfl) products

theorem length_params_insertErrors (candidates : List ErrorCandidate) :
    (Statement.insertErrors candidates).params.length = 4 * candidates.length :=
  length_flatMap_values Statement.errorParams (fun _ => rfl) candidates

theorem products_within_limit_iff {size : Nat} (positive : 0 < size) (products : List Product)
    (replies : Nat → Answer) (limit : Nat) :
    (∀ statement ∈ (Products.insertBatch size products).sent replies,
        statement.params.length ≤ limit) ↔
      ((replies 0).isOk = true → 12 * min size products.length ≤ limit) := by
  have hsize : max size 1 = size := by omega
  unfold Products.insertBatch
  cases products with
  | nil => simp [Script.sent, Script.run]
  | cons product rest =>
    simp only [List.isEmpty_cons, Bool.false_eq_true, if_false]
    constructor
    · intro within begun
      have hfirst := within _ (first_slice_sent begun (List.cons_ne_nil product rest))
      rwa [length_params_insertProducts, hsize, List.length_take] at hfirst
    · intro within statement hsent
      cases begun : (replies 0).isOk with
      | false =>
        rw [only_begin_sent begun, List.mem_singleton] at hsent
        subst hsent
        exact Nat.zero_le limit
      | true =>
        rcases cases_of_sent hsent with rfl | rfl | ⟨slice, hslice, rfl⟩
        · exact Nat.zero_le limit
        · exact Nat.zero_le limit
        · have short := length_slice_le hslice
          rw [hsize] at short
          rw [length_params_insertProducts]
          exact (Nat.mul_le_mul_left 12 short).trans (within begun)

theorem errors_within_limit (candidates : List ErrorCandidate) (replies : Nat → Answer)
    {statement : Statement} (h : statement ∈ (Errors.save candidates).sent replies) :
    statement.params.length ≤ 4000 := by
  unfold Errors.save at h
  cases candidates with
  | nil => simp [Script.sent, Script.run] at h
  | cons candidate rest =>
    simp only [List.isEmpty_cons, Bool.false_eq_true, if_false] at h
    rcases cases_of_sent h with rfl | rfl | ⟨slice, hslice, rfl⟩
    · exact Nat.zero_le 4000
    · exact Nat.zero_le 4000
    · have short : slice.length ≤ 1000 := (length_of_mem_slices hslice).2
      rw [length_params_insertErrors]
      omega

theorem storeBatchSize_pos {settings : Settings} (valid : settings.validate = .ok ()) :
    0 < settings.importing.storeBatchSize := by
  apply Nat.pos_of_ne_zero
  intro zero
  have fault : settings.fault? = none := by
    unfold Settings.validate at valid
    split at valid
    · assumption
    · cases valid
  simp only [Settings.fault?, zero, if_true] at fault
  split_ifs at fault

def saucer : Product where
  internalId := "S-1"
  name := "Saucer"
  description := "Porcelain"
  brand := "Acme"
  category := "Kitchen"
  price := ⟨350, 2⟩
  currency := "EUR"
  stock := 6
  ean := "4006381333931"
  color := "White"
  size := ""
  availability := "in_stock"

/-- With valid settings, an insertion of products binds twelve values for each product of its first
slice, so that it keeps within what a statement can carry just when twelve times the size of a slice
or the number of products does; the settings keep all insertions within it just when their slices
have at most 5461 products. What is inserted into the error log always keeps within it. -/
theorem values_within_limit_iff {settings : Settings} (valid : settings.validate = .ok ()) :
    (∀ products replies,
      (∀ statement ∈ (Products.insertBatch settings.importing.storeBatchSize products).sent replies,
        statement.params.length ≤ Statement.valueLimit) ↔
      ((replies 0).isOk = true →
        12 * min settings.importing.storeBatchSize products.length ≤ Statement.valueLimit)) ∧
    ((∀ products replies,
      ∀ statement ∈ (Products.insertBatch settings.importing.storeBatchSize products).sent replies,
        statement.params.length ≤ Statement.valueLimit) ↔
      settings.importing.storeBatchSize ≤ 5461) ∧
    ∀ candidates replies, ∀ statement ∈ (Errors.save candidates).sent replies,
      statement.params.length ≤ 4000 := by
  have positive := storeBatchSize_pos valid
  have each := fun products replies =>
    products_within_limit_iff positive products replies Statement.valueLimit
  refine ⟨each, ?_, fun candidates replies statement h => errors_within_limit candidates replies h⟩
  simp only [each]
  constructor
  · intro within
    have full := within (List.replicate 5462 saucer) (fun _ => .ok (.affected 1)) rfl
    rw [List.length_replicate, Statement.valueLimit] at full
    omega
  · intro small products replies _
    rw [Statement.valueLimit]
    omega

theorem default_values_within_limit :
    ({} : Settings).validate = .ok () ∧
      ∀ products replies, ∀ statement ∈ (Products.insertBatch 500 products).sent replies,
        statement.params.length ≤ Statement.valueLimit :=
  have valid : ({} : Settings).validate = .ok () := rfl
  ⟨valid, (values_within_limit_iff valid).2.1.mpr (by decide)⟩

def largeSlices : Settings := { importing := { storeBatchSize := 5462 } }

/-- These settings are valid, and a full slice binds 65544 values. -/
theorem large_slice_beyond_limit :
    largeSlices.validate = .ok () ∧
      ∃ statement ∈ (Products.insertBatch largeSlices.importing.storeBatchSize
          (List.replicate 5462 saucer)).sent fun _ => .ok (.affected 1),
        statement.params.length = 65544 ∧ Statement.valueLimit < statement.params.length := by
  refine ⟨rfl, .insertProducts ((List.replicate 5462 saucer).take 5462), ?_, ?_⟩
  · exact first_slice_sent rfl (List.cons_ne_nil saucer (List.replicate 5461 saucer))
  · rw [length_params_insertProducts, List.length_take, List.length_replicate]
    decide

end CatalogIntake.Sql
