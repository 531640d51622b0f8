import CatalogIntake.Store.Products
import Mathlib.Data.List.Nodup

namespace CatalogIntake.Catalogue

def ids (catalogue : Catalogue) : List String := catalogue.products.map (·.internalId)

theorem firstDuplicate?_eq_none_iff (seen batch : List Product) :
    firstDuplicate? seen batch = none ↔
      (batch.map (·.internalId)).Nodup ∧
        ∀ p ∈ batch, p.internalId ∉ seen.map (·.internalId) := by
  induction batch generalizing seen with
  | nil => simp [firstDuplicate?]
  | cons p rest ih =>
    unfold firstDuplicate?
    by_cases hseen : seen.any (·.internalId == p.internalId) = true
    · rw [if_pos hseen]
      obtain ⟨q, hq, hsame⟩ := List.any_eq_true.mp hseen
      have hmem : p.internalId ∈ seen.map (·.internalId) :=
        List.mem_map.mpr ⟨q, hq, by simpa using hsame⟩
      constructor
      · exact fun h => by cases h
      · intro h
        exact absurd hmem (h.2 p List.mem_cons_self)
    · rw [if_neg hseen, ih]
      have hnot : p.internalId ∉ seen.map (·.internalId) := by
        intro hmem
        obtain ⟨q, hq, hsame⟩ := List.mem_map.mp hmem
        exact hseen (List.any_eq_true.mpr ⟨q, hq, by simpa using hsame⟩)
      rw [List.map_cons, List.map_cons, List.nodup_cons]
      constructor
      · rintro ⟨hnodup, hrest⟩
        refine ⟨⟨?_, hnodup⟩, ?_⟩
        · intro hmem
          obtain ⟨q, hq, hsame⟩ := List.mem_map.mp hmem
          exact hrest q hq (List.mem_cons.mpr (.inl hsame))
        · intro q hq
          rcases List.mem_cons.mp hq with rfl | hq
          · exact hnot
          · exact fun hmem => hrest q hq (List.mem_cons_of_mem _ hmem)
      · rintro ⟨⟨hfresh, hnodup⟩, hrest⟩
        refine ⟨hnodup, ?_⟩
        intro q hq hmem
        rcases List.mem_cons.mp hmem with hsame | hmem
        · exact hfresh (List.mem_map.mpr ⟨q, hq, hsame⟩)
        · exact hrest q (List.mem_cons_of_mem p hq) hmem

theorem contains_iff (catalogue : Catalogue) (internalId : String) :
    catalogue.contains internalId = true ↔ internalId ∈ catalogue.ids := by
  unfold contains ids
  rw [List.any_eq_true, List.mem_map]
  constructor
  · rintro ⟨p, hp, hsame⟩
    exact ⟨p, hp, by simpa using hsame⟩
  · rintro ⟨p, hp, hsame⟩
    exact ⟨p, hp, by simpa using hsame⟩

variable (catalogue : Catalogue)

/-- With the catalogue available, a batch fails only for an id that is there or comes twice. -/
theorem insertBatch_cases (available : catalogue.available = true) (batch : List Product) :
    ((batch.map (·.internalId)).Nodup ∧ (∀ p ∈ batch, p.internalId ∉ catalogue.ids) ∧
      catalogue.insertBatch batch =
        (.ok (), { catalogue with products := catalogue.products ++ batch })) ∨
    ∃ f, catalogue.insertBatch batch = (.error f, catalogue) := by
  unfold insertBatch
  rw [available]
  simp only [Bool.not_true, Bool.false_eq_true, if_false]
  cases hduplicate : firstDuplicate? catalogue.products batch with
  | some internalId => exact .inr ⟨_, rfl⟩
  | none =>
    obtain ⟨hnodup, hfresh⟩ := (firstDuplicate?_eq_none_iff _ _).mp hduplicate
    exact .inl ⟨hnodup, hfresh, rfl⟩

theorem insertOne_cases (available : catalogue.available = true) (product : Product) :
    (product.internalId ∉ catalogue.ids ∧
      catalogue.insertOne product =
        (.ok (), { catalogue with products := catalogue.products ++ [product] })) ∨
    (product.internalId ∈ catalogue.ids ∧
      ∃ f, catalogue.insertOne product = (.error f, catalogue)) := by
  unfold insertOne
  rw [available]
  simp only [Bool.not_true, Bool.false_eq_true, if_false]
  by_cases hin : catalogue.contains product.internalId = true
  · rw [if_pos hin]
    exact .inr ⟨(contains_iff _ _).mp hin, _, rfl⟩
  · rw [if_neg hin]
    exact .inl ⟨fun hmem => hin ((contains_iff _ _).mpr hmem), rfl⟩

theorem available_insertBatch (batch : List Product) :
    (catalogue.insertBatch batch).2.available = catalogue.available := by
  unfold insertBatch
  split
  · rfl
  · split <;> rfl

theorem available_insertOne (product : Product) :
    (catalogue.insertOne product).2.available = catalogue.available := by
  unfold insertOne
  split
  · rfl
  · split <;> rfl

variable {catalogue : Catalogue} {batch : List Product}

def Fresh (taken : List String) (batch : List Product) : Prop :=
  (batch.map (·.internalId)).Nodup ∧ ∀ product ∈ batch, product.internalId ∉ taken

theorem insertOne_of_available (available : catalogue.available = true) (product : Product) :
    catalogue.insertOne product =
      if product.internalId ∈ catalogue.ids then
        (.fail (.duplicateProduct product.internalId), catalogue)
      else (.ok (), { catalogue with products := catalogue.products ++ [product] }) := by
  unfold insertOne
  simp only [available, Bool.not_true, Bool.false_eq_true, if_false, contains_iff]

theorem insertBatch_of_fresh (available : catalogue.available = true)
    (fresh : Fresh catalogue.ids batch) :
    catalogue.insertBatch batch =
      (.ok (), { catalogue with products := catalogue.products ++ batch }) := by
  unfold insertBatch
  rw [(firstDuplicate?_eq_none_iff _ _).mpr fresh]
  simp only [available, Bool.not_true, Bool.false_eq_true, if_false]

theorem insertBatch_of_not_fresh (available : catalogue.available = true)
    (disorderly : ¬Fresh catalogue.ids batch) :
    ∃ f, catalogue.insertBatch batch = (.error f, catalogue) := by
  unfold insertBatch
  simp only [available, Bool.not_true, Bool.false_eq_true, if_false]
  cases hduplicate : firstDuplicate? catalogue.products batch with
  | none => exact absurd ((firstDuplicate?_eq_none_iff _ _).mp hduplicate) disorderly
  | some internalId => exact ⟨_, rfl⟩

end CatalogIntake.Catalogue
