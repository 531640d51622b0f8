import CatalogIntake.Proofs.Store.Products

/-!
The product catalogue in the course of time. What is inserted goes in as a whole or not at all, no
internal id comes in twice, and what is in the catalogue stays there as it is.
-/

namespace CatalogIntake

/-- Something that happens to the catalogue: an insertion, or that it is switched off or on. -/
inductive Stocking
  | batch (products : List Product)
  | one (product : Product)
  | supply (available : Bool)
  deriving DecidableEq, Repr

def Stocking.products : Stocking → List Product
  | batch products => products
  | one product => [product]
  | supply _ => []

namespace Catalogue

def answer (catalogue : Catalogue) : Stocking → Outcome Unit × Catalogue
  | .batch products => catalogue.insertBatch products
  | .one product => catalogue.insertOne product
  | .supply available => (.ok (), { catalogue with available })

def after (catalogue : Catalogue) (stocking : Stocking) : Catalogue :=
  (catalogue.answer stocking).2

def run (catalogue : Catalogue) (history : List Stocking) : Catalogue :=
  history.foldl after catalogue

def accepted (catalogue : Catalogue) (stocking : Stocking) : List Product :=
  match (catalogue.answer stocking).1 with
  | .ok _ => stocking.products
  | .error _ => []

def acceptances : Catalogue → List Stocking → List Product
  | _, [] => []
  | catalogue, stocking :: rest =>
    catalogue.accepted stocking ++ acceptances (catalogue.after stocking) rest

variable (catalogue : Catalogue)

theorem fresh_singleton {taken : List String} {product : Product} :
    Fresh taken [product] ↔ product.internalId ∉ taken := by
  simp [Fresh]

theorem insertBatch_of_unavailable (unavailable : catalogue.available = false)
    (batch : List Product) :
    catalogue.insertBatch batch = (.fail .productStoreUnavailable, catalogue) := by
  unfold insertBatch
  rw [unavailable]
  rfl

theorem insertOne_of_unavailable (unavailable : catalogue.available = false) (product : Product) :
    catalogue.insertOne product = (.fail .productStoreUnavailable, catalogue) := by
  unfold insertOne
  rw [unavailable]
  rfl

theorem insertBatch_ok_iff (batch : List Product) :
    (catalogue.insertBatch batch).1 = .ok () ↔
      catalogue.available = true ∧ Fresh catalogue.ids batch := by
  cases available : catalogue.available with
  | false =>
    rw [insertBatch_of_unavailable _ available]
    simp [Outcome.fail]
  | true =>
    by_cases fresh : Fresh catalogue.ids batch
    · rw [insertBatch_of_fresh available fresh]
      exact iff_of_true rfl ⟨rfl, fresh⟩
    · obtain ⟨f, refused⟩ := insertBatch_of_not_fresh available fresh
      rw [refused]
      exact iff_of_false (by simp) fun h => fresh h.2

/-- What is inserted is appended, with ids that are new, or nothing is done. -/
theorem answer_cases (stocking : Stocking) :
    ((catalogue.answer stocking).1 = .ok () ∧ Fresh catalogue.ids stocking.products ∧
      (catalogue.after stocking).products = catalogue.products ++ stocking.products) ∨
    ∃ f, catalogue.answer stocking = (.error f, catalogue) := by
  unfold after
  cases stocking with
  | supply available => exact .inl ⟨rfl, ⟨List.nodup_nil, by simp [Stocking.products]⟩, by
      simp [answer, Stocking.products]⟩
  | batch batch =>
    simp only [answer]
    cases available : catalogue.available with
    | false => exact .inr ⟨_, insertBatch_of_unavailable _ available batch⟩
    | true =>
      by_cases fresh : Fresh catalogue.ids batch
      · rw [insertBatch_of_fresh available fresh]
        exact .inl ⟨rfl, fresh, rfl⟩
      · exact .inr (insertBatch_of_not_fresh available fresh)
  | one product =>
    simp only [answer]
    cases available : catalogue.available with
    | false => exact .inr ⟨_, insertOne_of_unavailable _ available product⟩
    | true =>
      rw [insertOne_of_available available]
      split
      · exact .inr ⟨_, rfl⟩
      · rename_i new
        exact .inl ⟨rfl, fresh_singleton.mpr new, rfl⟩

theorem answer_of_error {stocking : Stocking} {f : Failure}
    (refused : (catalogue.answer stocking).1 = .error f) :
    (catalogue.answer stocking).2 = catalogue := by
  rcases catalogue.answer_cases stocking with ⟨hok, -⟩ | ⟨found, hanswer⟩
  · rw [hok] at refused
    cases refused
  · rw [hanswer]

theorem products_after (stocking : Stocking) :
    (catalogue.after stocking).products =
      catalogue.products ++ catalogue.accepted stocking := by
  unfold accepted
  rcases catalogue.answer_cases stocking with ⟨hok, -, happended⟩ | ⟨f, hanswer⟩
  · rw [hok, happended]
  · simp [after, hanswer]

theorem products_run (history : List Stocking) :
    (catalogue.run history).products = catalogue.products ++ acceptances catalogue history := by
  induction history generalizing catalogue with
  | nil => exact (List.append_nil _).symm
  | cons stocking rest ih =>
    have hrest := ih (catalogue.after stocking)
    rwa [products_after, List.append_assoc] at hrest

theorem nodup_after (distinct : catalogue.ids.Nodup) (stocking : Stocking) :
    (catalogue.after stocking).ids.Nodup := by
  rcases catalogue.answer_cases stocking with ⟨-, ⟨hnodup, hnew⟩, happended⟩ | ⟨f, hanswer⟩
  · unfold ids
    rw [happended, List.map_append, List.nodup_append']
    refine ⟨distinct, hnodup, ?_⟩
    intro id hstored hadded
    obtain ⟨product, hproduct, rfl⟩ := List.mem_map.mp hadded
    exact hnew product hproduct hstored
  · rwa [after, hanswer]

theorem nodup_run (distinct : catalogue.ids.Nodup) (history : List Stocking) :
    (catalogue.run history).ids.Nodup := by
  induction history generalizing catalogue with
  | nil => exact distinct
  | cons stocking rest ih => exact ih _ (catalogue.nodup_after distinct stocking)

theorem products_prefix (history further : List Stocking) :
    (catalogue.run history).products <+: (catalogue.run (history ++ further)).products := by
  unfold run
  rw [List.foldl_append]
  exact ⟨_, ((history.foldl after catalogue).products_run further).symm⟩

/-- Whatever has happened to the catalogue, its ids are distinct, and it holds what it has reported
to be stored. A batch is stored just when the catalogue is available and the ids of the batch are
new, and then behind all that is there; a failure leaves everything as it was; and what is stored
stays, as it is and where it is. -/
theorem stock_distinct (history : List Stocking) :
    (empty.run history).ids.Nodup ∧
    (empty.run history).products = acceptances empty history ∧
    (∀ batch, ((empty.run history).insertBatch batch).1 = .ok () ↔
      (empty.run history).available = true ∧ Fresh (empty.run history).ids batch) ∧
    (∀ batch, ((empty.run history).insertBatch batch).1 = .ok () →
      ((empty.run history).insertBatch batch).2.products =
        (empty.run history).products ++ batch) ∧
    (∀ stocking f, ((empty.run history).answer stocking).1 = .error f →
      ((empty.run history).answer stocking).2 = empty.run history) ∧
    ∀ further, (empty.run history).products <+: (empty.run (history ++ further)).products := by
  refine ⟨nodup_run empty List.nodup_nil history, products_run _ history, insertBatch_ok_iff _, ?_,
    fun _ _ => answer_of_error _, products_prefix _ history⟩
  intro batch stored
  obtain ⟨available, fresh⟩ := (insertBatch_ok_iff _ batch).mp stored
  rw [insertBatch_of_fresh available fresh]

def spoon (internalId : String) : Product where
  internalId := internalId
  name := "Spoon"
  description := "Stainless steel"
  brand := "Acme"
  category := "Cutlery"
  price := ⟨120, 2⟩
  currency := "EUR"
  stock := 48
  ean := "4006381333931"
  color := ""
  size := ""
  availability := "in_stock"

/-- Of seven insertions, four are in vain: one id comes twice in a batch, one is there already, once
the catalogue is switched off, and once both ids are there. -/
def spoons : List Stocking :=
  [.batch [spoon "S1", spoon "S2"], .batch [spoon "S3", spoon "S4", spoon "S3"],
    .batch [spoon "S3", spoon "S2"], .supply false, .one (spoon "S3"), .supply true,
    .one (spoon "S3"), .batch [spoon "S2", spoon "S3"], .batch []]

theorem spoons_distinct :
    (empty.run spoons).ids = ["S1", "S2", "S3"] ∧
    (∃ f, ((empty.run spoons).answer (.one (spoon "S2"))).1 = .error f) ∧
    ((empty.run spoons).answer (.one (spoon "S2"))).2 = empty.run spoons ∧
    ((empty.run spoons).insertBatch [spoon "S5", spoon "S4"]).1 = .ok () ∧
    ((empty.run spoons).insertBatch [spoon "S5", spoon "S4"]).2.products =
      (empty.run spoons).products ++ [spoon "S5", spoon "S4"] := by
  obtain ⟨-, -, succeeds, appends, fails, -⟩ := stock_distinct spoons
  have fresh : Fresh (empty.run spoons).ids [spoon "S5", spoon "S4"] :=
    ⟨by decide, by decide⟩
  have stored := (succeeds [spoon "S5", spoon "S4"]).mpr ⟨rfl, fresh⟩
  exact ⟨rfl, ⟨_, rfl⟩, fails (.one (spoon "S2")) _ rfl, stored, appends _ stored⟩

end Catalogue

end CatalogIntake
