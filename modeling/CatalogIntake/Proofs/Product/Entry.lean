import CatalogIntake.Product.Entry
import CatalogIntake.Proofs.Number.Places

/-!
A record becomes a product just when it can be stored as it is: it has a name, its description is
short, and its price has no more than four places, however the price is written.
-/

namespace CatalogIntake

open Number Text

theorem not_allBlank_iff {s : String} :
    allBlank s = false ↔ ∃ c ∈ s.toList, isBlank c = false := by
  unfold allBlank
  rw [List.all_eq_false]
  simp only [Bool.not_eq_true]

namespace ProductRecord

/-- Nothing of the record would be refused or rounded by the table of products. -/
structure IsStorable (r : ProductRecord) : Prop where
  named : ∃ c ∈ r.name.toList, isBlank c = false
  short : r.description.length ≤ 1000
  exact : ∃ n : ℤ, r.price.value * 10 ^ 4 = n

/-- The first condition that the record violates. -/
inductive Violates (r : ProductRecord) : MappingFault → Prop
  | unnamed (blank : ∀ c ∈ r.name.toList, isBlank c = true) : Violates r .blankName
  | long (named : ∃ c ∈ r.name.toList, isBlank c = false) (long : 1000 < r.description.length) :
    Violates r (.descriptionTooLong r.description.length)
  | fine (named : ∃ c ∈ r.name.toList, isBlank c = false) (short : r.description.length ≤ 1000)
    (fine : ¬ ∃ n : ℤ, r.price.value * 10 ^ 4 = n) : Violates r (.priceScale r.price.render)

end ProductRecord

namespace Product

def toRecord (p : Product) (rowNumber : Option Int) : ProductRecord where
  rowNumber := rowNumber
  internalId := p.internalId
  name := p.name
  description := p.description
  brand := p.brand
  category := p.category
  price := p.price
  currency := p.currency
  stock := p.stock
  ean := p.ean
  color := p.color
  size := p.size
  availability := p.availability

theorem toRecord_injective {p q : Product} {rowNumber : Option Int}
    (h : p.toRecord rowNumber = q.toRecord rowNumber) : p = q := by
  cases p
  cases q
  simpa [toRecord] using h

variable {r : ProductRecord}

theorem priceScale_le_iff (r : ProductRecord) :
    r.price.normalized.scale ≤ priceScaleLimit ↔ ∃ n : ℤ, r.price.value * 10 ^ 4 = n :=
  r.price.scale_normalized_le_iff 4

theorem ofRecord_of_isStorable (h : r.IsStorable) :
    ∃ p, ofRecord r = .ok p ∧ p.toRecord r.rowNumber = r := by
  have named := not_allBlank_iff.mpr h.named
  have exact := (priceScale_le_iff r).mpr h.exact
  unfold ofRecord descriptionLimit
  rw [if_neg (ne_true_of_eq_false named), if_neg (Nat.not_lt.mpr h.short),
    if_neg (Int.not_lt.mpr exact)]
  exact ⟨_, rfl, rfl⟩

theorem ofRecord_of_violates {fault : MappingFault} (h : r.Violates fault) :
    ofRecord r = .error fault := by
  unfold ofRecord descriptionLimit
  cases h with
  | unnamed blank => exact if_pos (List.all_eq_true.mpr blank)
  | long named long =>
    rw [if_neg (ne_true_of_eq_false (not_allBlank_iff.mpr named)), if_pos long]
  | fine named short fine =>
    rw [← priceScale_le_iff] at fine
    rw [if_neg (ne_true_of_eq_false (not_allBlank_iff.mpr named)), if_neg (Nat.not_lt.mpr short),
      if_pos (Int.not_le.mp fine)]

theorem isStorable_or_violates (r : ProductRecord) :
    r.IsStorable ∨ ∃ fault, r.Violates fault := by
  by_cases named : ∃ c ∈ r.name.toList, isBlank c = false
  · by_cases short : r.description.length ≤ 1000
    · by_cases exact : ∃ n : ℤ, r.price.value * 10 ^ 4 = n
      · exact .inl ⟨named, short, exact⟩
      · exact .inr ⟨_, .fine named short exact⟩
    · exact .inr ⟨_, .long named (Nat.not_le.mp short)⟩
  · have blank : ∀ c ∈ r.name.toList, isBlank c = true := by
      intro c hc
      by_contra hvisible
      exact named ⟨c, hc, eq_false_of_ne_true hvisible⟩
    exact .inr ⟨_, .unnamed blank⟩

theorem ofRecord_eq_ok_iff {p : Product} :
    ofRecord r = .ok p ↔ r.IsStorable ∧ p.toRecord r.rowNumber = r := by
  rcases isStorable_or_violates r with storable | ⟨fault, violates⟩
  · obtain ⟨q, hok, hsame⟩ := ofRecord_of_isStorable storable
    rw [hok]
    constructor
    · intro h
      cases h
      exact ⟨storable, hsame⟩
    · rintro ⟨-, h⟩
      rw [toRecord_injective (h.trans hsame.symm)]
  · rw [ofRecord_of_violates violates]
    refine iff_of_false (by simp) ?_
    rintro ⟨storable, -⟩
    obtain ⟨q, hok, -⟩ := ofRecord_of_isStorable storable
    rw [ofRecord_of_violates violates] at hok
    cases hok

theorem ofRecord_eq_error_iff {fault : MappingFault} :
    ofRecord r = .error fault ↔ r.Violates fault := by
  constructor
  · intro h
    rcases isStorable_or_violates r with storable | ⟨found, violates⟩
    · obtain ⟨p, hok, -⟩ := ofRecord_of_isStorable storable
      rw [hok] at h
      cases h
    · rw [ofRecord_of_violates violates] at h
      cases h
      exact violates
  · exact ofRecord_of_violates

theorem isOk_ofRecord_iff : (∃ p, ofRecord r = .ok p) ↔ r.IsStorable := by
  constructor
  · rintro ⟨p, h⟩
    exact (ofRecord_eq_ok_iff.mp h).1
  · intro storable
    obtain ⟨p, hok, -⟩ := ofRecord_of_isStorable storable
    exact ⟨p, hok⟩

/-- Storable is what the price is worth, not how it is written. -/
theorem isStorable_price_iff {price : Decimal} (worth : price.value = r.price.value) :
    ({ r with price } : ProductRecord).IsStorable ↔ r.IsStorable := by
  constructor <;> rintro ⟨named, short, exact⟩
  · exact ⟨named, short, worth ▸ exact⟩
  · exact ⟨named, short, worth.symm ▸ exact⟩

/-- A record is accepted just when it is storable, and then every field is carried over; else the
first violated condition is reported. A price that is worth the same makes no difference. -/
theorem accepted_iff_storable (r : ProductRecord) :
    ((∃ p, ofRecord r = .ok p) ↔ r.IsStorable) ∧
    (∀ p, ofRecord r = .ok p ↔ r.IsStorable ∧ p.toRecord r.rowNumber = r) ∧
    (∀ fault, ofRecord r = .error fault ↔ r.Violates fault) ∧
    ∀ price : Decimal, price.value = r.price.value →
      ((∃ p, ofRecord { r with price } = .ok p) ↔ ∃ p, ofRecord r = .ok p) := by
  refine ⟨isOk_ofRecord_iff, fun _ => ofRecord_eq_ok_iff, fun _ => ofRecord_eq_error_iff, ?_⟩
  intro price worth
  rw [isOk_ofRecord_iff, isOk_ofRecord_iff, isStorable_price_iff worth]

def kettle : ProductRecord where
  rowNumber := some 3
  internalId := "K-1"
  name := "Kettle"
  description := "Enamel, two litres"
  brand := "Acme"
  category := "Kitchen"
  price := ⟨2000000000, 6⟩
  currency := "JPY"
  stock := 4
  ean := "4006381333931"
  color := "Red"
  size := ""
  availability := "in_stock"

/-- With an exponent instead of the zeros, the price is as good. -/
theorem kettle_accepted_by_worth :
    (⟨2, -3⟩ : Decimal).value = kettle.price.value ∧
      (∃ p, ofRecord kettle = .ok p) ∧ ∃ p, ofRecord { kettle with price := ⟨2, -3⟩ } = .ok p := by
  have worth : (⟨2, -3⟩ : Decimal).value = kettle.price.value := by
    norm_num [Decimal.value, kettle]
  obtain ⟨-, -, -, alike⟩ := accepted_iff_storable kettle
  have accepted : ∃ p, ofRecord kettle = .ok p := ⟨_, rfl⟩
  exact ⟨worth, accepted, (alike ⟨2, -3⟩ worth).mpr accepted⟩

end Product

end CatalogIntake
