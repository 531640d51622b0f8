import CatalogIntake.Failure
import CatalogIntake.Product.Entry

namespace CatalogIntake

structure Catalogue where
  products : List Product
  available : Bool
  deriving Repr

namespace Catalogue

def empty : Catalogue := ⟨[], true⟩

def contains (catalogue : Catalogue) (internalId : String) : Bool :=
  catalogue.products.any (·.internalId == internalId)

/-- The first internal id that is stored already or occurs earlier in the batch. -/
def firstDuplicate? (seen : List Product) : List Product → Option String
  | [] => none
  | p :: rest =>
    if seen.any (·.internalId == p.internalId) then some p.internalId
    else firstDuplicate? (p :: seen) rest

def insertBatch (catalogue : Catalogue) (batch : List Product) : Outcome Unit × Catalogue :=
  if !catalogue.available then (.fail .productStoreUnavailable, catalogue)
  else match firstDuplicate? catalogue.products batch with
    | some internalId => (.fail (.duplicateProduct internalId), catalogue)
    | none => (.ok (), { catalogue with products := catalogue.products ++ batch })

def insertOne (catalogue : Catalogue) (product : Product) : Outcome Unit × Catalogue :=
  if !catalogue.available then (.fail .productStoreUnavailable, catalogue)
  else if catalogue.contains product.internalId then
    (.fail (.duplicateProduct product.internalId), catalogue)
  else (.ok (), { catalogue with products := catalogue.products ++ [product] })

end Catalogue

end CatalogIntake
