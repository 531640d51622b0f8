import CatalogIntake.Sql.Script

namespace CatalogIntake.Sql.Products

def insertBatch (sliceSize : Nat) (products : List Product) : Script (Outcome Unit) :=
  if products.isEmpty then .done (.ok ())
  else Script.transaction .insertProducts .commitProducts
    ((slices sliceSize products).map .insertProducts)

def uniqueViolation : String := "23505"
def checkViolation : String := "23514"

def describe : DatabaseError → Failure
  | e@(.server code message) =>
    if code = uniqueViolation then .of (.duplicateRow message)
    else if code = checkViolation then .of (.constraintViolation message)
    else ⟨[.insertProduct], .database e⟩
  | e => ⟨[.insertProduct], .database e⟩

def insertOne (product : Product) : Script (Outcome Unit) :=
  .send (.insertProduct product) fun
    | .ok _ => .done (.ok ())
    | .error e => .done (.error (describe e))

end CatalogIntake.Sql.Products
