import CatalogIntake.Product.Record
import CatalogIntake.Text.Blank

namespace CatalogIntake

open Number Text

structure Product where
  internalId : String
  name : String
  description : String
  brand : String
  category : String
  price : Decimal
  currency : String
  stock : Int
  ean : String
  color : String
  size : String
  availability : String
  deriving DecidableEq, Repr

inductive MappingFault
  | blankName
  | descriptionTooLong (length : Nat)
  | priceScale (price : String)
  deriving DecidableEq, Repr

namespace Product

def descriptionLimit : Nat := 1000

def priceScaleLimit : Int := 4

def ofRecord (r : ProductRecord) : Except MappingFault Product :=
  if allBlank r.name then .error .blankName
  else if r.description.length > descriptionLimit then
    .error (.descriptionTooLong r.description.length)
  else if r.price.normalized.scale > priceScaleLimit then .error (.priceScale r.price.render)
  else .ok {
    internalId := r.internalId
    name := r.name
    description := r.description
    brand := r.brand
    category := r.category
    price := r.price
    currency := r.currency
    stock := r.stock
    ean := r.ean
    color := r.color
    size := r.size
    availability := r.availability }

end Product

def MappingFault.text : MappingFault → String
  | .blankName => "product name is blank"
  | .descriptionTooLong n =>
    s!"description has {n} characters, limit is {Product.descriptionLimit}"
  | .priceScale price => s!"price {price} has more than {Product.priceScaleLimit} decimal places"

end CatalogIntake
