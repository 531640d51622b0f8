import CatalogIntake.Json.Decode
import CatalogIntake.Json.Text
import CatalogIntake.Number.Decimal

namespace CatalogIntake

open Number

structure ProductRecord where
  rowNumber : Option Int
  internalId : String
  name : String
  description : String
  brand : String
  category : String
  price : Decimal
  currency : String
  stock : Int
  ean : String
  color : String
  size : String
  availability : String
  deriving DecidableEq, Repr

namespace ProductRecord

def rowNumberMember : Option Int → Json.Members
  | none => []
  | some n => [("rowNumber", .integer n)]

/-- The members in declared order; a record without row number has no such member. -/
def toJson (r : ProductRecord) : Json :=
  .object (rowNumberMember r.rowNumber ++
    [("internalId", .string r.internalId), ("name", .string r.name),
     ("description", .string r.description), ("brand", .string r.brand),
     ("category", .string r.category), ("price", .string r.price.render),
     ("currency", .string r.currency), ("stock", .integer r.stock), ("ean", .string r.ean),
     ("color", .string r.color), ("size", .string r.size),
     ("availability", .string r.availability)])

def wire (r : ProductRecord) : String := r.toJson.render

/-- The decimal that a binary floating-point number is, with as few places as it needs. A number
too small for 53 bits keeps all places. -/
def exactDecimal (x : Double) : Decimal :=
  if x.mantissa = 0 then ⟨0, 0⟩
  else
    let mantissa : Int := if x.negative then -(x.mantissa : Int) else x.mantissa
    if 0 ≤ x.exponent then ⟨mantissa * Nat.pow 2 x.exponent.toNat, 0⟩
    else
      let halves := x.exponent.natAbs
      let common := if x.mantissa < Double.leastFull then 0 else trailingHalves halves x.mantissa
      ⟨mantissa / Nat.pow 2 common * Nat.pow 5 (halves - common), (halves - common : Nat)⟩
where
  /-- How often `n` can be halved, at most `most` times. -/
  trailingHalves (most n : Nat) : Nat :=
    match most with
    | 0 => 0
    | more + 1 => if n % 2 = 0 then trailingHalves more (n / 2) + 1 else 0

def decodePrice : Json.Decoder Decimal
  | .string s => (Decimal.read s).mapError fun e => .refused e.message
  | .integer n => .ok (Decimal.ofInt n)
  | .double x => .ok (exactDecimal x)
  | value => Json.wrongType value "a number or formatted decimal string"

def fields : Json.Fields ProductRecord :=
  ProductRecord.mk <$> .defaulted "rowNumber" Json.int64 <*> .required "internalId" Json.text
    <*> .required "name" Json.text <*> .required "description" Json.text
    <*> .required "brand" Json.text <*> .required "category" Json.text
    <*> .required "price" decodePrice <*> .required "currency" Json.text
    <*> .required "stock" Json.int32 <*> .required "ean" Json.text
    <*> .required "color" Json.text <*> .required "size" Json.text
    <*> .required "availability" Json.text

def decode : Json.Decoder ProductRecord := Json.record "ProductRecord" fields

end ProductRecord

end CatalogIntake
